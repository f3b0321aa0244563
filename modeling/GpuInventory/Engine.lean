import GpuInventory.Failure
import GpuInventory.FileTree
import GpuInventory.Json.Basic

/-!
The engine: it finds the tool, runs it, and keeps what the last good report said.

Every run of the tool that gives no inventory is counted, unless the command could not even be put
to the system, which nobody reckons with; a run that gives an inventory sets the count to zero.
When the count has reached its limit, the tool is not run any more until the engine is set up anew.
The inventory that is kept is the one of the last good report; setting up anew does not forget it.

What an operation does besides giving an answer is told with the answer: it leaves a new state
behind, may have run processes, and tells the log and the tracing about it.
-/

namespace GpuInventory

/-! ## Effects -/

/-- One thing told about a span, that is, to the tracing of an operation. -/
inductive Trace.Event where
  | start (name : String)
  | property (key : String) (value : Json)
  | raised (failure : Failure)
  | failed (description : String)
  /-- The span ends, perhaps with a failure that leaves it. -/
  | finish (leaving : Option Failure)

/-- The answer of an operation, the state it leaves behind, and what it did. -/
structure Effects (σ α : Type) where
  value : α
  state : σ
  runs : List Command.Run := []
  entries : List Log.Entry := []
  events : List Trace.Event := []

namespace Effects

variable {σ τ α β : Type}

def mapValue (f : α → β) (e : Effects σ α) : Effects σ β :=
  { e with value := f e.value }

def mapState (f : σ → τ) (e : Effects σ α) : Effects τ α :=
  { e with state := f e.state }

def none (state : σ) (value : α) : Effects σ α :=
  { value, state }

end Effects

/-! ## The engine -/

structure Engine where
  search : Locator.Search := {}
  /-- What it was last set up with. -/
  discovery : Option Discovery := none
  /-- Where the tool was found then. -/
  path : Option String := none
  /-- What is added to the environment of the tool. -/
  environment : Environment := {}
  /-- How many runs in a row have given no inventory. -/
  failures : Nat := 0
  /-- What the last good report said. -/
  inventory : Option Inventory := none
deriving Repr

namespace Engine

/-- How long the tool may run, in seconds. -/
def timeout : Float := 10.0

def reportCommand (path : String) : Command :=
  { program := path, arguments := ["-x", "-q"] }

/-- What the log says about a run without an inventory. -/
def complaint (path : String) : Failure → Log.Entry
  | .report fault => ⟨.engine, .warning, "Failed to parse xml output: " ++ fault.message⟩
  | failure =>
    ⟨.engine, .debug,
      "Failed to execute " ++ path ++ " exception message: " ++ failure.message ++
        ", continue ..."⟩

def inventoryOf (machine : Command.Machine) (result : Except Command.Fault String) :
    Except Failure Inventory :=
  match result with
  | .error fault => .error (.command fault)
  | .ok text =>
    match Report.read text.toList machine.describe with
    | .error fault => .error (.report fault)
    | .ok inventory => .ok inventory

def runTool (engine : Engine) (machine : Command.Machine) (path : String) :
    Effects Engine (Except Failure Inventory) :=
  let attempt := Command.run machine (reportCommand path) engine.environment timeout
  match inventoryOf machine attempt.result with
  | .ok inventory =>
    { value := .ok inventory
      state := { engine with inventory := some inventory, failures := 0 }
      runs := [attempt.run]
      entries := attempt.entries }
  | .error failure =>
    if failure.isExpected then
      { value := .error failure
        state := { engine with failures := engine.failures + 1 }
        runs := [attempt.run]
        entries := attempt.entries ++ [complaint path failure] }
    else
      { value := .error failure
        state := engine
        runs := [attempt.run]
        entries := attempt.entries }

/-- Discovers the GPUs: runs the tool once, if it is known where it is and it has not failed too
often. -/
def discover (engine : Engine) (machine : Command.Machine) :
    Effects Engine (Except Failure Inventory) :=
  match engine.discovery, engine.path with
  | none, _ => .none engine (.error .notInitialized)
  | some _, none => .none engine (.error .noExecutable)
  | some _, some path =>
    if maxFailures ≤ engine.failures then
      { value := .error .disabled
        state := engine
        entries := [⟨.engine, .error, Failure.message .disabled⟩] }
    else engine.runTool machine path

/-- The engine with new settings, before the tool is tried. -/
def configure (engine : Engine) (discovery : Discovery) (place : Place) : Logged Engine :=
  let located := Locator.locate place engine.search discovery.path
  { value :=
      { engine with
        discovery := some discovery
        path := located.value
        environment := discovery.environment
        failures := 0 }
    entries := located.entries }

/-- What the log says about the first try after setting up. -/
def firstWord : Except Failure Inventory → List Log.Entry
  | .ok inventory => [⟨.engine, .info, inventory.summary⟩]
  | .error failure =>
    if failure.isExpected then
      [⟨.engine, .warning,
        "Failed to discover GPU information from system, exception message: " ++
          failure.message ++ " continue..."⟩]
    else []

/-- Sets up the engine and tries the tool once.  That the tool fails is no reason not to go on, as
long as callers reckon with the failure. -/
def setUp (engine : Engine) (discovery : Discovery) (place : Place)
    (machine : Command.Machine) : Effects Engine (Except Failure Unit) :=
  let configured := engine.configure discovery place
  let tried := configured.value.discover machine
  { value := match tried.value with
      | .ok _ => .ok ()
      | .error failure => if failure.isExpected then .ok () else .error failure
    state := tried.state
    runs := tried.runs
    entries := configured.entries ++
      ⟨.engine, .info, "Trying to discover GPU information ..."⟩ :: tried.entries ++
        firstWord tried.value }

def discoveredDevices (engine : Engine) : Logged (Except Failure (List Device)) :=
  match engine.inventory with
  | some inventory =>
    { value := .ok inventory.list.value, entries := inventory.list.entries }
  | none =>
    .saying .engine .error (Failure.message .neverDiscovered) (.error .neverDiscovered)

def listedDevices (allowedDevices : String) : Logged (Except Failure (List Device)) :=
  let list := AllowList.read allowedDevices
  { value := match list.value with
      | .ok devices => .ok devices
      | .error fault => .error (.allowList fault)
    entries := list.entries }

/-- The devices that may be used: those of the allow list, or those that were discovered. -/
def usableDevices (engine : Engine) : Logged (Except Failure (List Device)) :=
  match engine.discovery with
  | none => .silent (.error .notInitialized)
  | some discovery =>
    if discovery.allowedDevices = automatic then engine.discoveredDevices
    else listedDevices discovery.allowedDevices

def isInitialized (engine : Engine) : Bool :=
  engine.discovery.isSome

/-- The engine with one more variable for the tool, or another value of it. -/
def setVariable (engine : Engine) (name value : String) : Engine :=
  { engine with environment := engine.environment.set name value }

end Engine
end GpuInventory
