import GpuInventory.Engine
import GpuInventory.Metrics

/-!
The monitor: the engine as it is seen from outside, with metrics and spans.

The monitor has settings of its own, with which it sets up the engine and which its status shows.
What it tells to metrics and tracing has no influence on what the engine does or on the answers.
-/

namespace GpuInventory

/-- What there is outside the program: the files, the machine that runs processes, how long a
process takes, and the time in seconds. -/
structure World where
  place : Place
  machine : Command.Machine
  seconds : Float := 0.0
  clock : Float := 0.0

namespace World

def after (world : World) (runs : List Command.Run) : World :=
  { world with clock := runs.foldl (fun clock _ => clock + world.seconds) world.clock }

def elapsed (world : World) (runs : List Command.Run) : Float :=
  (world.after runs).clock - world.clock

end World

/-- The engine under observation. -/
structure Monitor where
  discovery : Discovery := {}
  engine : Engine := {}
  metrics : Option Metrics := none
deriving Repr

namespace Monitor

structure Status where
  isInitialized : Bool
  path : Option String
  allowedDevices : String
  failures : Nat
  discovered : Option Nat
deriving DecidableEq, Repr

/-- The texts of a status that are told as they were given. -/
def Status.given (status : Status) : List String :=
  status.path.toList ++ [status.allowedDevices]

/-- The monitor with something told to the metrics, if there are any. -/
def tell (monitor : Monitor) (f : Metrics → Metrics) : Monitor :=
  { monitor with metrics := monitor.metrics.map f }

def recordState (engine : Engine) (m : Metrics) : Metrics :=
  { m with
    failures := engine.failures
    discovered := (engine.inventory.map Inventory.count).getD 0 }

def discoveryInfo (discovery : Discovery) (engine : Engine) : DiscoveryInfo :=
  { allowedDevices := discovery.allowedDevices
    binaryPath := engine.path.getD ""
    driverVersion := (engine.inventory.map (·.driverVersion)).getD "" }

/-- The metrics after setting up.  The tool was run if it was found. -/
def recordSetUp (discovery : Discovery) (engine : Engine) (elapsed : Float) (m : Metrics) :
    Metrics :=
  let m := { m with info := some (discoveryInfo discovery engine) }
  let m :=
    if engine.path.isNone then m.countAttempt .unconfigured
    else (m.observe elapsed).countAttempt (if engine.failures = 0 then .success else .failure)
  recordState engine m

def endingOf : Failure → Ending
  | .disabled => .disabled
  | .notInitialized | .noExecutable | .neverDiscovered => .unconfigured
  | _ => .failure

/-- The metrics after an attempt that failed.  Only an attempt that ran the tool took time. -/
def recordFailure (failure : Failure) (engine : Engine) (elapsed : Float) (m : Metrics) :
    Metrics :=
  let ending := endingOf failure
  let m := if ending = .failure then m.observe elapsed else m
  recordState engine (m.countAttempt ending)

def recordSuccess (engine : Engine) (elapsed : Float) (m : Metrics) : Metrics :=
  recordState engine ((m.observe elapsed).countAttempt .success)

def setUp (monitor : Monitor) (world : World) : Effects Monitor (Except Failure Unit) :=
  let done := monitor.engine.setUp monitor.discovery world.place world.machine
  let after := { monitor with engine := done.state }
  let opening : Trace.Event := .start "gpu_discovery.initialize"
  match done.value with
  | .error failure =>
    { value := .error failure
      state := after
      runs := done.runs
      entries := done.entries
      events := [opening, .finish (some failure)] }
  | .ok _ =>
    { value := .ok ()
      state := after.tell (recordSetUp monitor.discovery done.state (world.elapsed done.runs))
      runs := done.runs
      entries := done.entries ++
        [⟨.monitor, .info,
          "GPU discovery initialized (binary: " ++ done.state.path.getD "None" ++ ")"⟩]
      events :=
        [opening, .property "gpu.binary_path" (.string (done.state.path.getD "")),
          .finish none] }

def refresh (monitor : Monitor) (world : World) : Effects Monitor (Except Failure Inventory) :=
  let done := monitor.engine.discover world.machine
  let after := { monitor with engine := done.state }
  let opening : Trace.Event := .start "gpu_discovery.discover"
  match done.value with
  | .error failure =>
    if failure.isExpected then
      { value := .error failure
        state := after.tell (recordFailure failure done.state (world.elapsed done.runs))
        runs := done.runs
        entries := done.entries
        events :=
          [opening, .raised failure, .failed failure.message, .finish (some failure)] }
    else
      { value := .error failure
        state := after
        runs := done.runs
        entries := done.entries
        events := [opening, .finish (some failure)] }
  | .ok inventory =>
    { value := .ok inventory
      state := after.tell (recordSuccess done.state (world.elapsed done.runs))
      runs := done.runs
      entries := done.entries
      events :=
        [opening, .property "gpu.count" (.integer inventory.count), .finish none] }

def usableDevices (monitor : Monitor) : Effects Monitor (Except Failure (List Device)) :=
  let done := monitor.engine.usableDevices
  let opening : Trace.Event := .start "gpu_discovery.usable_devices"
  match done.value with
  | .error failure =>
    { value := .error failure
      state := monitor
      entries := done.entries
      events := [opening, .finish (some failure)] }
  | .ok devices =>
    { value := .ok devices
      state := monitor.tell fun m => { m with usable := devices.length }
      entries := done.entries
      events :=
        [opening, .property "gpu.usable_count" (.integer devices.length), .finish none] }

def inventory (monitor : Monitor) : Option Inventory :=
  monitor.engine.inventory

/-- What the monitor tells about itself: the allow list is the one of its own settings. -/
def status (monitor : Monitor) : Status :=
  { isInitialized := monitor.engine.isInitialized
    path := monitor.engine.path
    allowedDevices := monitor.discovery.allowedDevices
    failures := monitor.engine.failures
    discovered := monitor.engine.inventory.map Inventory.count }

end Monitor
end GpuInventory
