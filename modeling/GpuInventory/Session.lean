import GpuInventory.Http

/-!
Sessions: any order of calls on the engine, on the monitor around it and on the HTTP interface, and
of changes in the world around them.

A call on the engine goes past the monitor, so neither metrics nor tracing hear of it.  Without
tracing nothing is told about spans, which changes nothing else.
-/

namespace GpuInventory

/-- The monitor in a world, perhaps with tracing. -/
structure Session where
  world : World
  monitor : Monitor := {}
  traced : Bool := true

namespace Session

inductive Action where
  /-- The engine is set up past the monitor, with settings of its own if there are any. -/
  | setUpEngine (discovery : Option Discovery)
  | discover
  | usableDevices
  | lastInventory
  /-- The monitor sets up the engine. -/
  | setUpMonitor
  | refresh
  | monitoredDevices
  | monitoredInventory
  | status
  | request (request : Http.Request)
  | metrics
  /-- From now on this comes of starting a process, and it takes this long. -/
  | setOutcome (outcome : Command.Outcome) (seconds : Float)
  | setPlace (place : Place)
  | setInherited (inherited : Environment)
  /-- A variable is added to the environment that the engine keeps for the tool. -/
  | setVariable (name value : String)
deriving Repr

inductive Answer where
  | nothing
  | inventory (inventory : Option Inventory)
  | devices (devices : List Device)
  | status (status : Monitor.Status)
  | response (response : Http.Response)
  /-- The lines that the metrics tell, before they are encoded. -/
  | metrics (lines : Option (List String))
  | failed (failure : Failure)

def Answer.ofExcept {α : Type} (f : α → Answer) : Except Failure α → Answer
  | .ok value => f value
  | .error failure => .failed failure

/-- A session in which an operation on the monitor has been carried out. -/
def carryOut (session : Session) (done : Effects Monitor Answer) : Effects Session Answer :=
  { value := done.value
    state := { session with monitor := done.state, world := session.world.after done.runs }
    runs := done.runs
    entries := done.entries
    events := if session.traced then done.events else [] }

/-- A session in which an operation on the engine has been carried out past the monitor. -/
def carryOutPast (session : Session) (done : Effects Engine Answer) : Effects Session Answer :=
  session.carryOut (done.mapState fun engine => { session.monitor with engine })

/-- The answer of an operation on the engine that only looks. -/
def look (session : Session) (done : Logged Answer) : Effects Session Answer :=
  { value := done.value, state := session, entries := done.entries }

def change (session : Session) (f : World → World) : Effects Session Answer :=
  .none { session with world := f session.world } .nothing

def step (session : Session) (action : Action) : Effects Session Answer :=
  let world := session.world
  let monitor := session.monitor
  let engine := monitor.engine
  match action with
  | .setUpEngine discovery =>
    session.carryOutPast
      ((engine.setUp (discovery.getD monitor.discovery) world.place world.machine).mapValue
        (.ofExcept fun _ => .nothing))
  | .discover =>
    session.carryOutPast
      ((engine.discover world.machine).mapValue (.ofExcept fun i => .inventory (some i)))
  | .usableDevices =>
    let found := engine.usableDevices
    session.look { value := .ofExcept .devices found.value, entries := found.entries }
  | .lastInventory => .none session (.inventory engine.inventory)
  | .setUpMonitor =>
    session.carryOut ((monitor.setUp world).mapValue (.ofExcept fun _ => .nothing))
  | .refresh =>
    session.carryOut ((monitor.refresh world).mapValue (.ofExcept fun i => .inventory (some i)))
  | .monitoredDevices =>
    session.carryOut (monitor.usableDevices.mapValue (.ofExcept .devices))
  | .monitoredInventory => .none session (.inventory monitor.inventory)
  | .status => .none session (.status monitor.status)
  | .request request =>
    session.carryOut ((Http.serve request monitor world).mapValue .response)
  | .metrics => .none session (.metrics (monitor.metrics.map Metrics.lines))
  | .setOutcome outcome seconds =>
    session.change fun w => { w with machine := { w.machine with outcome }, seconds }
  | .setPlace place => session.change fun w => { w with place }
  | .setInherited inherited =>
    session.change fun w => { w with machine := { w.machine with inherited } }
  | .setVariable name value =>
    .none { session with monitor := { monitor with engine := engine.setVariable name value } }
      .nothing

def run (session : Session) : List Action → List (Effects Session Answer)
  | [] => []
  | action :: rest =>
    let done := session.step action
    done :: done.state.run rest

def after (session : Session) (actions : List Action) : Session :=
  actions.foldl (fun session action => (session.step action).state) session

end Session
end GpuInventory
