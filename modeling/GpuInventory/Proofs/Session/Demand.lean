import GpuInventory.Proofs.Monitor.Calls
import GpuInventory.Session

/-!
What a session asks of its engine.

Fifteen kinds of action reach the engine in four ways only: it is set up, it is asked for a
discovery, a variable is added to the environment that it keeps for the tool, or it is left alone.
`demand` says which of the four an action is, and `step_engine` that the engine and the processes
after a step are those of the demand, whatever the monitor, the tracing and the HTTP interface do
around it.  A statement about the engine in a session is then one about four cases.
-/

namespace GpuInventory
namespace Session

def engine (session : Session) : Engine :=
  session.monitor.engine

/-! ## Demands -/

/-- What an action asks of the engine. -/
inductive Demand where
  | setUp (discovery : Discovery)
  | discover
  | setVariable (name value : String)
  | nothing

namespace Demand

def engineAfter (demand : Demand) (engine : Engine) (world : World) : Engine :=
  match demand with
  | .setUp discovery => (engine.setUp discovery world.place world.machine).state
  | .discover => (engine.discover world.machine).state
  | .setVariable name value => engine.setVariable name value
  | .nothing => engine

def runs (demand : Demand) (engine : Engine) (world : World) : List Command.Run :=
  match demand with
  | .setUp discovery => (engine.setUp discovery world.place world.machine).runs
  | .discover => (engine.discover world.machine).runs
  | .setVariable _ _ => []
  | .nothing => []

end Demand

/-- What an action asks of the engine of a session. -/
def demand (session : Session) : Action → Demand
  | .setUpEngine discovery => .setUp (discovery.getD session.monitor.discovery)
  | .setUpMonitor => .setUp session.monitor.discovery
  | .discover | .refresh => .discover
  | .request request => if request.callsDiscovery then .discover else .nothing
  | .setVariable name value => .setVariable name value
  | _ => .nothing

/-- What a step does to the engine is what its demand does to it. -/
theorem step_engine (session : Session) (action : Action) :
    (session.step action).state.engine =
        (session.demand action).engineAfter session.engine session.world ∧
      (session.step action).runs =
        (session.demand action).runs session.engine session.world := by
  cases action with
  | setUpMonitor => exact session.monitor.setUp_engine session.world
  | refresh => exact session.monitor.refresh_engine session.world
  | monitoredDevices => exact session.monitor.usableDevices_engine
  | request request =>
    rw [demand]
    show (Http.serve request session.monitor session.world).state.engine = _ ∧
      (Http.serve request session.monitor session.world).runs = _
    cases h : request.callsDiscovery with
    | true =>
      rw [Http.serve_of_callsDiscovery h]
      exact session.monitor.refresh_engine session.world
    | false => exact Http.serve_of_not_callsDiscovery h session.monitor session.world
  | setUpEngine discovery => exact ⟨rfl, rfl⟩
  | discover => exact ⟨rfl, rfl⟩
  | usableDevices => exact ⟨rfl, rfl⟩
  | lastInventory => exact ⟨rfl, rfl⟩
  | monitoredInventory => exact ⟨rfl, rfl⟩
  | status => exact ⟨rfl, rfl⟩
  | metrics => exact ⟨rfl, rfl⟩
  | setOutcome outcome seconds => exact ⟨rfl, rfl⟩
  | setPlace place => exact ⟨rfl, rfl⟩
  | setInherited inherited => exact ⟨rfl, rfl⟩
  | setVariable name value => exact ⟨rfl, rfl⟩

/-! ## Set-ups and calls for discovery -/

namespace Action

def isSetUp : Action → Bool
  | .setUpEngine _ | .setUpMonitor => true
  | _ => false

/-- Whether an action is a call for discovery: on the engine, on the monitor or over HTTP. -/
def isDiscovery : Action → Bool
  | .discover | .refresh => true
  | .request r => r.callsDiscovery
  | _ => false

/-- How a call for discovery tells what came of it. -/
def tell : Action → Except Failure Inventory → Answer
  | .request _, result => .response (Http.discoveryResponse result)
  | _, result => .ofExcept (fun inventory => .inventory (some inventory)) result

end Action

theorem Action.isSetUp_of_isDiscovery {action : Action} (h : action.isDiscovery = true) :
    action.isSetUp = false := by
  cases action with
  | setUpEngine discovery => cases h
  | setUpMonitor => cases h
  | _ => rfl

theorem demand_of_isSetUp {action : Action} (h : action.isSetUp = true) (session : Session) :
    ∃ discovery, session.demand action = .setUp discovery := by
  cases action with
  | setUpEngine discovery => exact ⟨_, rfl⟩
  | setUpMonitor => exact ⟨_, rfl⟩
  | _ => cases h

theorem demand_of_isDiscovery {action : Action} (h : action.isDiscovery = true)
    (session : Session) : session.demand action = .discover := by
  cases action with
  | discover => rfl
  | refresh => rfl
  | request request => exact if_pos h
  | _ => cases h

theorem demand_of_neither {action : Action} (hs : action.isSetUp = false)
    (hd : action.isDiscovery = false) (session : Session) :
    session.demand action = .nothing ∨
      ∃ name value, session.demand action = .setVariable name value := by
  cases action with
  | setUpEngine discovery => cases hs
  | setUpMonitor => cases hs
  | discover => cases hd
  | refresh => cases hd
  | request request =>
    rw [Action.isDiscovery] at hd
    exact .inl (if_neg (by simp [hd]))
  | setVariable name value => exact .inr ⟨name, value, rfl⟩
  | _ => exact .inl rfl

/-- The answer to a call for discovery is what the engine has found, however the call was made. -/
theorem step_value_of_isDiscovery {action : Action} (h : action.isDiscovery = true)
    (session : Session) :
    (session.step action).value =
      action.tell (session.engine.discover session.world.machine).value := by
  cases action with
  | discover => rfl
  | refresh =>
    show Answer.ofExcept _ (session.monitor.refresh session.world).value = _
    rw [Monitor.refresh_value]
    rfl
  | request request =>
    show Answer.response (Http.serve request session.monitor session.world).value = _
    rw [Http.serve_of_callsDiscovery h]
    show Answer.response
      (Http.discoveryResponse (session.monitor.refresh session.world).value) = _
    rw [Monitor.refresh_value]
    rfl
  | _ => cases h

/-! ## Sessions -/

theorem after_cons (session : Session) (action : Action) (rest : List Action) :
    session.after (action :: rest) = (session.step action).state.after rest := rfl

end Session
end GpuInventory
