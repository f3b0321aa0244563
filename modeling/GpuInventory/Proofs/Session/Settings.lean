import GpuInventory.Proofs.Session.History

/-!
What the engine was last set up with.

A set-up through the monitor takes the settings of the monitor, one past it may bring others.  Which
settings the engine has at a time can therefore be told from the actions alone, and `latestSettings`
does so.  The engine keeps them as they are from one set-up to the next, also from a set-up that
failed: they are stored before anything is tried.  Neither the settings of the monitor nor the
directories that are searched ever change.

What the tool has done has no part in this, so a statement about settings needs no history.
-/

namespace GpuInventory
namespace Session

/-- The last of some values is looked for from the end. -/
theorem getLast?_filterMap_cons {α β : Type} (f : α → Option β) (a : α) (rest : List α) :
    ((a :: rest).filterMap f).getLast? = ((rest.filterMap f).getLast?).or (f a) := by
  rw [List.filterMap_cons]
  cases f a with
  | none => simp
  | some b =>
    rw [List.getLast?_cons]
    cases (rest.filterMap f).getLast? <;> rfl

/-- What the engine is set up with at an action, if it is, where `own` are the settings of the
monitor. -/
def Action.settings? (own : Discovery) : Action → Option Discovery
  | .setUpEngine discovery => some (discovery.getD own)
  | .setUpMonitor => some own
  | _ => none

/-- What the engine was last set up with in some actions. -/
def latestSettings (own : Discovery) (actions : List Action) : Option Discovery :=
  (actions.filterMap (Action.settings? own)).getLast?

theorem Action.settings?_eq_none_iff {own : Discovery} {action : Action} :
    action.settings? own = none ↔ action.isSetUp = false := by
  cases action <;> simp [settings?, isSetUp]

theorem latestSettings_eq_none_iff (own : Discovery) (actions : List Action) :
    latestSettings own actions = none ↔ ∀ action ∈ actions, action.isSetUp = false := by
  rw [latestSettings, List.getLast?_eq_none_iff, List.filterMap_eq_nil_iff]
  simp only [Action.settings?_eq_none_iff]

theorem latestSettings_cons (own : Discovery) (action : Action) (rest : List Action) :
    latestSettings own (action :: rest) = (latestSettings own rest).or (action.settings? own) :=
  getLast?_filterMap_cons (Action.settings? own) action rest

theorem mem_of_latestSettings {own discovery : Discovery} {actions : List Action}
    (h : latestSettings own actions = some discovery) :
    discovery ∈ actions.filterMap (Action.settings? own) :=
  List.mem_of_getLast? h

theorem demand_of_settings? {action : Action} {discovery : Discovery} {session : Session}
    (h : action.settings? session.monitor.discovery = some discovery) :
    session.demand action = .setUp discovery := by
  cases action with
  | setUpEngine settings =>
    cases h
    rfl
  | setUpMonitor =>
    cases h
    rfl
  | _ => cases h

/-! ## Steps -/

theorem step_own (session : Session) (action : Action) :
    (session.step action).state.monitor.discovery = session.monitor.discovery := by
  cases action with
  | setUpMonitor => exact session.monitor.setUp_discovery session.world
  | refresh => exact session.monitor.refresh_discovery session.world
  | monitoredDevices => exact session.monitor.usableDevices_discovery
  | request request => exact Http.serve_discovery request session.monitor session.world
  | _ => rfl

theorem step_of_settings? {action : Action} {discovery : Discovery} {session : Session}
    (h : action.settings? session.monitor.discovery = some discovery) :
    (session.step action).state.engine.search = session.engine.search ∧
      (session.step action).state.engine.discovery = some discovery ∧
      (session.step action).state.engine.path =
        (Locator.locate session.world.place session.engine.search discovery.path).value ∧
      (session.step action).state.engine.environment = discovery.environment := by
  rw [(session.step_engine action).1, demand_of_settings? h]
  exact session.engine.setUp_frame discovery session.world.place session.world.machine

theorem step_of_not_isSetUp {action : Action} (h : action.isSetUp = false) (session : Session) :
    (session.step action).state.engine.search = session.engine.search ∧
      (session.step action).state.engine.discovery = session.engine.discovery ∧
      (session.step action).state.engine.path = session.engine.path := by
  rw [(session.step_engine action).1]
  cases hd : action.isDiscovery with
  | true =>
    obtain ⟨hsearch, hdiscovery, hpath, -⟩ :=
      session.engine.discover_frame session.world.machine
    rw [demand_of_isDiscovery hd]
    exact ⟨hsearch, hdiscovery, hpath⟩
  | false =>
    rcases demand_of_neither h hd session with hn | ⟨name, value, hn⟩ <;> rw [hn] <;>
      exact ⟨rfl, rfl, rfl⟩

theorem step_search (session : Session) (action : Action) :
    (session.step action).state.engine.search = session.engine.search := by
  cases h : action.settings? session.monitor.discovery with
  | none => exact (step_of_not_isSetUp (Action.settings?_eq_none_iff.mp h) session).1
  | some discovery => exact (step_of_settings? h).1

theorem step_discovery (session : Session) (action : Action) :
    (session.step action).state.engine.discovery =
      (action.settings? session.monitor.discovery).or session.engine.discovery := by
  cases h : action.settings? session.monitor.discovery with
  | none => exact (step_of_not_isSetUp (Action.settings?_eq_none_iff.mp h) session).2.1
  | some discovery => exact (step_of_settings? h).2.1

/-! ## Sessions -/

theorem after_own (session : Session) (actions : List Action) :
    (session.after actions).monitor.discovery = session.monitor.discovery := by
  induction actions generalizing session with
  | nil => rfl
  | cons action rest ih => rw [after_cons, ih, step_own]

theorem after_search (session : Session) (actions : List Action) :
    (session.after actions).engine.search = session.engine.search := by
  induction actions generalizing session with
  | nil => rfl
  | cons action rest ih => rw [after_cons, ih, step_search]

theorem after_discovery (session : Session) (actions : List Action) :
    (session.after actions).engine.discovery =
      (latestSettings session.monitor.discovery actions).or session.engine.discovery := by
  induction actions generalizing session with
  | nil => rfl
  | cons action rest ih =>
    rw [after_cons, ih, step_own, step_discovery, latestSettings_cons, Option.or_assoc]

/-- In every state that a session can reach, the engine has the settings of the last set-up. -/
theorem discovery_of_fresh (world : World) (discovery : Discovery) (search : Locator.Search)
    (metrics : Option Metrics) (traced : Bool) (actions : List Action) :
    ((fresh world discovery search metrics traced).after actions).engine.discovery =
      latestSettings discovery actions := by
  rw [after_discovery]
  exact Option.or_none

end Session
end GpuInventory
