import GpuInventory.Proofs.Http.Body
import GpuInventory.Proofs.Session.Processes
import GpuInventory.Proofs.Session.UsableDevices

/-!
What the monitor tells about its engine.

A status is put together from two sources: the engine and the settings of the monitor.  What comes
from the engine is right in every state, whoever has set it up.  The allow list comes from the
settings of the monitor, which do not change, and which the engine need not have: it has none before
it is set up, and others if it was set up past the monitor with others.  So the list is the one that
the engine obeys if and only if the last set-up has brought the same one.

Over HTTP the status is told whole, with a word on how well the monitor is, as long as its texts can
be encoded.
-/

namespace GpuInventory

namespace Http

/-- Whether an answer tells a status, with a word on it. -/
def Response.TellsHealth (response : Response) (word : String) (status : Monitor.Status) : Prop :=
  response.status = 200 ∧
    ∃ value, response.body = .json value ∧ readHealth? value = some (word, status)

theorem tellsHealth_answer {status : Monitor.Status}
    (h : Text.areEncodable status.given = true) :
    (answer (healthBody status) status.given).TellsHealth (health status) status := by
  rw [answer, encoded_of_areEncodable h]
  exact ⟨rfl, _, rfl, readHealth?_healthBody status⟩

theorem serve_value_of_asksFor_health {request : Request} (h : request.asksFor .health = true)
    (monitor : Monitor) (world : World) :
    (serve request monitor world).value =
      answer (healthBody monitor.status) monitor.status.given := by
  rw [serve_of_asksFor (by decide) h]
  rfl

/-! ## The word -/

section Word

variable (status : Monitor.Status)

theorem health_eq_initializing_iff :
    health status = "initializing" ↔ status.isInitialized = false := by
  cases h : status.isInitialized with
  | false => simp [health, h]
  | true => cases hd : status.discovered <;> simp [health, h, hd]

theorem health_eq_degraded_iff :
    health status = "degraded" ↔ status.isInitialized = true ∧ status.discovered = none := by
  cases h : status.isInitialized with
  | false => simp [health, h]
  | true => cases hd : status.discovered <;> simp [health, h, hd]

theorem health_eq_healthy_iff :
    health status = "healthy" ↔ status.isInitialized = true ∧ status.discovered ≠ none := by
  cases h : status.isInitialized with
  | false => simp [health, h]
  | true => cases hd : status.discovered <;> simp [health, h, hd]

end Word

end Http

namespace Session

/-! ## The engine -/

/-- A status says of a session that has got somewhere what is so: whether the engine was ever set
up, which program the next run starts, and how many runs have failed, which decides whether there is
a next run. -/
structure TellsEngine (status : Monitor.Status) (reached : Session) (actions : List Action)
    (history : List Event) : Prop where
  isInitialized : status.isInitialized = true ↔ ∃ action ∈ actions, action.isSetUp = true
  /-- Also if the world changes before the next run. -/
  path : ∀ later : List Action, (∀ a ∈ later, a.isSetUp = false) → ∀ action : Action,
    action.isDiscovery = true → ∀ run ∈ ((reached.after later).step action).runs,
      status.path = some run.command.program
  failures : status.failures = faultsSinceReset history
  stops : ∀ action : Action, action.isDiscovery = true →
    ((reached.step action).runs ≠ [] ↔
      status.isInitialized = true ∧ status.path ≠ none ∧ status.failures < maxFailures)
  discovered : status.discovered = (latestInventory history).map Inventory.count

theorem isInitialized_iff (world : World) (discovery : Discovery) (search : Locator.Search)
    (metrics : Option Metrics) (traced : Bool) (actions : List Action) :
    ((fresh world discovery search metrics traced).after actions).engine.isInitialized = true ↔
      ∃ action ∈ actions, action.isSetUp = true := by
  rw [Engine.isInitialized, discovery_of_fresh, Option.isSome_iff_ne_none, Ne,
    latestSettings_eq_none_iff]
  simp

/-- The program that is started next is the one that the engine knows now, whatever happens until
then but a set-up. -/
theorem program_of_step {session : Session} {later : List Action}
    (hlater : ∀ a ∈ later, a.isSetUp = false) {action : Action} (h : action.isDiscovery = true)
    {run : Command.Run} (hrun : run ∈ ((session.after later).step action).runs) :
    session.engine.path = some run.command.program := by
  obtain ⟨-, path, hpath, rfl⟩ := run_of_step hrun
  rw [(step_of_not_isSetUp (Action.isSetUp_of_isDiscovery h) _).2.2,
    (after_of_no_setUp hlater session).1] at hpath
  exact hpath

theorem tellsEngine_status (world : World) (discovery : Discovery) (search : Locator.Search)
    (metrics : Option Metrics) (traced : Bool) (actions : List Action) :
    let session := fresh world discovery search metrics traced
    let reached := session.after actions
    TellsEngine reached.monitor.status reached actions (session.history actions) := by
  intro session reached
  have haccords : Accords reached.engine (session.history actions) :=
    accords_fresh world discovery search metrics traced actions
  exact
    { isInitialized := isInitialized_iff world discovery search metrics traced actions
      path := fun later hlater action hd run hrun => program_of_step hlater hd hrun
      failures := haccords.failures
      stops := fun action hd => by
        -- what the status tells is what `IsReady` looks at
        rw [(reached.step_engine action).2, demand_of_isDiscovery hd]
        show (reached.engine.discover reached.world.machine).runs ≠ [] ↔ _
        rw [Engine.discover_runs_ne_nil_iff, Engine.IsReady, Option.isSome_iff_ne_none]
        rfl
      discovered := congrArg (Option.map Inventory.count) haccords.inventory }

/-! ## The answers -/

/-- What is told about the engine, in every state that a session can reach.

It does not matter how the engine came to be set up, with what and how often: whether it was, the
path, the failures and the number of GPUs are told as they are, and over HTTP, if the texts can be
encoded, a word says how well the engine is.  The allow list that is told is always the one of the
monitor, and so the one that the engine obeys exactly as long as the last set-up has brought no
other one. -/
theorem status_describes_engine (world : World) (discovery : Discovery) (search : Locator.Search)
    (metrics : Option Metrics) (traced : Bool) (actions : List Action) :
    let session := fresh world discovery search metrics traced
    let reached := session.after actions
    let history := session.history actions
    ∃ status, (reached.step .status).value = .status status ∧
      TellsEngine status reached actions history ∧
      (status.allowedDevices = discovery.allowedDevices ∧
        (reached.engine.discovery.map Discovery.allowedDevices = some status.allowedDevices ↔
          (latestSettings discovery actions).map Discovery.allowedDevices =
            some discovery.allowedDevices)) ∧
      ∀ request : Http.Request, request.asksFor .health = true →
        Text.areEncodable status.given = true →
        ∃ response word, (reached.step (.request request)).value = .response response ∧
          response.TellsHealth word status ∧
          (word = "initializing" ↔ ∀ action ∈ actions, action.isSetUp = false) ∧
          (word = "degraded" ↔ (∃ action ∈ actions, action.isSetUp = true) ∧
            ∀ inventory, Event.ran (.ok inventory) ∉ history) ∧
          (word = "healthy" ↔ (∃ action ∈ actions, action.isSetUp = true) ∧
            ∃ inventory, Event.ran (.ok inventory) ∈ history) := by
  intro session reached history
  have htells : TellsEngine reached.monitor.status reached actions history :=
    tellsEngine_status world discovery search metrics traced actions
  have hown : reached.monitor.discovery = discovery := after_own session actions
  have hlist : reached.monitor.status.allowedDevices = discovery.allowedDevices :=
    congrArg Discovery.allowedDevices hown
  have hunknown : reached.monitor.status.discovered = none ↔
      ∀ inventory, Event.ran (.ok inventory) ∉ history := by
    rw [htells.discovered, Option.map_eq_none_iff, latestInventory_eq_none_iff]
  refine ⟨_, rfl, htells, ⟨hlist, ?_⟩, fun request hasks hgiven => ?_⟩
  · rw [hlist, discovery_of_fresh]
  · refine ⟨_, _, congrArg Answer.response (Http.serve_value_of_asksFor_health hasks _ _),
      Http.tellsHealth_answer hgiven, ?_, ?_, ?_⟩
    · rw [Http.health_eq_initializing_iff, ← Bool.not_eq_true, htells.isInitialized]
      simp
    · rw [Http.health_eq_degraded_iff, htells.isInitialized, hunknown]
    · rw [Http.health_eq_healthy_iff, htells.isInitialized, Ne, hunknown]
      simp

/-- The status tells an allow list while the engine has none, and another one than that which the
engine obeys once it was set up past the monitor. -/
theorem status_tells_other_list :
    let place : Place := .ofPaths "/" [] []
    let machine : Command.Machine := { outcome := .timedOut, inherited := {} }
    let session := fresh { place, machine } {} {} none false
    let reached := session.after [.setUpEngine (some { allowedDevices := "1:5" })]
    (session.engine.discovery = none ∧ session.monitor.status.allowedDevices = automatic) ∧
      (reached.engine.usableDevices.value = .ok [⟨1, 5⟩] ∧
        reached.engine.discovery.map Discovery.allowedDevices = some "1:5" ∧
        reached.monitor.status.allowedDevices = automatic) := by
  intro place machine session reached
  have hsettings : reached.engine.discovery = some { allowedDevices := "1:5" } :=
    discovery_of_fresh { place, machine } {} {} none false
      [.setUpEngine (some { allowedDevices := "1:5" })]
  have hown : reached.monitor.discovery = {} :=
    after_own session [.setUpEngine (some { allowedDevices := "1:5" })]
  refine ⟨⟨rfl, rfl⟩, ?_, ?_, ?_⟩
  · rw [Engine.usableDevices_of_list hsettings (by decide)]
    rfl
  · rw [hsettings]
    rfl
  · exact congrArg Discovery.allowedDevices hown

end Session
end GpuInventory
