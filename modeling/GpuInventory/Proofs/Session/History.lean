import GpuInventory.Proofs.Session.Demand

/-!
The history of a session, and the account that the engine keeps of it.

A history is what can be told of the engine without looking into it: that it was set up, and what
each run of the tool came to.  The processes are those that the steps of the session show, and what
one of them came to is read off the machine of its moment, so nothing in a history is taken from the
state of the engine.

The engine keeps two things of its history: how many runs have failed since the last one that gave
an inventory or since the last set-up, and the inventory of the last run that gave one.  `Accords`
says that both are right, and that the failures have never been more than the engine bears.  It
holds of a fresh engine and is kept by every event, hence by every step and by every session.
-/

namespace GpuInventory
namespace Session

/-- A session at its beginning, with an engine that nothing was asked of yet. -/
def fresh (world : World) (discovery : Discovery) (search : Locator.Search)
    (metrics : Option Metrics) (traced : Bool) : Session :=
  { world, monitor := { discovery, engine := { search }, metrics }, traced }

/-! ## Histories -/

/-- One thing that happens to the engine. -/
inductive Event where
  /-- It is set up. -/
  | setUp
  /-- It runs the tool, and this comes of it. -/
  | ran (ending : Except Failure Inventory)

namespace Event

/-- Whether failures are counted anew from here on. -/
def isReset : Event → Bool
  | .setUp => true
  | .ran (.ok _) => true
  | .ran (.error _) => false

def isFault : Event → Bool
  | .setUp => false
  | .ran ending => Engine.isFault ending

def inventory? : Event → Option Inventory
  | .ran (.ok inventory) => some inventory
  | _ => none

end Event

/-- What the runs of the tool come to on a machine. -/
def runEvents (machine : Command.Machine) (runs : List Command.Run) : List Event :=
  runs.map fun run => .ran (Engine.ending machine run)

/-- What happens to the engine in a step.  A set-up tries the tool after everything else. -/
def events (session : Session) (action : Action) : List Event :=
  (if action.isSetUp then [.setUp] else []) ++
    runEvents session.world.machine (session.step action).runs

/-- What happens to the engine in a session. -/
def history (session : Session) : List Action → List Event
  | [] => []
  | action :: rest => session.events action ++ (session.step action).state.history rest

/-- How many runs have failed since the last set-up or the last inventory. -/
def faultsSinceReset (events : List Event) : Nat :=
  (events.reverse.takeWhile fun e => !e.isReset).countP Event.isFault

/-- The last inventory that a run has given. -/
def latestInventory (events : List Event) : Option Inventory :=
  (events.filterMap Event.inventory?).getLast?

theorem faultsSinceReset_concat (events : List Event) (e : Event) :
    faultsSinceReset (events ++ [e]) =
      if e.isReset then 0 else faultsSinceReset events + if e.isFault then 1 else 0 := by
  unfold faultsSinceReset
  rw [List.reverse_append, List.reverse_singleton, List.singleton_append]
  by_cases h : e.isReset = true
  · simp [h]
  · simp [h, List.countP_cons]

theorem latestInventory_concat (events : List Event) (e : Event) :
    latestInventory (events ++ [e]) = e.inventory?.or (latestInventory events) := by
  unfold latestInventory
  rw [List.filterMap_append, List.getLast?_append]
  cases h : e.inventory? <;> simp [h]

theorem latestInventory_eq_none_iff (events : List Event) :
    latestInventory events = none ↔ ∀ inventory, Event.ran (.ok inventory) ∉ events := by
  rw [latestInventory, List.getLast?_eq_none_iff, List.filterMap_eq_nil_iff]
  constructor
  · intro h inventory hmem
    exact absurd (h _ hmem) (by simp [Event.inventory?])
  · intro h e hmem
    cases e with
    | setUp => rfl
    | ran ending =>
      cases ending with
      | ok inventory => exact absurd hmem (h inventory)
      | error failure => rfl

theorem faultsSinceReset_append_of_no_reset (events : List Event) {more : List Event}
    (h : ∀ e ∈ more, e.isReset = false) :
    faultsSinceReset (events ++ more) = faultsSinceReset events + more.countP Event.isFault := by
  have hall : ∀ e ∈ more.reverse, (!e.isReset) = true := by
    intro e he
    rw [h e (List.mem_reverse.mp he)]
    rfl
  unfold faultsSinceReset
  rw [List.reverse_append, List.takeWhile_append_of_pos hall, List.countP_append,
    List.countP_reverse, Nat.add_comm]

/-! ## The account -/

/-- The engine remembers its history rightly. -/
structure Accords (engine : Engine) (history : List Event) : Prop where
  failures : engine.failures = faultsSinceReset history
  inventory : engine.inventory = latestInventory history
  /-- At no time there were more failures than the engine bears. -/
  bounded : ∀ past, past <+: history → faultsSinceReset past ≤ maxFailures

namespace Accords

variable {engine : Engine} {history : List Event}

theorem of_fresh (search : Locator.Search) : Accords { search } [] where
  failures := rfl
  inventory := rfl
  bounded := by
    intro past hp
    rw [List.prefix_nil.mp hp]
    exact Nat.zero_le maxFailures

theorem failures_le (h : Accords engine history) : engine.failures ≤ maxFailures := by
  rw [h.failures]
  exact h.bounded history (List.prefix_refl history)

theorem concat (h : Accords engine history) {after : Engine} {e : Event}
    (hfailures : after.failures = faultsSinceReset (history ++ [e]))
    (hinventory : after.inventory = latestInventory (history ++ [e]))
    (hle : after.failures ≤ maxFailures) : Accords after (history ++ [e]) where
  failures := hfailures
  inventory := hinventory
  bounded := by
    intro past hp
    -- Of all prefixes only the whole history is new.
    rcases List.prefix_concat_iff.mp hp with rfl | hp
    · rw [← hfailures]
      exact hle
    · exact h.bounded past hp

theorem configure (h : Accords engine history) (discovery : Discovery) (place : Place) :
    Accords (engine.configure discovery place).value (history ++ [.setUp]) := by
  refine h.concat ?_ ?_ (Nat.zero_le maxFailures)
  · rw [faultsSinceReset_concat]
    rfl
  · rw [latestInventory_concat, ← h.inventory]
    rfl

theorem keep (h : Accords engine history) (hf : engine.failures < maxFailures)
    (machine : Command.Machine) (run : Command.Run) :
    Accords (engine.keep (Engine.ending machine run))
      (history ++ [.ran (Engine.ending machine run)]) := by
  rcases Engine.ending_cases machine run with
    ⟨inventory, he⟩ | ⟨failure, he, hexpected, hfault, -⟩ | ⟨reason, -, he⟩
  · rw [he]
    refine h.concat ?_ ?_ (Nat.zero_le maxFailures)
    · rw [faultsSinceReset_concat]
      rfl
    · rw [latestInventory_concat]
      rfl
  · rw [he, Engine.keep, if_pos hexpected]
    refine h.concat ?_ ?_ hf
    · rw [faultsSinceReset_concat, ← h.failures, Event.isFault, hfault]
      rfl
    · rw [latestInventory_concat, ← h.inventory]
      rfl
  · rw [he]
    refine h.concat ?_ ?_ (Nat.le_of_lt hf)
    · rw [faultsSinceReset_concat, ← h.failures]
      rfl
    · rw [latestInventory_concat, ← h.inventory]
      rfl

theorem discover (h : Accords engine history) (machine : Command.Machine) :
    Accords (engine.discover machine).state
      (history ++ runEvents machine (engine.discover machine).runs) := by
  by_cases hready : engine.IsReady
  · obtain ⟨path, -, he⟩ := Engine.discover_of_isReady hready machine
    rw [he, Engine.runTool_state, Engine.runTool_runs]
    exact h.keep hready.2.2 machine (engine.reportRun machine path)
  · obtain ⟨-, hstate, hruns⟩ := Engine.discover_of_not_isReady hready machine
    rw [hstate, hruns]
    simpa [runEvents] using h

end Accords

/-! ## Sessions -/

/-- A call for discovery either is one run, whose ending is the result, or is turned away without a
run. -/
theorem discovered_of_isDiscovery {action : Action} (h : action.isDiscovery = true)
    (session : Session) :
    (session.engine.IsReady ∧ ∃ ending, session.events action = [.ran ending] ∧
        (session.engine.discover session.world.machine).value = ending) ∨
      (¬ session.engine.IsReady ∧ session.events action = [] ∧
        (session.engine.discover session.world.machine).value =
          .error session.engine.refusal) := by
  have hs : action.isSetUp = false := Action.isSetUp_of_isDiscovery h
  have hruns : (session.step action).runs =
      (session.engine.discover session.world.machine).runs := by
    rw [(session.step_engine action).2, demand_of_isDiscovery h session]
    rfl
  rw [events, hs, if_neg Bool.false_ne_true, List.nil_append, hruns]
  by_cases hready : session.engine.IsReady
  · obtain ⟨path, -, he⟩ := Engine.discover_of_isReady hready session.world.machine
    rw [he, Engine.runTool_runs, Engine.runTool_value]
    exact .inl ⟨hready, _, rfl, rfl⟩
  · obtain ⟨hvalue, -, hr⟩ := Engine.discover_of_not_isReady hready session.world.machine
    rw [hvalue, hr]
    exact .inr ⟨hready, rfl, rfl⟩

/-- However the call is made, its answer tells the ending of the run or why there was none. -/
theorem events_of_isDiscovery {action : Action} (h : action.isDiscovery = true)
    (session : Session) :
    (session.engine.IsReady ∧ ∃ ending, session.events action = [.ran ending] ∧
        (session.step action).value = action.tell ending) ∨
      (¬ session.engine.IsReady ∧ session.events action = [] ∧
        (session.step action).value = action.tell (.error session.engine.refusal)) := by
  rw [step_value_of_isDiscovery h]
  rcases discovered_of_isDiscovery h session with
    ⟨hready, ending, hevents, hvalue⟩ | ⟨hready, hevents, hvalue⟩
  · exact .inl ⟨hready, ending, hevents, congrArg action.tell hvalue⟩
  · exact .inr ⟨hready, hevents, congrArg action.tell hvalue⟩

/-- A call for discovery gives an inventory exactly if it makes a run that does. -/
theorem events_eq_ran_ok_iff {action : Action} (h : action.isDiscovery = true) (session : Session)
    (inventory : Inventory) :
    session.events action = [.ran (.ok inventory)] ↔
      (session.engine.discover session.world.machine).value = .ok inventory := by
  rcases discovered_of_isDiscovery h session with
    ⟨-, ending, hevents, hvalue⟩ | ⟨-, hevents, hvalue⟩
  · simp [hevents, hvalue]
  · simp [hevents, hvalue]

/-- The step lemma: whatever an action does, the engine accounts for it. -/
theorem accords_step {session : Session} {past : List Event} (h : Accords session.engine past)
    (action : Action) :
    Accords (session.step action).state.engine (past ++ session.events action) := by
  obtain ⟨hengine, hruns⟩ := session.step_engine action
  rw [hengine, events, hruns]
  cases hs : action.isSetUp with
  | true =>
    obtain ⟨discovery, hd⟩ := demand_of_isSetUp hs session
    -- A set-up is a reset, and then a call for discovery like any other.
    rw [hd, if_pos rfl, ← List.append_assoc]
    exact (h.configure discovery session.world.place).discover session.world.machine
  | false =>
    rw [if_neg Bool.false_ne_true, List.nil_append]
    cases hd : action.isDiscovery with
    | true =>
      rw [demand_of_isDiscovery hd session]
      exact h.discover session.world.machine
    | false =>
      rcases demand_of_neither hs hd session with hn | ⟨name, value, hn⟩
      · rw [hn]
        simpa [Demand.engineAfter, Demand.runs, runEvents] using h
      · rw [hn]
        have hset : Accords (session.engine.setVariable name value) past :=
          ⟨h.failures, h.inventory, h.bounded⟩
        simpa [Demand.engineAfter, Demand.runs, runEvents] using hset

theorem accords_after {session : Session} {past : List Event} (h : Accords session.engine past)
    (actions : List Action) :
    Accords (session.after actions).engine (past ++ session.history actions) := by
  induction actions generalizing session past with
  | nil =>
    rw [history, List.append_nil]
    exact h
  | cons action rest ih =>
    rw [after_cons, history, ← List.append_assoc]
    exact ih (accords_step h action)

theorem accords_fresh (world : World) (discovery : Discovery) (search : Locator.Search)
    (metrics : Option Metrics) (traced : Bool) (actions : List Action) :
    Accords ((fresh world discovery search metrics traced).after actions).engine
      ((fresh world discovery search metrics traced).history actions) := by
  have h := accords_after (show Accords (fresh world discovery search metrics traced).engine []
    from Accords.of_fresh search) actions
  rwa [List.nil_append] at h

/-- In every state that a session can reach, the engine's count is the number of failed runs since
the last reset, and the inventory it holds is that of the last run of the whole session that gave
one: set-ups in between do not make it forget.  A run that a call has made is answered with its
ending, so the inventory is also the one that was told to the caller. -/
theorem engine_accounts_for_history (world : World) (discovery : Discovery)
    (search : Locator.Search) (metrics : Option Metrics) (traced : Bool) (actions : List Action) :
    let session := fresh world discovery search metrics traced
    let reached := session.after actions
    let history := session.history actions
    reached.engine.failures = faultsSinceReset history ∧
      reached.engine.inventory = latestInventory history ∧
      (reached.engine.inventory = none ↔ ∀ inventory, Event.ran (.ok inventory) ∉ history) ∧
      ∀ action ending, action.isDiscovery = true → reached.events action = [.ran ending] →
        (reached.step action).value = action.tell ending := by
  have h := accords_fresh world discovery search metrics traced actions
  refine ⟨h.failures, h.inventory, ?_, ?_⟩
  · rw [h.inventory]
    exact latestInventory_eq_none_iff _
  · intro action ending hd he
    rcases events_of_isDiscovery hd _ with ⟨-, told, hran, hvalue⟩ | ⟨-, hnone, -⟩
    · rw [hran] at he
      cases he
      exact hvalue
    · rw [hnone] at he
      exact absurd he (by simp)

end Session
end GpuInventory
