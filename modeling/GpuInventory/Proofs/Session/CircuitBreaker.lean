import GpuInventory.Proofs.Failure.Message
import GpuInventory.Proofs.Session.History

/-!
The circuit breaker: after ten failed runs in a row the tool is left alone.

The circuit is open when the engine was set up, knows where the tool is, and has counted as many
failures as it bears.  An open circuit is what a call for discovery tells when it answers that
discovery is disabled, and it is told by nothing else, over HTTP included.  Only a set-up closes it:
every other action finds the engine in the same position and leaves it there, whatever the tool
would do if it were run.

How many failures there can be is a statement about histories, which `Accords` has already settled
for every prefix of one.
-/

namespace GpuInventory

namespace Engine

/-- Whether the tool has failed too often to be run again. -/
def IsOpen (engine : Engine) : Prop :=
  engine.isInitialized = true ∧ engine.path.isSome = true ∧ maxFailures ≤ engine.failures

/-- Nothing has happened to what decides on a discovery call, nor to the inventory. -/
structure Unmoved (before after : Engine) : Prop where
  discovery : after.discovery = before.discovery
  path : after.path = before.path
  failures : after.failures = before.failures
  inventory : after.inventory = before.inventory

namespace Unmoved

variable {a b c : Engine}

theorem refl (a : Engine) : Unmoved a a := ⟨rfl, rfl, rfl, rfl⟩

theorem trans (hab : Unmoved a b) (hbc : Unmoved b c) : Unmoved a c :=
  ⟨hbc.discovery.trans hab.discovery, hbc.path.trans hab.path, hbc.failures.trans hab.failures,
    hbc.inventory.trans hab.inventory⟩

theorem isOpen (h : Unmoved a b) (ha : a.IsOpen) : b.IsOpen := by
  obtain ⟨hd, hp, hf⟩ := ha
  refine ⟨?_, ?_, ?_⟩
  · rw [isInitialized, h.discovery]
    exact hd
  · rw [h.path]
    exact hp
  · rw [h.failures]
    exact hf

end Unmoved

theorem not_isReady_of_isOpen {engine : Engine} (h : engine.IsOpen) : ¬ engine.IsReady :=
  fun hr => Nat.not_lt.mpr h.2.2 hr.2.2

/-- A call for discovery fails as disabled exactly if the circuit is open: no run of the tool ends
that way. -/
theorem discover_value_eq_disabled_iff (engine : Engine) (machine : Command.Machine) :
    (engine.discover machine).value = .error .disabled ↔ engine.IsOpen := by
  by_cases hready : engine.IsReady
  · have hopen : ¬ engine.IsOpen := fun ho => not_isReady_of_isOpen ho hready
    obtain ⟨path, -, he⟩ := discover_of_isReady hready machine
    rw [he, runTool_value]
    refine ⟨fun hv => ?_, fun ho => absurd ho hopen⟩
    rcases ending_cases machine (engine.reportRun machine path) with
      ⟨inventory, hend⟩ | ⟨failure, hend, -, hfault, -⟩ | ⟨reason, -, hend⟩
    · rw [hend] at hv
      cases hv
    · rw [hend] at hv
      cases hv
      exact absurd hfault (by decide)
    · rw [hend] at hv
      cases hv
  · rw [(discover_of_not_isReady hready machine).1, refusal]
    by_cases hd : engine.isInitialized = true
    · cases hp : engine.path with
      | none => simp [IsOpen, hd, hp]
      | some path =>
        have hf : maxFailures ≤ engine.failures := Nat.le_of_not_lt fun hf =>
          hready ⟨hd, by rw [hp]; rfl, hf⟩
        simp [IsOpen, hd, hp, hf]
    · simp [IsOpen, hd]

end Engine

namespace Http

theorem eq_disabled_of_discoveryResponse {result : Except Failure Inventory}
    (h : discoveryResponse result = discoveryResponse (.error .disabled)) :
    result = .error .disabled := by
  have hdisabled : discoveryResponse (.error .disabled) = refusal 503 (Failure.message .disabled) :=
    rfl
  rw [hdisabled] at h
  cases result with
  | ok inventory =>
    have hstatus : (200 : Nat) = 503 := congrArg Response.status h
    exact absurd hstatus (by decide)
  | error failure =>
    rw [discoveryResponse] at h
    by_cases hx : failure.isExpected = true
    · rw [if_pos hx, refusal] at h
      cases hgiven : Text.areEncodable failure.given with
      | true =>
        rw [encoded_of_areEncodable hgiven] at h
        have hbody : Body.json (.object [("detail", .string failure.message)]) =
            .json (.object [("detail", .string (Failure.message .disabled))]) :=
          congrArg Response.body h
        simp only [Body.json.injEq, Json.object.injEq, List.cons.injEq, Prod.mk.injEq,
          Json.string.injEq, and_true, true_and] at hbody
        rw [Failure.eq_disabled_of_message hx hbody]
      | false =>
        rw [encoded_of_not_areEncodable hgiven] at h
        have hstatus : (500 : Nat) = 503 := congrArg Response.status h
        exact absurd hstatus (by decide)
    · rw [if_neg hx] at h
      have hstatus : (500 : Nat) = 503 := congrArg Response.status h
      exact absurd hstatus (by decide)

end Http

namespace Session

/-- Whether an answer says that discovery is disabled, as a failure or over HTTP. -/
def Answer.TellsDisabled (answer : Answer) : Prop :=
  answer = .failed .disabled ∨ answer = .response (Http.discoveryResponse (.error .disabled))

theorem tellsDisabled_tell_iff {action : Action} (h : action.isDiscovery = true)
    (result : Except Failure Inventory) :
    (action.tell result).TellsDisabled ↔ result = .error .disabled := by
  constructor
  · intro ht
    cases action with
    | request request =>
      rcases ht with ht | ht
      · cases ht
      · exact Http.eq_disabled_of_discoveryResponse (Answer.response.inj ht)
    | discover =>
      cases result with
      | ok inventory => rcases ht with ht | ht <;> cases ht
      | error failure =>
        rcases ht with ht | ht <;> cases ht
        rfl
    | refresh =>
      cases result with
      | ok inventory => rcases ht with ht | ht <;> cases ht
      | error failure =>
        rcases ht with ht | ht <;> cases ht
        rfl
    | _ => cases h
  · rintro rfl
    cases action with
    | request request => exact .inr rfl
    | _ => exact .inl rfl

theorem step_tellsDisabled_iff {action : Action} (h : action.isDiscovery = true)
    (session : Session) :
    (session.step action).value.TellsDisabled ↔ session.engine.IsOpen := by
  rw [step_value_of_isDiscovery h, tellsDisabled_tell_iff h, Engine.discover_value_eq_disabled_iff]

/-! ## Which steps run the tool -/

theorem step_runs_ne_nil_iff_of_isDiscovery {action : Action} (h : action.isDiscovery = true)
    (session : Session) : (session.step action).runs ≠ [] ↔ session.engine.IsReady := by
  rw [(session.step_engine action).2, demand_of_isDiscovery h]
  exact session.engine.discover_runs_ne_nil_iff session.world.machine

/-- A set-up tries the tool exactly if it has found it, however often it had failed before. -/
theorem step_runs_ne_nil_iff_of_isSetUp {action : Action} (h : action.isSetUp = true)
    (session : Session) :
    (session.step action).runs ≠ [] ↔ (session.step action).state.engine.path.isSome = true := by
  obtain ⟨discovery, hd⟩ := demand_of_isSetUp h session
  rw [(session.step_engine action).1, (session.step_engine action).2, hd]
  show (Engine.discover _ _).runs ≠ [] ↔ (Engine.discover _ _).state.path.isSome = true
  rw [Engine.discover_runs_ne_nil_iff, Engine.configure_isReady_iff,
    (Engine.discover_frame _ _).2.2.1]
  rfl

theorem length_step_runs_le (session : Session) (action : Action) :
    (session.step action).runs.length ≤ 1 := by
  rw [(session.step_engine action).2]
  cases session.demand action with
  | setUp discovery => exact Engine.length_discover_runs_le _ _
  | discover => exact Engine.length_discover_runs_le _ _
  | setVariable name value => exact Nat.zero_le 1
  | nothing => exact Nat.zero_le 1

theorem step_runs_of_neither {action : Action} (hs : action.isSetUp = false)
    (hd : action.isDiscovery = false) (session : Session) : (session.step action).runs = [] := by
  rw [(session.step_engine action).2]
  rcases demand_of_neither hs hd session with h | ⟨name, value, h⟩ <;> rw [h] <;> rfl

/-! ## The open circuit -/

theorem unmoved_step_of_isOpen {session : Session} (h : session.engine.IsOpen) {action : Action}
    (hs : action.isSetUp = false) :
    (session.step action).runs = [] ∧
      Engine.Unmoved session.engine (session.step action).state.engine := by
  obtain ⟨hengine, hruns⟩ := session.step_engine action
  rw [hengine, hruns]
  cases hd : action.isDiscovery with
  | true =>
    obtain ⟨-, hstate, hr⟩ :=
      Engine.discover_of_not_isReady (Engine.not_isReady_of_isOpen h) session.world.machine
    rw [demand_of_isDiscovery hd]
    refine ⟨hr, ?_⟩
    show Engine.Unmoved session.engine (session.engine.discover session.world.machine).state
    rw [hstate]
    exact Engine.Unmoved.refl session.engine
  | false =>
    rcases demand_of_neither hs hd session with hn | ⟨name, value, hn⟩ <;> rw [hn]
    · exact ⟨rfl, Engine.Unmoved.refl session.engine⟩
    · exact ⟨rfl, rfl, rfl, rfl, rfl⟩

theorem unmoved_after_of_isOpen {session : Session} (h : session.engine.IsOpen)
    {actions : List Action} (hs : ∀ action ∈ actions, action.isSetUp = false) :
    Engine.Unmoved session.engine (session.after actions).engine := by
  induction actions generalizing session with
  | nil => exact Engine.Unmoved.refl session.engine
  | cons action rest ih =>
    have hstep := (unmoved_step_of_isOpen h (hs action List.mem_cons_self)).2
    exact hstep.trans (ih (hstep.isOpen h) fun a ha => hs a (List.mem_cons_of_mem action ha))

/-- The circuit breaker, in every state that a session can reach.

A call for discovery runs the tool exactly if the engine is ready, a set-up exactly if it finds the
tool, nothing else runs it, and no step runs it twice.  The count of failures stays within its
limit, and so does the number of failed runs in any part of the history without a reset.  Once a
call was answered as disabled, nothing but a set-up makes a difference: every further step runs
nothing and leaves the count, the inventory and the path as they were, and every further call for
discovery is answered as disabled again. -/
theorem circuit_breaker (world : World) (discovery : Discovery) (search : Locator.Search)
    (metrics : Option Metrics) (traced : Bool) (actions : List Action) :
    let session := fresh world discovery search metrics traced
    let reached := session.after actions
    (∀ action, action.isDiscovery = true →
        ((reached.step action).runs ≠ [] ↔
          reached.engine.isInitialized = true ∧ reached.engine.path.isSome = true ∧
            reached.engine.failures < maxFailures)) ∧
      (∀ action, action.isSetUp = true →
        ((reached.step action).runs ≠ [] ↔
          (reached.step action).state.engine.path.isSome = true)) ∧
      (∀ action, action.isSetUp = false → action.isDiscovery = false →
        (reached.step action).runs = []) ∧
      (∀ action, (reached.step action).runs.length ≤ 1) ∧
      reached.engine.failures ≤ maxFailures ∧
      (∀ before part rest, session.history actions = before ++ part ++ rest →
        (∀ e ∈ part, e.isReset = false) → part.countP Event.isFault ≤ maxFailures) ∧
      ∀ action, action.isDiscovery = true → (reached.step action).value.TellsDisabled →
        ∀ later next, (∀ a ∈ later ++ [next], a.isSetUp = false) →
          let last := ((reached.step action).state.after later).step next
          last.runs = [] ∧ last.state.engine.failures = reached.engine.failures ∧
            last.state.engine.inventory = reached.engine.inventory ∧
            last.state.engine.path = reached.engine.path ∧
            (next.isDiscovery = true → last.value.TellsDisabled) := by
  intro session reached
  have haccords : Accords reached.engine (session.history actions) :=
    accords_fresh world discovery search metrics traced actions
  refine ⟨fun action hd => step_runs_ne_nil_iff_of_isDiscovery hd reached,
    fun action hs => step_runs_ne_nil_iff_of_isSetUp hs reached,
    fun action hs hd => step_runs_of_neither hs hd reached,
    length_step_runs_le reached, haccords.failures_le, ?_, ?_⟩
  · intro before part rest hsplit hreset
    -- The part ends a prefix of the history, and what it counts is counted there.
    have hprefix : before ++ part <+: session.history actions := ⟨rest, hsplit.symm⟩
    calc part.countP Event.isFault
        ≤ faultsSinceReset before + part.countP Event.isFault := Nat.le_add_left _ _
      _ = faultsSinceReset (before ++ part) :=
          (faultsSinceReset_append_of_no_reset before hreset).symm
      _ ≤ maxFailures := haccords.bounded _ hprefix
  · intro action hd htells later next hs
    have hopen : reached.engine.IsOpen := (step_tellsDisabled_iff hd reached).mp htells
    have hfirst := (unmoved_step_of_isOpen hopen (Action.isSetUp_of_isDiscovery hd)).2
    have hlater := unmoved_after_of_isOpen (hfirst.isOpen hopen)
      fun a ha => hs a (List.mem_append_left [next] ha)
    have hbefore := hfirst.trans hlater
    have hnext := unmoved_step_of_isOpen (hbefore.isOpen hopen)
      (hs next (List.mem_append_right later List.mem_cons_self))
    have hlast := hbefore.trans hnext.2
    exact ⟨hnext.1, hlast.failures, hlast.inventory, hlast.path,
      fun hdisc => (step_tellsDisabled_iff hdisc _).mpr (hbefore.isOpen hopen)⟩

/-- Ten timeouts in a row, the first of them at the set-up, open the circuit; that the tool would
give a report from then on does not close it. -/
theorem circuit_open_after_ten_timeouts :
    let place : Place := .ofPaths "/" ["/usr/bin/nvidia-smi"] []
    let machine : Command.Machine := { outcome := .timedOut, inherited := {} }
    let reached := (fresh { place, machine } {} {} none false).after
      (.setUpEngine none :: List.replicate 9 .discover)
    let repaired := [Action.setOutcome (.exited 0 "<nvidia_smi_log/>".toUTF8.toList []) 0.0]
    let last := ((reached.step .refresh).state.after repaired).step .discover
    reached.engine.failures = maxFailures ∧ (reached.step .refresh).value.TellsDisabled ∧
      last.runs = [] ∧ last.value.TellsDisabled := by
  intro place machine reached repaired last
  have hfailures : reached.engine.failures = maxFailures := by decide +kernel
  have htells : (reached.step .refresh).value.TellsDisabled :=
    (step_tellsDisabled_iff rfl reached).mpr
      ⟨by decide +kernel, by decide +kernel, Nat.le_of_eq hfailures.symm⟩
  obtain ⟨-, -, -, -, -, -, hopen⟩ := circuit_breaker { place, machine } {} {} none false
    (.setUpEngine none :: List.replicate 9 .discover)
  obtain ⟨hruns, -, -, -, hlast⟩ := hopen .refresh rfl htells repaired .discover (by decide)
  exact ⟨hfailures, htells, hruns, hlast rfl⟩

end Session
end GpuInventory
