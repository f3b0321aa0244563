import GpuInventory.Proofs.Engine.Discovery

/-!
Failures that the engine contains, and the one kind that gets past it.

A tool may fail in many ways: it exits with a code, it writes what is no report, it is killed when
its time is over, or the system cannot start it.  All of these are counted, told to the caller as
failures that callers reckon with, and do not keep a set-up from finishing.

A command can also be refused before anything is started, for instance because a variable of its
environment holds a null character.  That failure is not counted and passes through a set-up, so
that the circuit breaker never sees it.  The theorem at the end says that it is the only exception,
and that it always is one.
-/

namespace GpuInventory
namespace Engine

/-- Whether commands cannot even be put to the system. -/
def Refuses (machine : Command.Machine) : Prop :=
  ∃ reason, machine.outcome = .refused reason

theorem ending_of_refused {machine : Command.Machine} {reason : String}
    (h : machine.outcome = .refused reason) (run : Command.Run) :
    ending machine run = .error (.command (.refused reason)) := by
  unfold ending
  rw [h]
  rfl

/-- A run fails in a way that nobody reckons with exactly if its command is refused. -/
theorem isExpected_iff_of_ending {machine : Command.Machine} {run : Command.Run}
    {failure : Failure} (he : ending machine run = .error failure) :
    failure.isExpected = true ↔ ¬ Refuses machine := by
  rcases ending_cases machine run with
    ⟨inventory, hend⟩ | ⟨fault, hend, hexpected, -, hnot⟩ | ⟨reason, ho, hend⟩
  · rw [he] at hend
    cases hend
  · rw [he] at hend
    cases hend
    exact ⟨fun _ ⟨reason, ho⟩ => hnot reason ho, fun _ => hexpected⟩
  · rw [he] at hend
    cases hend
    exact ⟨fun h => absurd h Bool.false_ne_true, fun h => absurd ⟨reason, ho⟩ h⟩

theorem refusal_isExpected (engine : Engine) : engine.refusal.isExpected = true := by
  unfold refusal
  split
  · rfl
  · split <;> rfl

theorem discover_of_runs_ne_nil {engine : Engine} {machine : Command.Machine}
    (h : (engine.discover machine).runs ≠ []) :
    ∃ run, (engine.discover machine).value = ending machine run ∧
      (engine.discover machine).state = engine.keep (ending machine run) := by
  obtain ⟨path, -, he⟩ :=
    discover_of_isReady ((engine.discover_runs_ne_nil_iff machine).mp h) machine
  rw [he]
  exact ⟨engine.reportRun machine path, engine.runTool_value machine path,
    engine.runTool_state machine path⟩

/-- A call for discovery fails in a way that nobody reckons with exactly if it runs the tool and the
command is refused. -/
theorem discover_isExpected_iff (engine : Engine) (machine : Command.Machine) :
    (∀ failure, (engine.discover machine).value = .error failure → failure.isExpected = true) ↔
      ¬ engine.IsReady ∨ ¬ Refuses machine := by
  by_cases hready : engine.IsReady
  · obtain ⟨path, -, he⟩ := discover_of_isReady hready machine
    rw [he, runTool_value]
    constructor
    · intro h
      refine .inr fun ⟨reason, ho⟩ => ?_
      exact absurd (h _ (ending_of_refused ho _)) Bool.false_ne_true
    · rintro (h | h) failure hend
      · exact absurd hready h
      · exact (isExpected_iff_of_ending hend).mpr h
  · rw [(discover_of_not_isReady hready machine).1]
    refine ⟨fun _ => .inl hready, fun _ failure hvalue => ?_⟩
    cases hvalue
    exact engine.refusal_isExpected

/-- A set-up finishes exactly if its first try gives no failure that nobody reckons with. -/
theorem setUp_value_eq_ok_iff (engine : Engine) (discovery : Discovery) (place : Place)
    (machine : Command.Machine) :
    (engine.setUp discovery place machine).value = .ok () ↔
      ∀ failure, ((engine.configure discovery place).value.discover machine).value =
        .error failure → failure.isExpected = true := by
  unfold setUp
  dsimp only
  cases ((engine.configure discovery place).value.discover machine).value with
  | ok inventory =>
    refine ⟨fun _ failure hvalue => ?_, fun _ => rfl⟩
    cases hvalue
  | error failure =>
    show (if failure.isExpected then _ else _) = _ ↔ _
    by_cases hx : failure.isExpected = true
    · rw [if_pos hx]
      refine ⟨fun _ other hvalue => ?_, fun _ => rfl⟩
      cases hvalue
      exact hx
    · rw [if_neg hx]
      refine ⟨fun hvalue => ?_, fun h => absurd (h failure rfl) hx⟩
      cases hvalue

/-- What is contained, and what is not, in every state of the engine, for every setting, place and
machine.

A set-up fails exactly if it finds the tool and the command is refused.  A run without an inventory
is told as a failure that callers reckon with and counted once, unless the command was refused;
then the reason is told as it is, and the engine remembers nothing of the run, however often it is
repeated. -/
theorem contains_all_but_refused (engine : Engine) (discovery : Discovery) (place : Place)
    (machine : Command.Machine) :
    ((engine.setUp discovery place machine).value = .ok () ↔
        (Locator.locate place engine.search discovery.path).value = none ∨ ¬ Refuses machine) ∧
      (∀ failure, (engine.discover machine).runs ≠ [] →
        (engine.discover machine).value = .error failure →
          (failure.isExpected = true ∧
              (engine.discover machine).state.failures = engine.failures + 1 ↔
            ¬ Refuses machine)) ∧
      ∀ reason, machine.outcome = .refused reason → (engine.discover machine).runs ≠ [] →
        (engine.discover machine).value = .error (.command (.refused reason)) ∧
          (engine.discover machine).state = engine := by
  refine ⟨?_, ?_, ?_⟩
  · rw [setUp_value_eq_ok_iff, discover_isExpected_iff, configure_isReady_iff]
    cases (Locator.locate place engine.search discovery.path).value <;> simp
  · intro failure hruns hvalue
    obtain ⟨run, hrun, hstate⟩ := discover_of_runs_ne_nil hruns
    have hend : ending machine run = .error failure := hrun.symm.trans hvalue
    rw [← isExpected_iff_of_ending hend]
    refine and_iff_left_of_imp fun hx => ?_
    rw [hstate, hend, keep, if_pos hx]
  · intro reason ho hruns
    obtain ⟨run, hrun, hstate⟩ := discover_of_runs_ne_nil hruns
    rw [hrun, hstate, ending_of_refused ho]
    exact ⟨rfl, rfl⟩

/-- A null character in a variable of the tool makes the set-up fail and the calls after it go
uncounted. -/
theorem escapes_for_null_character :
    let place : Place := .ofPaths "/" ["/usr/bin/nvidia-smi"] []
    let machine : Command.Machine := { outcome := .refused "embedded null byte", inherited := {} }
    let discovery : Discovery := { environment := .ofList [("GPU_TOKEN", "a\x00b")] }
    let started := ({} : Engine).setUp discovery place machine
    let called := started.state.discover machine
    (started.runs.length = 1 ∧ started.value ≠ .ok () ∧ started.state.failures = 0) ∧
      called.runs.length = 1 ∧ called.value = .error (.command (.refused "embedded null byte")) ∧
        called.state.failures = 0 := by
  intro place machine discovery started called
  have hlocated : (Locator.locate place {} "").value ≠ none := by decide +kernel
  have hrefuses : Refuses machine := ⟨_, rfl⟩
  have hvalue : started.value ≠ .ok () := by
    rw [Ne, setUp_value_eq_ok_iff, discover_isExpected_iff, configure_isReady_iff]
    rintro (h | h)
    · exact h (Option.isSome_iff_ne_none.mpr hlocated)
    · exact h hrefuses
  have hran : called.runs.length = 1 := by decide +kernel
  obtain ⟨run, hrun, -⟩ := discover_of_runs_ne_nil (List.ne_nil_of_length_eq_add_one hran)
  exact ⟨⟨by decide +kernel, hvalue, by decide +kernel⟩, hran,
    hrun.trans (ending_of_refused rfl run), by decide +kernel⟩

end Engine
end GpuInventory
