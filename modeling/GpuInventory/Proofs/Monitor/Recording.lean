import GpuInventory.Proofs.Engine.Containment
import GpuInventory.Proofs.Monitor.Calls

/-!
What the metrics are told about a call.

A call for discovery is recorded by its result: it counts as one attempt with the ending that the
result has, and if that is the ending of a run, the time is taken in as well.  A set-up is recorded
otherwise in the code, by where the tool is and by the count of failures afterwards, for it does not
tell the result of its first try.  What is recorded is the same: without the tool the first try is
turned away, and a run leaves no failures if it gives an inventory and one if it does not.  That
holds as long as commands are not refused, since a refusal is recorded by nobody.
-/

namespace GpuInventory

/-- Whether an attempt with this ending ran the tool. -/
def Ending.isRun : Ending → Bool
  | .success | .failure => true
  | .disabled | .unconfigured => false

namespace Metrics

theorem getD_lookup_incrementIn (ending other : Ending) (attempts : List (Ending × Nat)) :
    ((incrementIn ending attempts).lookup other).getD 0 =
      (attempts.lookup other).getD 0 + if ending = other then 1 else 0 := by
  induction attempts with
  | nil =>
    rw [incrementIn, List.lookup_cons]
    by_cases h : ending = other
    · simp [h]
    · simp [h, beq_false_of_ne (Ne.symm h)]
  | cons entry rest ih =>
    obtain ⟨e, n⟩ := entry
    rw [incrementIn]
    by_cases he : e = ending
    · rw [if_pos he, List.lookup_cons, List.lookup_cons]
      by_cases h : ending = other
      · simp [he, h]
      · simp [he, h, beq_false_of_ne (Ne.symm h)]
    · rw [if_neg he, List.lookup_cons, List.lookup_cons]
      by_cases ho : other = e
      · subst ho
        simp [Ne.symm he]
      · rw [beq_false_of_ne ho]
        exact ih

theorem attemptCount_countAttempt (m : Metrics) (ending other : Ending) :
    (m.countAttempt ending).attemptCount other =
      m.attemptCount other + if ending = other then 1 else 0 :=
  getD_lookup_incrementIn ending other m.attempts

/-- How many attempts there were. -/
def attemptTotal (m : Metrics) : Nat :=
  m.attemptCount .success + m.attemptCount .failure + m.attemptCount .disabled +
    m.attemptCount .unconfigured

theorem attemptTotal_countAttempt (m : Metrics) (ending : Ending) :
    (m.countAttempt ending).attemptTotal = m.attemptTotal + 1 := by
  unfold attemptTotal
  cases ending <;> simp only [attemptCount_countAttempt] <;> simp <;> omega

end Metrics

namespace Monitor

/-! ## Calls for discovery -/

/-- How a call for discovery is counted. -/
def callEnding : Except Failure Inventory → Ending
  | .ok _ => .success
  | .error failure => endingOf failure

/-- The metrics after a call for discovery. -/
def recordCall (result : Except Failure Inventory) (engine : Engine) (elapsed : Float)
    (m : Metrics) : Metrics :=
  let m := if (callEnding result).isRun then m.observe elapsed else m
  recordState engine (m.countAttempt (callEnding result))

theorem recordFailure_eq (failure : Failure) (engine : Engine) (elapsed : Float) (m : Metrics) :
    recordFailure failure engine elapsed m = recordCall (.error failure) engine elapsed m := by
  cases failure <;> rfl

/-- A run ends in success or in failure, according to whether it gives an inventory. -/
theorem callEnding_ending {machine : Command.Machine} (h : ¬ Engine.Refuses machine)
    (run : Command.Run) :
    (∃ inventory, Engine.ending machine run = .ok inventory ∧
        callEnding (Engine.ending machine run) = .success) ∨
      ∃ failure, Engine.ending machine run = .error failure ∧ failure.isExpected = true ∧
        callEnding (Engine.ending machine run) = .failure := by
  rcases Engine.ending_cases machine run with
    ⟨inventory, he⟩ | ⟨failure, he, hexpected, hfault, -⟩ | ⟨reason, ho, -⟩
  · exact .inl ⟨inventory, he, by rw [he]; rfl⟩
  · refine .inr ⟨failure, he, hexpected, ?_⟩
    rw [he]
    cases failure with
    | command fault => rfl
    | report fault => rfl
    | _ => cases hfault
  · exact absurd ⟨reason, ho⟩ h

/-- A call that is turned away does not count as a run. -/
theorem isRun_callEnding_refusal (engine : Engine) :
    (callEnding (.error engine.refusal)).isRun = false := by
  unfold Engine.refusal
  split
  · rfl
  · split <;> rfl

/-- What a call is counted as, and the runs that it made. -/
theorem callEnding_discover {machine : Command.Machine} (h : ¬ Engine.Refuses machine)
    (engine : Engine) :
    (∃ run inventory, (engine.discover machine).runs = [run] ∧
        Engine.ending machine run = .ok inventory ∧
        callEnding (engine.discover machine).value = .success) ∨
      (∃ run failure, (engine.discover machine).runs = [run] ∧
        Engine.ending machine run = .error failure ∧
        callEnding (engine.discover machine).value = .failure) ∨
      ((engine.discover machine).runs = [] ∧
        (callEnding (engine.discover machine).value).isRun = false) := by
  by_cases hready : engine.IsReady
  · obtain ⟨path, -, he⟩ := Engine.discover_of_isReady hready machine
    rw [he, Engine.runTool_runs, Engine.runTool_value]
    rcases callEnding_ending h (engine.reportRun machine path) with
      ⟨inventory, hend, hcall⟩ | ⟨failure, hend, -, hcall⟩
    · exact .inl ⟨_, inventory, rfl, hend, hcall⟩
    · exact .inr (.inl ⟨_, failure, rfl, hend, hcall⟩)
  · obtain ⟨hvalue, -, hruns⟩ := Engine.discover_of_not_isReady hready machine
    rw [hvalue, hruns]
    exact .inr (.inr ⟨rfl, isRun_callEnding_refusal engine⟩)

section Calls

variable (result : Except Failure Inventory) (engine : Engine) (elapsed : Float) (m : Metrics)

theorem attemptCount_recordCall (ending : Ending) :
    (recordCall result engine elapsed m).attemptCount ending =
      m.attemptCount ending + if callEnding result = ending then 1 else 0 := by
  have h := Metrics.attemptCount_countAttempt
    (if (callEnding result).isRun then m.observe elapsed else m) (callEnding result) ending
  rw [recordCall]
  refine h.trans (congrArg (· + _) ?_)
  split <;> rfl

theorem attemptTotal_recordCall :
    (recordCall result engine elapsed m).attemptTotal = m.attemptTotal + 1 := by
  have h := Metrics.attemptTotal_countAttempt
    (if (callEnding result).isRun then m.observe elapsed else m) (callEnding result)
  rw [recordCall]
  refine h.trans (congrArg (· + _) ?_)
  split <;> rfl

theorem durations_recordCall :
    (recordCall result engine elapsed m).durations =
      if (callEnding result).isRun then m.durations.observe elapsed else m.durations := by
  show (if (callEnding result).isRun then m.observe elapsed else m).durations = _
  split <;> rfl

theorem usable_recordCall : (recordCall result engine elapsed m).usable = m.usable := by
  show (if (callEnding result).isRun then m.observe elapsed else m).usable = _
  split <;> rfl

end Calls

/-! ## Set-ups -/

/-- A set-up is recorded like the call for discovery that it makes. -/
theorem recordSetUp_eq (engine : Engine) (discovery : Discovery) (place : Place)
    {machine : Command.Machine} (h : ¬ Engine.Refuses machine) (elapsed : Float) (m : Metrics) :
    let done := (engine.configure discovery place).value.discover machine
    recordSetUp discovery done.state elapsed m =
      recordCall done.value done.state elapsed
        { m with info := some (discoveryInfo discovery done.state) } := by
  intro done
  have hpath : done.state.path = (engine.configure discovery place).value.path :=
    (Engine.discover_frame _ machine).2.2.1
  by_cases hready : (engine.configure discovery place).value.IsReady
  · obtain ⟨path, hlocated, he⟩ := Engine.discover_of_isReady hready machine
    have hvalue : done.value = _ := (congrArg Effects.value he).trans (Engine.runTool_value _ _ _)
    have hstate : done.state = _ := (congrArg Effects.state he).trans (Engine.runTool_state _ _ _)
    have hfound : ¬ done.state.path.isNone = true := by
      rw [hpath, hlocated]
      exact Bool.false_ne_true
    -- The count of failures was zero before, so it tells what the run came to.
    rcases callEnding_ending h ((engine.configure discovery place).value.reportRun machine path)
      with ⟨inventory, hend, hcall⟩ | ⟨failure, hend, hexpected, hcall⟩
    · rw [← hvalue] at hcall
      have hzero : done.state.failures = 0 := by
        rw [hstate, hend]
        rfl
      unfold recordSetUp recordCall
      dsimp only
      rw [if_neg hfound, if_pos hzero, hcall]
      rfl
    · rw [← hvalue] at hcall
      have hone : done.state.failures ≠ 0 := by
        rw [hstate, hend, Engine.keep, if_pos hexpected]
        exact Nat.succ_ne_zero _
      unfold recordSetUp recordCall
      dsimp only
      rw [if_neg hfound, if_neg hone, hcall]
      rfl
  · obtain ⟨hvalue, hstate, -⟩ := Engine.discover_of_not_isReady hready machine
    have hmissing : (engine.configure discovery place).value.path.isNone = true := by
      rw [Engine.configure_isReady_iff] at hready
      rw [Engine.configure_path]
      exact Option.not_isSome_iff_eq_none.mp hready ▸ rfl
    have hcall : callEnding done.value = .unconfigured := by
      show callEnding (Engine.discover _ machine).value = _
      rw [hvalue, Engine.refusal, if_neg (by simp [Engine.isInitialized]), if_pos hmissing]
      rfl
    unfold recordSetUp recordCall
    dsimp only
    rw [hpath, if_pos hmissing, hcall]
    rfl

/-! ## The metrics after a call -/

section Calls

variable (monitor : Monitor) {world : World}

theorem setUp_metrics (h : ¬ Engine.Refuses world.machine) :
    let done := (monitor.engine.configure monitor.discovery world.place).value.discover world.machine
    (monitor.setUp world).state.metrics = monitor.metrics.map fun m =>
      recordCall done.value done.state (world.elapsed done.runs)
        { m with info := some (discoveryInfo monitor.discovery done.state) } := by
  intro done
  have hvalue : (monitor.engine.setUp monitor.discovery world.place world.machine).value = .ok () :=
    (Engine.setUp_value_eq_ok_iff _ _ _ _).mpr
      ((Engine.discover_isExpected_iff _ world.machine).mpr (.inr h))
  unfold setUp
  dsimp only
  rw [hvalue]
  show monitor.metrics.map (recordSetUp monitor.discovery done.state (world.elapsed done.runs)) = _
  refine congrArg (monitor.metrics.map ·) (funext fun m => ?_)
  exact recordSetUp_eq monitor.engine monitor.discovery world.place h (world.elapsed done.runs) m

theorem refresh_metrics (h : ¬ Engine.Refuses world.machine) :
    let done := monitor.engine.discover world.machine
    (monitor.refresh world).state.metrics =
      monitor.metrics.map (recordCall done.value done.state (world.elapsed done.runs)) := by
  intro done
  have hexpected : ∀ failure, done.value = .error failure → failure.isExpected = true :=
    (Engine.discover_isExpected_iff _ world.machine).mpr (.inr h)
  unfold refresh
  dsimp only
  split
  · next failure hvalue =>
    have hvalue : done.value = .error failure := hvalue
    rw [if_pos (hexpected failure hvalue), hvalue]
    show monitor.metrics.map (recordFailure failure done.state (world.elapsed done.runs)) = _
    rw [funext (recordFailure_eq failure done.state (world.elapsed done.runs))]
  · next inventory hvalue =>
    have hvalue : done.value = .ok inventory := hvalue
    rw [hvalue]
    rfl

theorem usableDevices_metrics :
    monitor.usableDevices.state.metrics = monitor.metrics.map fun m =>
      match monitor.engine.usableDevices.value with
      | .ok devices => { m with usable := devices.length }
      | .error _ => m := by
  unfold usableDevices
  dsimp only
  split
  · next failure hvalue =>
    rw [hvalue]
    exact Option.map_id'.symm
  · next devices hvalue =>
    rw [hvalue]
    rfl

end Calls

end Monitor
end GpuInventory
