import GpuInventory.Engine

/-!
What one call on the engine does.

A discovery call either runs the tool once or is turned away.  `IsReady` says which of the two it
is, and `refusal` says with what a call is turned away.  What a run comes to depends on the machine
and on the run alone and is its `ending`; `keep` is what the engine remembers of an ending.  The
lemmas below say that `discover` and `setUp` are made of these parts, and everything that is proved
about the engine later rests on them rather than on the code of the two calls.

An ending is an inventory, a failure that is counted, or a command that could not be put to the
system.  The last of the three is the odd one out: it is no failure that the engine knows of.
-/

namespace GpuInventory
namespace Engine

/-! ## Running the tool -/

/-- The run that a discovery call makes of the tool at a path. -/
def reportRun (engine : Engine) (machine : Command.Machine) (path : String) : Command.Run :=
  { command := reportCommand path
    environment := machine.inherited.overlay engine.environment
    timeout }

/-- What a run comes to on a machine. -/
def ending (machine : Command.Machine) (run : Command.Run) : Except Failure Inventory :=
  inventoryOf machine (machine.outcome.result run.command.program run.timeout)

/-- Whether an ending is one of a tool that failed: the command gave no text, or its text is no
report.  A command that could not be put to the system is not the fault of the tool. -/
def isFault : Except Failure Inventory → Bool
  | .error (.command (.refused _)) => false
  | .error (.command _) => true
  | .error (.report _) => true
  | _ => false

/-- What the engine remembers of an ending. -/
def keep (engine : Engine) : Except Failure Inventory → Engine
  | .ok inventory => { engine with inventory := some inventory, failures := 0 }
  | .error failure =>
    if failure.isExpected then { engine with failures := engine.failures + 1 } else engine

theorem runTool_runs (engine : Engine) (machine : Command.Machine) (path : String) :
    (engine.runTool machine path).runs = [engine.reportRun machine path] := by
  unfold runTool
  dsimp only
  split
  · rfl
  · split <;> rfl

theorem runTool_value (engine : Engine) (machine : Command.Machine) (path : String) :
    (engine.runTool machine path).value = ending machine (engine.reportRun machine path) := by
  show _ = inventoryOf machine
    (Command.run machine (reportCommand path) engine.environment timeout).result
  unfold runTool
  dsimp only
  split
  · next inventory h => rw [h]
  · next failure h =>
    rw [h]
    split <;> rfl

theorem runTool_state (engine : Engine) (machine : Command.Machine) (path : String) :
    (engine.runTool machine path).state =
      engine.keep (ending machine (engine.reportRun machine path)) := by
  show _ = engine.keep
    (inventoryOf machine
      (Command.run machine (reportCommand path) engine.environment timeout).result)
  unfold runTool
  dsimp only
  split
  · next inventory h => rw [h]; rfl
  · next failure h =>
    rw [h, keep]
    split <;> rfl

theorem ending_cases (machine : Command.Machine) (run : Command.Run) :
    (∃ inventory, ending machine run = .ok inventory) ∨
      (∃ failure, ending machine run = .error failure ∧ failure.isExpected = true ∧
        isFault (.error failure) = true ∧ ∀ reason, machine.outcome ≠ .refused reason) ∨
      ∃ reason, machine.outcome = .refused reason ∧
        ending machine run = .error (.command (.refused reason)) := by
  unfold ending
  cases ho : machine.outcome with
  | timedOut => exact .inr (.inl ⟨_, rfl, rfl, rfl, by simp⟩)
  | notStarted number reason => exact .inr (.inl ⟨_, rfl, rfl, rfl, by simp⟩)
  | refused reason => exact .inr (.inr ⟨reason, rfl, rfl⟩)
  | exited code output complaint =>
    rw [Command.Outcome.result]
    by_cases hc : code = 0
    · rw [if_pos hc]
      cases hd : Utf8.decode output with
      | error e => exact .inr (.inl ⟨_, rfl, rfl, rfl, by simp⟩)
      | ok text =>
        show (∃ inventory, inventoryOf machine (.ok (String.ofList text)) = .ok inventory) ∨ _
        unfold inventoryOf
        dsimp only
        cases hr : Report.read (String.ofList text).toList machine.describe with
        | ok inventory => exact .inl ⟨inventory, rfl⟩
        | error fault => exact .inr (.inl ⟨_, rfl, rfl, rfl, by simp⟩)
    · rw [if_neg hc]
      exact .inr (.inl ⟨_, rfl, rfl, rfl, by simp⟩)

/-! ## Discovery calls -/

/-- Whether a discovery call runs the tool. -/
def IsReady (engine : Engine) : Prop :=
  engine.isInitialized = true ∧ engine.path.isSome = true ∧ engine.failures < maxFailures

/-- What a discovery call that does not run the tool is turned away with. -/
def refusal (engine : Engine) : Failure :=
  if engine.isInitialized = false then .notInitialized
  else if engine.path.isNone then .noExecutable
  else .disabled

theorem discover_of_isReady {engine : Engine} (h : engine.IsReady) (machine : Command.Machine) :
    ∃ path, engine.path = some path ∧ engine.discover machine = engine.runTool machine path := by
  obtain ⟨hd, hp, hf⟩ := h
  obtain ⟨discovery, hd⟩ := Option.isSome_iff_exists.mp hd
  obtain ⟨path, hp⟩ := Option.isSome_iff_exists.mp hp
  refine ⟨path, hp, ?_⟩
  unfold discover
  rw [hd, hp]
  show (if maxFailures ≤ engine.failures then _ else _) = _
  rw [if_neg (Nat.not_le.mpr hf)]

theorem discover_of_not_isReady {engine : Engine} (h : ¬ engine.IsReady)
    (machine : Command.Machine) :
    (engine.discover machine).value = .error engine.refusal ∧
      (engine.discover machine).state = engine ∧ (engine.discover machine).runs = [] := by
  unfold discover
  cases hd : engine.discovery with
  | none => simp [refusal, isInitialized, hd, Effects.none]
  | some discovery =>
    cases hp : engine.path with
    | none => simp [refusal, isInitialized, hd, hp, Effects.none]
    | some path =>
      have hf : maxFailures ≤ engine.failures := Nat.le_of_not_lt fun hf =>
        h ⟨by rw [isInitialized, hd]; rfl, by rw [hp]; rfl, hf⟩
      simp [refusal, isInitialized, hd, hp, hf]

/-- The tool is run at most once, and whether it is run is for the state of the engine to say. -/
theorem discover_runs_ne_nil_iff (engine : Engine) (machine : Command.Machine) :
    (engine.discover machine).runs ≠ [] ↔ engine.IsReady := by
  by_cases h : engine.IsReady
  · obtain ⟨path, -, he⟩ := discover_of_isReady h machine
    simp [he, runTool_runs, h]
  · simp [(discover_of_not_isReady h machine).2.2, h]

theorem keep_frame (engine : Engine) (result : Except Failure Inventory) :
    (engine.keep result).search = engine.search ∧ (engine.keep result).discovery = engine.discovery ∧
      (engine.keep result).path = engine.path ∧
      (engine.keep result).environment = engine.environment := by
  cases result with
  | ok inventory => exact ⟨rfl, rfl, rfl, rfl⟩
  | error failure =>
    rw [keep]
    split <;> exact ⟨rfl, rfl, rfl, rfl⟩

theorem discover_frame (engine : Engine) (machine : Command.Machine) :
    (engine.discover machine).state.search = engine.search ∧
      (engine.discover machine).state.discovery = engine.discovery ∧
      (engine.discover machine).state.path = engine.path ∧
      (engine.discover machine).state.environment = engine.environment := by
  by_cases h : engine.IsReady
  · obtain ⟨path, -, he⟩ := discover_of_isReady h machine
    rw [he, runTool_state]
    exact engine.keep_frame _
  · rw [(discover_of_not_isReady h machine).2.1]
    exact ⟨rfl, rfl, rfl, rfl⟩

theorem length_discover_runs_le (engine : Engine) (machine : Command.Machine) :
    (engine.discover machine).runs.length ≤ 1 := by
  by_cases h : engine.IsReady
  · obtain ⟨path, -, he⟩ := discover_of_isReady h machine
    rw [he, runTool_runs]
    exact Nat.le_refl 1
  · rw [(discover_of_not_isReady h machine).2.2]
    exact Nat.zero_le 1

/-! ## Setting up -/

section Configure

variable (engine : Engine) (discovery : Discovery) (place : Place) (machine : Command.Machine)

@[simp] theorem configure_discovery :
    (engine.configure discovery place).value.discovery = some discovery := rfl

@[simp] theorem configure_path :
    (engine.configure discovery place).value.path =
      (Locator.locate place engine.search discovery.path).value := rfl

@[simp] theorem configure_failures : (engine.configure discovery place).value.failures = 0 := rfl

/-- Setting up closes the circuit: the first try depends on nothing but on where the tool is. -/
theorem configure_isReady_iff :
    (engine.configure discovery place).value.IsReady ↔
      (Locator.locate place engine.search discovery.path).value.isSome = true := by
  have hlimit : 0 < maxFailures := by decide
  simp [IsReady, isInitialized, hlimit]

/-- What a set-up leaves behind besides what the first try comes to. -/
theorem setUp_frame :
    (engine.setUp discovery place machine).state.search = engine.search ∧
      (engine.setUp discovery place machine).state.discovery = some discovery ∧
      (engine.setUp discovery place machine).state.path =
        (Locator.locate place engine.search discovery.path).value ∧
      (engine.setUp discovery place machine).state.environment = discovery.environment :=
  (engine.configure discovery place).value.discover_frame machine

end Configure

end Engine
end GpuInventory
