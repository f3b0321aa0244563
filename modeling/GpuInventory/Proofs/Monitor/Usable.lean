import GpuInventory.Proofs.Metrics.Export
import GpuInventory.Proofs.Monitor.Observation

/-!
The one thing that a question leaves behind.

A question for the usable devices is noted: the metrics hold how many were told last.  Everything
else about a monitor is the same after a question, and the number that was noted has no part in
anything but the text of the metrics.  So every call on a monitor with another number in its metrics
does the same and leaves the same behind, with that number or a new one.
-/

namespace GpuInventory
namespace Monitor

/-- The monitor as if so many devices had been told last. -/
def withUsable (n : Nat) (monitor : Monitor) : Monitor :=
  monitor.tell fun m => { m with usable := n }

@[simp] theorem withUsable_withUsable (n k : Nat) (monitor : Monitor) :
    (monitor.withUsable k).withUsable n = monitor.withUsable n := by
  obtain ⟨discovery, engine, metrics⟩ := monitor
  cases metrics <;> rfl

theorem exists_withUsable (monitor : Monitor) : ∃ n, monitor = monitor.withUsable n := by
  obtain ⟨discovery, engine, metrics⟩ := monitor
  cases metrics with
  | none => exact ⟨0, rfl⟩
  | some m => exact ⟨m.usable, rfl⟩

theorem withUsable_of_not_kept {monitor : Monitor} (h : monitor.metrics = none) (n : Nat) :
    monitor.withUsable n = monitor := by
  rw [withUsable, tell, h]
  cases monitor
  cases h
  rfl

theorem alike_withUsable (n : Nat) (monitor : Monitor) : monitor.Alike (monitor.withUsable n) :=
  ⟨rfl, rfl⟩

/-! ## What is recorded -/

/-- What is told to the metrics leaves the number of usable devices out. -/
def SparesUsable (f : Metrics → Metrics) : Prop :=
  ∀ (m : Metrics) (n : Nat), f { m with usable := n } = { f m with usable := n }

theorem tell_withUsable {f : Metrics → Metrics} (hf : SparesUsable f) (n : Nat)
    (monitor : Monitor) : (monitor.withUsable n).tell f = (monitor.tell f).withUsable n := by
  obtain ⟨discovery, engine, metrics⟩ := monitor
  cases metrics with
  | none => rfl
  | some m =>
    show ({ discovery, engine, metrics := some (f { m with usable := n }) } : Monitor) = _
    rw [hf]
    rfl

theorem sparesUsable_recordSetUp (discovery : Discovery) (engine : Engine) (elapsed : Float) :
    SparesUsable (recordSetUp discovery engine elapsed) := by
  intro m n
  unfold recordSetUp
  dsimp only
  split <;> rfl

theorem sparesUsable_recordFailure (failure : Failure) (engine : Engine) (elapsed : Float) :
    SparesUsable (recordFailure failure engine elapsed) := by
  intro m n
  unfold recordFailure
  dsimp only
  split <;> rfl

theorem sparesUsable_recordSuccess (engine : Engine) (elapsed : Float) :
    SparesUsable (recordSuccess engine elapsed) :=
  fun _ _ => rfl

/-! ## Calls -/

section Calls

variable (n : Nat) (monitor : Monitor) (world : World)

theorem setUp_withUsable :
    ((monitor.withUsable n).setUp world).state = (monitor.setUp world).state.withUsable n := by
  have halike := alike_withUsable n monitor
  let done := monitor.engine.setUp monitor.discovery world.place world.machine
  unfold setUp
  rw [halike.engine, halike.discovery]
  dsimp only
  split
  · rfl
  · exact tell_withUsable
      (sparesUsable_recordSetUp monitor.discovery done.state (world.elapsed done.runs)) n
      { monitor with engine := done.state }

theorem refresh_withUsable :
    ((monitor.withUsable n).refresh world).state = (monitor.refresh world).state.withUsable n := by
  have halike := alike_withUsable n monitor
  let done := monitor.engine.discover world.machine
  unfold refresh
  rw [halike.engine]
  dsimp only
  split
  · next failure _ =>
    split
    · exact tell_withUsable
        (sparesUsable_recordFailure failure done.state (world.elapsed done.runs)) n
        { monitor with engine := done.state }
    · rfl
  · exact tell_withUsable (sparesUsable_recordSuccess done.state (world.elapsed done.runs)) n
      { monitor with engine := done.state }

/-- Asking for the usable devices does nothing else than to note how many there are. -/
theorem usableDevices_state : ∃ k, monitor.usableDevices.state = monitor.withUsable k := by
  unfold usableDevices
  dsimp only
  split
  · exact monitor.exists_withUsable
  · exact ⟨_, rfl⟩

end Calls

end Monitor

namespace Http

/-! ## Requests -/

/-- Any request but the call for discovery leaves the monitor alone, save for the number noted. -/
theorem serve_state_of_not_callsDiscovery {request : Request} (h : request.callsDiscovery = false)
    (monitor : Monitor) (world : World) :
    ∃ n, (serve request monitor world).state = monitor.withUsable n := by
  cases hu : request.asksFor .usable with
  | true =>
    rw [serve_of_asksFor (by decide) hu]
    exact monitor.usableDevices_state
  | false =>
    rw [(serve_of_neither h hu monitor world).1]
    exact monitor.exists_withUsable

theorem Resource.at?_metrics {monitor : Monitor} (hkept : monitor.metrics.isSome = true)
    {path : List Char} (h : metrics.isAt path = true) : at? monitor path = some metrics := by
  have hother : at? {} path = none := by
    rw [isAt, Bool.or_eq_true, beq_iff_eq, beq_iff_eq] at h
    rcases h with rfl | rfl <;> decide
  rw [at?_eq_or, hother, hkept, h]
  rfl

/-- The answer to the question for the metrics, if they are kept. -/
theorem serve_value_of_asksFor_metrics {request : Request} (h : request.asksFor .metrics = true)
    {monitor : Monitor} {m : Metrics} (hkept : monitor.metrics = some m) (world : World) :
    (serve request monitor world).value = metricsResponse (some m) := by
  rw [Request.asksFor, Bool.and_eq_true] at h
  unfold serve
  dsimp only
  rw [Resource.at?_metrics (by rw [hkept]; rfl) h.1]
  dsimp only
  rw [if_pos h.2, Resource.serve, hkept]
  rfl

end Http
end GpuInventory
