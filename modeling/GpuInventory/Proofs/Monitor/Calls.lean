import GpuInventory.Http
import GpuInventory.Proofs.Engine.Discovery

/-!
What the monitor and the HTTP interface pass on to the engine.

The monitor adds metrics and spans to a call and leaves the call itself to the engine: the engine
and the processes after it are those of the call made directly, and so is the answer.  Of all
requests only the call for discovery goes as far as that.  A request is recognised by its path and
method alone, so whether metrics are kept makes no difference to those for another resource.
-/

namespace GpuInventory

namespace Monitor

theorem setUp_engine (monitor : Monitor) (world : World) :
    (monitor.setUp world).state.engine =
        (monitor.engine.setUp monitor.discovery world.place world.machine).state ∧
      (monitor.setUp world).runs =
        (monitor.engine.setUp monitor.discovery world.place world.machine).runs := by
  unfold setUp
  dsimp only
  split <;> exact ⟨rfl, rfl⟩

theorem refresh_engine (monitor : Monitor) (world : World) :
    (monitor.refresh world).state.engine = (monitor.engine.discover world.machine).state ∧
      (monitor.refresh world).runs = (monitor.engine.discover world.machine).runs := by
  unfold refresh
  dsimp only
  split
  · split <;> exact ⟨rfl, rfl⟩
  · exact ⟨rfl, rfl⟩

theorem refresh_value (monitor : Monitor) (world : World) :
    (monitor.refresh world).value = (monitor.engine.discover world.machine).value := by
  unfold refresh
  dsimp only
  split
  · next failure h =>
    rw [h]
    split <;> rfl
  · next inventory h => rw [h]

theorem usableDevices_engine (monitor : Monitor) :
    monitor.usableDevices.state.engine = monitor.engine ∧ monitor.usableDevices.runs = [] := by
  unfold usableDevices
  dsimp only
  split <;> exact ⟨rfl, rfl⟩

theorem usableDevices_value (monitor : Monitor) :
    monitor.usableDevices.value = monitor.engine.usableDevices.value := by
  unfold usableDevices
  dsimp only
  split
  · next failure h => rw [h]
  · next devices h => rw [h]

/-! No call changes the settings of the monitor. -/

theorem setUp_discovery (monitor : Monitor) (world : World) :
    (monitor.setUp world).state.discovery = monitor.discovery := by
  unfold setUp
  dsimp only
  split <;> rfl

theorem refresh_discovery (monitor : Monitor) (world : World) :
    (monitor.refresh world).state.discovery = monitor.discovery := by
  unfold refresh
  dsimp only
  split
  · split <;> rfl
  · rfl

theorem usableDevices_discovery (monitor : Monitor) :
    monitor.usableDevices.state.discovery = monitor.discovery := by
  unfold usableDevices
  dsimp only
  split <;> rfl

end Monitor

namespace Http

def Request.callsDiscovery (request : Request) : Bool :=
  Resource.discovery.isAt request.path.toList &&
    Resource.discovery.methods.contains request.method

/-- Whether a request is the one for a resource. -/
def Request.asksFor (request : Request) (r : Resource) : Bool :=
  r.isAt request.path.toList && r.methods.contains request.method

theorem Request.asksFor_discovery (request : Request) :
    request.asksFor .discovery = request.callsDiscovery := rfl

/-- A resource that is always there is the only one at its path. -/
theorem Resource.at?_of_isAt {r : Resource} (hr : r ≠ .metrics) {path : List Char}
    (h : r.isAt path = true) (monitor : Monitor) : at? monitor path = some r := by
  rw [isAt, Bool.or_eq_true, beq_iff_eq, beq_iff_eq] at h
  cases r with
  | metrics => exact absurd rfl hr
  | _ => rcases h with rfl | rfl <;> rfl

theorem Resource.isAt_of_at? {monitor : Monitor} {path : List Char} {r : Resource}
    (h : at? monitor path = some r) : r.isAt path = true :=
  List.find?_some (p := fun r : Resource => r.isAt path) h

theorem serve_of_asksFor {r : Resource} (hr : r ≠ .metrics) {request : Request}
    (h : request.asksFor r = true) (monitor : Monitor) (world : World) :
    serve request monitor world = r.serve monitor world := by
  rw [Request.asksFor, Bool.and_eq_true] at h
  unfold serve
  dsimp only
  rw [Resource.at?_of_isAt hr h.1]
  exact if_pos h.2

theorem Request.eq_of_asksFor {request : Request} {r s : Resource} (hr : r ≠ .metrics)
    (hs : s ≠ .metrics) (har : request.asksFor r = true) (has : request.asksFor s = true) :
    r = s := by
  rw [asksFor, Bool.and_eq_true] at har has
  have hfound := Resource.at?_of_isAt hr har.1 {}
  rw [Resource.at?_of_isAt hs has.1] at hfound
  exact (Option.some.inj hfound).symm

theorem serve_of_callsDiscovery {request : Request} (h : request.callsDiscovery = true)
    (monitor : Monitor) (world : World) :
    serve request monitor world = (monitor.refresh world).mapValue discoveryResponse :=
  serve_of_asksFor (by decide) (request.asksFor_discovery.trans h) monitor world

/-- Only two requests go any further than to look. -/
theorem serve_eq_of_neither {request : Request} (hd : request.asksFor .discovery = false)
    (hu : request.asksFor .usable = false) (monitor : Monitor) (world : World) :
    serve request monitor world = .none monitor (serve request monitor world).value := by
  unfold serve
  dsimp only
  split
  · next resource hat =>
    split
    · next hmethod =>
      cases resource with
      | discovery =>
        -- the request would have been a call for discovery
        rw [Request.asksFor, Resource.isAt_of_at? hat, hmethod] at hd
        exact absurd hd (by decide)
      | usable =>
        rw [Request.asksFor, Resource.isAt_of_at? hat, hmethod] at hu
        exact absurd hu (by decide)
      | _ => rfl
    · rfl
  · split <;> rfl

theorem serve_of_neither {request : Request} (hd : request.asksFor .discovery = false)
    (hu : request.asksFor .usable = false) (monitor : Monitor) (world : World) :
    (serve request monitor world).state = monitor ∧ (serve request monitor world).runs = [] := by
  rw [serve_eq_of_neither hd hu]
  exact ⟨rfl, rfl⟩

theorem serve_of_not_callsDiscovery {request : Request} (h : request.callsDiscovery = false)
    (monitor : Monitor) (world : World) :
    (serve request monitor world).state.engine = monitor.engine ∧
      (serve request monitor world).runs = [] := by
  cases hu : request.asksFor .usable with
  | true =>
    rw [serve_of_asksFor (by decide) hu]
    exact monitor.usableDevices_engine
  | false =>
    obtain ⟨hstate, hruns⟩ := serve_of_neither h hu monitor world
    exact ⟨congrArg Monitor.engine hstate, hruns⟩

theorem serve_discovery (request : Request) (monitor : Monitor) (world : World) :
    (serve request monitor world).state.discovery = monitor.discovery := by
  cases hd : request.asksFor .discovery with
  | true =>
    rw [serve_of_asksFor (by decide) hd]
    exact monitor.refresh_discovery world
  | false =>
    cases hu : request.asksFor .usable with
    | true =>
      rw [serve_of_asksFor (by decide) hu]
      exact monitor.usableDevices_discovery
    | false => rw [(serve_of_neither hd hu monitor world).1]

end Http
end GpuInventory
