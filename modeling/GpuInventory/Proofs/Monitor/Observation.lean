import GpuInventory.Proofs.Monitor.Calls

/-!
What a monitor does apart from observing.

A monitor tells metrics and tracing about the calls that it passes on.  Nothing of that comes back:
two monitors with the same settings and the same engine, however different their metrics and the
clocks of their worlds, do the same at every call, and stay alike.  `Alike` says what has to agree,
and the lemmas below that every call keeps it, tells the log and the tracing the same, and gives the
same answer.

Over HTTP metrics can be noticed: they have a path of their own, which is known only if they are
kept, and which the description of the interface lists only then.  A request that does not ask for
the description, and neither has this path nor is advised to take it, is answered the same.
-/

namespace GpuInventory

/-- Two worlds have the same files and the same machine.  Their clocks may differ. -/
structure World.Alike (w v : World) : Prop where
  place : v.place = w.place
  machine : v.machine = w.machine

/-- Two monitors have the same settings and the same engine.  Their metrics may differ. -/
structure Monitor.Alike (m n : Monitor) : Prop where
  discovery : n.discovery = m.discovery
  engine : n.engine = m.engine

/-- Two operations on monitors do the same, metrics aside. -/
structure Effects.Alike {α β : Type} (a : Effects Monitor α) (b : Effects Monitor β) : Prop where
  state : a.state.Alike b.state
  runs : b.runs = a.runs
  entries : b.entries = a.entries
  events : b.events = a.events

theorem Effects.Alike.mapValue {α β γ δ : Type} {a : Effects Monitor α} {b : Effects Monitor β}
    (h : a.Alike b) (f : α → γ) (g : β → δ) : (a.mapValue f).Alike (b.mapValue g) :=
  ⟨h.state, h.runs, h.entries, h.events⟩

namespace Monitor

section Calls

variable {m n : Monitor} {w v : World} (hm : m.Alike n)
include hm

theorem setUp_alike (hw : w.Alike v) : (m.setUp w).Alike (n.setUp v) := by
  -- The fields are taken out before they are compared, so that the metrics never are.
  have htold : (n.setUp v).entries = (m.setUp w).entries ∧
      (n.setUp v).events = (m.setUp w).events := by
    unfold setUp
    rw [hm.discovery, hm.engine, hw.place, hw.machine]
    dsimp only
    split <;> dsimp only <;> exact ⟨rfl, rfl⟩
  refine ⟨⟨?_, ?_⟩, ?_, htold.1, htold.2⟩
  · rw [setUp_discovery, setUp_discovery, hm.discovery]
  · rw [(n.setUp_engine v).1, (m.setUp_engine w).1, hm.discovery, hm.engine, hw.place, hw.machine]
  · rw [(n.setUp_engine v).2, (m.setUp_engine w).2, hm.discovery, hm.engine, hw.place, hw.machine]

theorem refresh_alike (hw : w.Alike v) : (m.refresh w).Alike (n.refresh v) := by
  have htold : (n.refresh v).entries = (m.refresh w).entries ∧
      (n.refresh v).events = (m.refresh w).events := by
    unfold refresh
    rw [hm.engine, hw.machine]
    dsimp only
    split
    · split <;> dsimp only <;> exact ⟨rfl, rfl⟩
    · dsimp only
      exact ⟨rfl, rfl⟩
  refine ⟨⟨?_, ?_⟩, ?_, htold.1, htold.2⟩
  · rw [refresh_discovery, refresh_discovery, hm.discovery]
  · rw [(n.refresh_engine v).1, (m.refresh_engine w).1, hm.engine, hw.machine]
  · rw [(n.refresh_engine v).2, (m.refresh_engine w).2, hm.engine, hw.machine]

theorem usableDevices_alike : m.usableDevices.Alike n.usableDevices := by
  unfold usableDevices
  rw [hm.engine]
  dsimp only
  split <;> exact ⟨⟨hm.discovery, hm.engine⟩, rfl, rfl, rfl⟩

theorem status_alike : n.status = m.status := by
  unfold status
  rw [hm.discovery, hm.engine]

theorem inventory_alike : n.inventory = m.inventory :=
  congrArg Engine.inventory hm.engine

end Calls

theorem setUp_value (monitor : Monitor) (world : World) :
    (monitor.setUp world).value =
      (monitor.engine.setUp monitor.discovery world.place world.machine).value := by
  unfold setUp
  dsimp only
  split
  · next failure h => rw [h]
  · next h => rw [h]

end Monitor

namespace Http

/-! ## The path of the metrics -/

/-- Whether the answer to a request may tell that metrics are kept: it asks for the description, has
the path of the metrics or is advised to take it. -/
def Request.noticesMetrics (request : Request) : Bool :=
  request.asksFor .description || Resource.metrics.isAt request.path.toList ||
    Resource.metrics.isAt (otherSpelling request.path.toList)

/-- Metrics, if they are kept, add one path and leave the others alone. -/
theorem Resource.at?_eq_or (monitor : Monitor) (path : List Char) :
    at? monitor path =
      (at? {} path).or
        (if monitor.metrics.isSome && metrics.isAt path then some metrics else none) := by
  unfold at? all
  rw [List.find?_append]
  cases monitor.metrics with
  | none => simp
  | some m =>
    cases h : metrics.isAt path <;> simp [h]

theorem Resource.at?_congr {m n : Monitor} {path : List Char}
    (h : m.metrics.isSome = n.metrics.isSome ∨ metrics.isAt path = false) :
    at? n path = at? m path := by
  rw [at?_eq_or m, at?_eq_or n]
  rcases h with h | h
  · rw [h]
  · rw [h, Bool.and_false, Bool.and_false]

section Serve

variable {m n : Monitor} {w v : World} (hm : m.Alike n) (hw : w.Alike v)
include hm hw

theorem serve_alike (request : Request) : (serve request m w).Alike (serve request n v) := by
  cases hd : request.asksFor .discovery with
  | true =>
    rw [serve_of_asksFor (by decide) hd, serve_of_asksFor (by decide) hd]
    exact (Monitor.refresh_alike hm hw).mapValue _ _
  | false =>
    cases hu : request.asksFor .usable with
    | true =>
      rw [serve_of_asksFor (by decide) hu, serve_of_asksFor (by decide) hu]
      exact (Monitor.usableDevices_alike hm).mapValue _ _
    | false =>
      rw [serve_eq_of_neither hd hu m, serve_eq_of_neither hd hu n]
      exact ⟨hm, rfl, rfl, rfl⟩

/-- What is answered must not depend on whether metrics are kept, and they must not be what the
request asks for. -/
theorem serve_value_alike {request : Request}
    (hroute : m.metrics.isSome = n.metrics.isSome ∨ request.noticesMetrics = false)
    (hasks : request.asksFor .metrics = false) :
    (serve request n v).value = (serve request m w).value := by
  rw [Request.noticesMetrics, Bool.or_eq_false_iff, Bool.or_eq_false_iff] at hroute
  have hat : Resource.at? n request.path.toList = Resource.at? m request.path.toList :=
    Resource.at?_congr (hroute.imp_right fun h => h.1.2)
  have hother : Resource.at? n (otherSpelling request.path.toList) =
      Resource.at? m (otherSpelling request.path.toList) :=
    Resource.at?_congr (hroute.imp_right And.right)
  unfold serve
  dsimp only
  rw [hat, hother]
  split
  · next resource hfound =>
    split
    · next hmethod =>
      have hresource : request.asksFor resource = true := by
        rw [Request.asksFor, Resource.isAt_of_at? hfound, hmethod]
        rfl
      cases resource with
      | description =>
        show answer (descriptionBody n) = answer (descriptionBody m)
        rcases hroute with hkept | ⟨⟨hdescription, -⟩, -⟩
        · rw [descriptionBody, descriptionBody, Resource.all, Resource.all, hkept]
        · rw [hdescription] at hresource
          cases hresource
      | health =>
        show answer (healthBody n.status) n.status.given =
          answer (healthBody m.status) m.status.given
        rw [Monitor.status_alike hm]
      | inventory =>
        show inventoryResponse n.inventory = inventoryResponse m.inventory
        rw [Monitor.inventory_alike hm]
      | discovery =>
        show discoveryResponse (n.refresh v).value = discoveryResponse (m.refresh w).value
        rw [Monitor.refresh_value, Monitor.refresh_value, hm.engine, hw.machine]
      | usable =>
        show usableResponse n.usableDevices.value = usableResponse m.usableDevices.value
        rw [Monitor.usableDevices_value, Monitor.usableDevices_value, hm.engine]
      | metrics =>
        rw [hasks] at hresource
        cases hresource
      | _ => rfl
    · rfl
  · split <;> rfl

end Serve

end Http
end GpuInventory
