import GpuInventory.Proofs.Monitor.Usable
import GpuInventory.Proofs.Session.Observation

/-!
Questions leave no trace.

A question is an action that only asks for what is known already.  It does not matter whether one is
asked: if any of the questions of a session are left out, everything else happens as before.  The
reason is that a question changes nothing but the number of usable devices that the metrics have
noted, and that this number is never read but to be told in its own line of the metrics.

So two sessions are compared that are the same but for this number, one with the questions and one
without.  An action that is left out is a step of the first session alone; any other one is a step
of both.  Either way they are the same again afterwards, but for the number.
-/

namespace GpuInventory
namespace Session

/-- The session as if so many devices had been told last. -/
def withUsable (n : Nat) (session : Session) : Session :=
  { session with monitor := session.monitor.withUsable n }

@[simp] theorem withUsable_withUsable (n k : Nat) (session : Session) :
    (session.withUsable k).withUsable n = session.withUsable n := by
  rw [withUsable, withUsable, withUsable, Monitor.withUsable_withUsable]

theorem exists_withUsable (session : Session) : ∃ n, session = session.withUsable n := by
  obtain ⟨n, hn⟩ := session.monitor.exists_withUsable
  refine ⟨n, ?_⟩
  rw [withUsable, ← hn]

theorem alike_withUsable (n : Nat) (session : Session) : session.Alike (session.withUsable n) :=
  ⟨session.monitor.alike_withUsable n, ⟨rfl, rfl⟩⟩

/-! ## What may differ -/

/-- Two answers are the same, or both tell metrics, and these differ at most in the line of the
number of usable devices. -/
inductive Answer.SameButUsable : Answer → Answer → Prop where
  | same (answer : Answer) : SameButUsable answer answer
  | metrics (before after : List String) (n k : Nat) :
    SameButUsable
      (.metrics (some (before ++ String.ofList (Metrics.usableLine n) :: after)))
      (.metrics (some (before ++ String.ofList (Metrics.usableLine k) :: after)))
  | response (before after : List String) (n k : Nat) :
    SameButUsable
      (.response
        { status := 200
          body := .plain (before ++ String.ofList (Metrics.usableLine n) :: after) })
      (.response
        { status := 200
          body := .plain (before ++ String.ofList (Metrics.usableLine k) :: after) })

/-- Two steps do the same, but for the number of usable devices in the metrics. -/
structure SameButUsable (a b : Effects Session Answer) : Prop where
  value : a.value.SameButUsable b.value
  state : ∃ n, b.state = a.state.withUsable n
  runs : b.runs = a.runs
  entries : b.entries = a.entries
  events : b.events = a.events

/-- The texts of metrics with one number and with another. -/
theorem lines_sameButUsable (m : Metrics) (n : Nat) :
    ∃ before after : List String,
      m.lines = before ++ String.ofList (Metrics.usableLine m.usable) :: after ∧
        Metrics.lines { m with usable := n } =
          before ++ String.ofList (Metrics.usableLine n) :: after := by
  obtain ⟨before, after, h⟩ := m.lines_of_usable
  exact ⟨before, after, h m.usable, h n⟩

theorem metricsResponse_sameButUsable (m : Metrics) (n : Nat) :
    (Answer.response (Http.metricsResponse (some m))).SameButUsable
      (.response (Http.metricsResponse (some { m with usable := n }))) := by
  -- The number is not among the texts that have to be encoded.
  have hgiven : Metrics.given { m with usable := n } = m.given := rfl
  unfold Http.metricsResponse
  dsimp only
  rw [hgiven]
  split
  · obtain ⟨before, after, hm, hn⟩ := lines_sameButUsable m n
    rw [hm, hn]
    exact .response before after m.usable n
  · exact .same _

/-! ## Questions -/

/-- Whether an action only asks for what is known.  Every request does, save the one that is taken
to the resource of discovery with its method. -/
def Action.isQuestion : Action → Bool
  | .usableDevices | .lastInventory | .monitoredDevices | .monitoredInventory | .status
  | .metrics => true
  | .request r => !r.callsDiscovery
  | _ => false

/-- The step lemma for an action that is left out. -/
theorem step_of_isQuestion {action : Action} (h : action.isQuestion = true) (session : Session) :
    ∃ n, (session.step action).state = session.withUsable n := by
  have hcarried : ∀ {a : Effects Monitor Answer}, a.runs = [] →
      (∃ n, a.state = session.monitor.withUsable n) →
      ∃ n, (session.carryOut a).state = session.withUsable n := by
    rintro a hruns ⟨n, hn⟩
    refine ⟨n, ?_⟩
    rw [carryOut, hruns, hn]
    rfl
  cases action with
  | monitoredDevices =>
    exact hcarried session.monitor.usableDevices_engine.2 session.monitor.usableDevices_state
  | request request =>
    have hd : request.callsDiscovery = false := Bool.not_eq_true' _ ▸ h
    exact hcarried (Http.serve_of_not_callsDiscovery hd session.monitor session.world).2
      (Http.serve_state_of_not_callsDiscovery hd session.monitor session.world)
  | usableDevices => exact session.exists_withUsable
  | lastInventory => exact session.exists_withUsable
  | monitoredInventory => exact session.exists_withUsable
  | status => exact session.exists_withUsable
  | metrics => exact session.exists_withUsable
  | _ => cases h

/-! ## Other steps -/

section Steps

variable (session : Session) (n : Nat)

theorem step_state_withUsable (action : Action) :
    ∃ k, ((session.withUsable n).step action).state = (session.step action).state.withUsable k := by
  cases h : action.isQuestion with
  | true =>
    obtain ⟨j, hj⟩ := step_of_isQuestion h session
    obtain ⟨k, hk⟩ := step_of_isQuestion h (session.withUsable n)
    refine ⟨k, ?_⟩
    rw [hk, hj, withUsable_withUsable, withUsable_withUsable]
  | false =>
    -- No other action notes the number, so both sessions keep the one they have.
    have halike := session.alike_withUsable n
    have hcarried : ∀ {a b : Effects Monitor Answer}, b.runs = a.runs →
        b.state = a.state.withUsable n →
        ((session.withUsable n).carryOut b).state = (session.carryOut a).state.withUsable n := by
      intro a b hruns hstate
      rw [carryOut, carryOut, hruns, hstate]
      rfl
    refine ⟨n, ?_⟩
    cases action with
    | setUpMonitor =>
      exact hcarried (Monitor.setUp_alike halike.monitor halike.world).runs
        (session.monitor.setUp_withUsable n session.world)
    | refresh =>
      exact hcarried (Monitor.refresh_alike halike.monitor halike.world).runs
        (session.monitor.refresh_withUsable n session.world)
    | request request =>
      have hd : request.callsDiscovery = true := Bool.not_eq_false' _ ▸ h
      refine hcarried (Http.serve_alike halike.monitor halike.world request).runs ?_
      show (Http.serve request (session.monitor.withUsable n) session.world).state = _
      rw [Http.serve_of_callsDiscovery hd, Http.serve_of_callsDiscovery hd]
      exact session.monitor.refresh_withUsable n session.world
    | monitoredDevices => cases h
    | _ => rfl

theorem step_value_withUsable (action : Action) :
    (session.step action).value.SameButUsable ((session.withUsable n).step action).value := by
  have hsame : action ≠ .metrics →
      (∀ request, action = .request request → request.asksFor .metrics = false) →
      (session.step action).value.SameButUsable ((session.withUsable n).step action).value := by
    intro hmetrics hasks
    rw [step_value_alike (session.alike_withUsable n) (.same action)
      (.inl Option.isSome_map.symm) hmetrics hasks]
    exact .same _
  cases action with
  | metrics =>
    show (Answer.metrics (session.monitor.metrics.map Metrics.lines)).SameButUsable
      (.metrics ((session.monitor.metrics.map fun m => { m with usable := n }).map Metrics.lines))
    cases session.monitor.metrics with
    | none => exact .same _
    | some m =>
      obtain ⟨before, after, hm, hn⟩ := lines_sameButUsable m n
      rw [Option.map_some, Option.map_some, Option.map_some, hm, hn]
      exact .metrics before after m.usable n
  | request request =>
    cases hasks : request.asksFor .metrics with
    | false =>
      refine hsame Action.noConfusion fun other hother => ?_
      rw [← Action.request.inj hother]
      exact hasks
    | true =>
      show (Answer.response (Http.serve request session.monitor session.world).value).SameButUsable
        (.response (Http.serve request (session.monitor.withUsable n) session.world).value)
      cases hkept : session.monitor.metrics with
      | none =>
        rw [Monitor.withUsable_of_not_kept hkept]
        exact .same _
      | some m =>
        have hnoted : (session.monitor.withUsable n).metrics = some { m with usable := n } := by
          rw [Monitor.withUsable, Monitor.tell, hkept]
          rfl
        rw [Http.serve_value_of_asksFor_metrics hasks hkept,
          Http.serve_value_of_asksFor_metrics hasks hnoted]
        exact metricsResponse_sameButUsable m n
  | _ => exact hsame Action.noConfusion fun _ h => Action.noConfusion h

/-- The step lemma for an action that is not left out. -/
theorem step_withUsable (action : Action) :
    SameButUsable (session.step action) ((session.withUsable n).step action) := by
  have halike := session.alike_withUsable n
  have hstep := step_alike halike (.same action)
  exact
    { value := session.step_value_withUsable n action
      state := session.step_state_withUsable n action
      runs := hstep.runs
      entries := hstep.entries
      events := step_events_alike halike rfl action }

end Steps

/-! ## Sessions -/

/-- An action that is to be done with the others or without which they are to be done: only a
question may be left out. -/
structure Planned where
  action : Action
  isOmitted : Bool := false
  isQuestion : isOmitted = true → action.isQuestion = true

namespace Planned

/-- All actions of a plan. -/
def all (plan : List Planned) : List Action :=
  plan.map action

/-- The actions that are not left out. -/
def kept (plan : List Planned) : List Action :=
  all (plan.filter fun p => !p.isOmitted)

/-- What is left of the results of all actions if those that may be left out are. -/
def keptOf {α : Type} (plan : List Planned) (results : List α) : List α :=
  ((plan.zip results).filter fun x => !x.1.isOmitted).map Prod.snd

theorem kept_cons (p : Planned) (rest : List Planned) :
    kept (p :: rest) = if p.isOmitted then kept rest else p.action :: kept rest := by
  rw [kept, List.filter_cons]
  cases p.isOmitted <;> rfl

theorem keptOf_cons {α : Type} (p : Planned) (rest : List Planned) (result : α)
    (results : List α) :
    keptOf (p :: rest) (result :: results) =
      if p.isOmitted then keptOf rest results else result :: keptOf rest results := by
  rw [keptOf, List.zip_cons_cons, List.filter_cons]
  cases p.isOmitted <;> rfl

end Planned

/-- The run lemma. -/
theorem run_kept (session : Session) (n : Nat) (plan : List Planned) :
    List.Forall₂ SameButUsable (Planned.keptOf plan (session.run (Planned.all plan)))
      ((session.withUsable n).run (Planned.kept plan)) := by
  induction plan generalizing session n with
  | nil => exact .nil
  | cons p rest ih =>
    show List.Forall₂ SameButUsable (Planned.keptOf (p :: rest)
      (session.step p.action :: (session.step p.action).state.run (Planned.all rest))) _
    rw [Planned.keptOf_cons, Planned.kept_cons]
    cases homitted : p.isOmitted with
    | true =>
      -- Only the session with the question makes a step, and what it notes is written over by `n`.
      obtain ⟨k, hk⟩ := step_of_isQuestion (p.isQuestion homitted) session
      have hrest := ih (session.step p.action).state n
      rwa [hk, withUsable_withUsable, ← hk] at hrest
    | false =>
      obtain ⟨k, hk⟩ := session.step_state_withUsable n p.action
      have hrest := ih (session.step p.action).state k
      rw [← hk] at hrest
      exact .cons (session.step_withUsable n p.action) hrest

/-- Whatever questions are asked in a session, the rest of it is as if they had not been asked.

Any of its questions may be left out, at any places, those that are answered with a failure as well
as the others.  Of every other action the answer, what is left behind, the processes, the log and
what the tracing is told are the same.  Only the text of the metrics may differ, and only in the
line of the number of usable devices. -/
theorem questions_leave_no_trace (world : World) (discovery : Discovery) (search : Locator.Search)
    (metrics : Option Metrics) (traced : Bool) (plan : List Planned) :
    let session := fresh world discovery search metrics traced
    List.Forall₂ SameButUsable (Planned.keptOf plan (session.run (Planned.all plan)))
      (session.run (Planned.kept plan)) := by
  intro session
  obtain ⟨n, hn⟩ := session.exists_withUsable
  have hrun := run_kept session n plan
  rwa [← hn] at hrun

end Session
end GpuInventory
