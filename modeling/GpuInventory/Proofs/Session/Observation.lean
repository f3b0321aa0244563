import GpuInventory.Proofs.Monitor.Observation
import GpuInventory.Proofs.Session.Settings
import Mathlib.Data.List.Forall2

/-!
Sessions that are observed differently.

Whether metrics and tracing are kept, and how long processes take, is told to those who observe a
session and to nobody else.  `Alike` relates two sessions that differ in nothing but that.  A step
keeps it, and shows the same on both sides: the same engine, the same processes and the same log.
The answers are the same too, as long as metrics are not what is asked for.

Metrics can also be noticed by their path, on which there is a resource only if they are kept.  So
the answers may differ for a request with this path, for one that is advised to take it because only
slashes at its end are too many, and for one that asks for the description of the interface, which
lists the path.
-/

namespace GpuInventory
namespace Session

/-- Two sessions have the same settings, engine, files and machine. -/
structure Alike (s t : Session) : Prop where
  monitor : s.monitor.Alike t.monitor
  world : s.world.Alike t.world

/-- Two steps show the same, answers and spans apart. -/
structure StepAlike (a b : Effects Session Answer) : Prop where
  state : a.state.Alike b.state
  runs : b.runs = a.runs
  entries : b.entries = a.entries

namespace Action

/-- Two actions are the same, but for how long processes take from then on. -/
inductive Alike : Action → Action → Prop where
  | same (action : Action) : Alike action action
  | timed (outcome : Command.Outcome) (seconds others : Float) :
    Alike (.setOutcome outcome seconds) (.setOutcome outcome others)

/-- Whether an action asks for the metrics, or may tell by its answer whether they are kept. -/
def readsMetrics : Action → Bool
  | .metrics => true
  | .request r => r.noticesMetrics
  | _ => false

end Action

/-! ## Steps -/

section Steps

variable {s t : Session} (h : s.Alike t)
include h

theorem carryOut_alike {a b : Effects Monitor Answer} (hab : a.Alike b) :
    StepAlike (s.carryOut a) (t.carryOut b) :=
  ⟨⟨hab.state, h.world.place, h.world.machine⟩, hab.runs, hab.entries⟩

theorem carryOutPast_alike (done : Effects Engine Answer) :
    StepAlike (s.carryOutPast done) (t.carryOutPast done) :=
  carryOut_alike h ⟨⟨h.monitor.discovery, rfl⟩, rfl, rfl, rfl⟩

/-- The step lemma: sessions that are alike stay so, and show the same. -/
theorem step_alike {a b : Action} (hab : a.Alike b) : StepAlike (s.step a) (t.step b) := by
  obtain ⟨hm, hw⟩ := h
  cases hab with
  | timed outcome seconds others =>
    -- How long a process takes is part of the world, but not of the machine.
    refine ⟨⟨hm, hw.place, ?_⟩, rfl, rfl⟩
    show { t.world.machine with outcome } = { s.world.machine with outcome }
    rw [hw.machine]
  | same =>
    cases a with
    | setUpEngine discovery =>
      simp only [step, hm.engine, hm.discovery, hw.place, hw.machine]
      exact carryOutPast_alike ⟨hm, hw⟩ _
    | discover =>
      simp only [step, hm.engine, hw.machine]
      exact carryOutPast_alike ⟨hm, hw⟩ _
    | usableDevices =>
      refine ⟨⟨hm, hw⟩, rfl, ?_⟩
      show t.monitor.engine.usableDevices.entries = s.monitor.engine.usableDevices.entries
      rw [hm.engine]
    | setUpMonitor => exact carryOut_alike ⟨hm, hw⟩ ((Monitor.setUp_alike hm hw).mapValue _ _)
    | refresh => exact carryOut_alike ⟨hm, hw⟩ ((Monitor.refresh_alike hm hw).mapValue _ _)
    | monitoredDevices =>
      exact carryOut_alike ⟨hm, hw⟩ ((Monitor.usableDevices_alike hm).mapValue _ _)
    | request request =>
      exact carryOut_alike ⟨hm, hw⟩ ((Http.serve_alike hm hw request).mapValue _ _)
    | setOutcome outcome seconds =>
      refine ⟨⟨hm, hw.place, ?_⟩, rfl, rfl⟩
      show { t.world.machine with outcome } = { s.world.machine with outcome }
      rw [hw.machine]
    | setPlace place => exact ⟨⟨hm, rfl, hw.machine⟩, rfl, rfl⟩
    | setInherited inherited =>
      refine ⟨⟨hm, hw.place, ?_⟩, rfl, rfl⟩
      show { t.world.machine with inherited } = { s.world.machine with inherited }
      rw [hw.machine]
    | setVariable name value =>
      refine ⟨⟨⟨hm.discovery, ?_⟩, hw⟩, rfl, rfl⟩
      show t.monitor.engine.setVariable name value = s.monitor.engine.setVariable name value
      rw [hm.engine]
    | _ => exact ⟨⟨hm, hw⟩, rfl, rfl⟩

/-- Metrics may be kept in one of the sessions only, unless the answer tells whether they are. -/
theorem step_value_alike {a b : Action} (hab : a.Alike b)
    (hroute : s.monitor.metrics.isSome = t.monitor.metrics.isSome ∨ a.readsMetrics = false)
    (hmetrics : a ≠ .metrics)
    (hasks : ∀ request, a = .request request → request.asksFor .metrics = false) :
    (t.step b).value = (s.step a).value := by
  obtain ⟨hm, hw⟩ := h
  cases hab with
  | timed outcome seconds others => rfl
  | same =>
    cases a with
    | setUpEngine discovery =>
      show Answer.ofExcept _ (t.monitor.engine.setUp _ t.world.place t.world.machine).value =
        Answer.ofExcept _ (s.monitor.engine.setUp _ s.world.place s.world.machine).value
      rw [hm.engine, hm.discovery, hw.place, hw.machine]
    | discover =>
      show Answer.ofExcept _ (t.monitor.engine.discover t.world.machine).value =
        Answer.ofExcept _ (s.monitor.engine.discover s.world.machine).value
      rw [hm.engine, hw.machine]
    | usableDevices =>
      show Answer.ofExcept _ t.monitor.engine.usableDevices.value =
        Answer.ofExcept _ s.monitor.engine.usableDevices.value
      rw [hm.engine]
    | lastInventory => exact congrArg (fun e => Answer.inventory e.inventory) hm.engine
    | setUpMonitor =>
      show Answer.ofExcept _ (t.monitor.setUp t.world).value =
        Answer.ofExcept _ (s.monitor.setUp s.world).value
      rw [Monitor.setUp_value, Monitor.setUp_value, hm.engine, hm.discovery, hw.place, hw.machine]
    | refresh =>
      show Answer.ofExcept _ (t.monitor.refresh t.world).value =
        Answer.ofExcept _ (s.monitor.refresh s.world).value
      rw [Monitor.refresh_value, Monitor.refresh_value, hm.engine, hw.machine]
    | monitoredDevices =>
      show Answer.ofExcept _ t.monitor.usableDevices.value =
        Answer.ofExcept _ s.monitor.usableDevices.value
      rw [Monitor.usableDevices_value, Monitor.usableDevices_value, hm.engine]
    | monitoredInventory => exact congrArg Answer.inventory (Monitor.inventory_alike hm)
    | status => exact congrArg Answer.status (Monitor.status_alike hm)
    | request request =>
      exact congrArg Answer.response (Http.serve_value_alike hm hw hroute (hasks request rfl))
    | metrics => exact absurd rfl hmetrics
    | _ => rfl

/-- What the tracing is told is the same too, if both sessions are traced or neither is. -/
theorem step_events_alike (htraced : t.traced = s.traced) (action : Action) :
    (t.step action).events = (s.step action).events := by
  have hcarried : ∀ {a b : Effects Monitor Answer}, a.Alike b →
      (t.carryOut b).events = (s.carryOut a).events := by
    intro a b hab
    rw [carryOut, carryOut, htraced, hab.events]
  have hpast : ∀ done : Effects Engine Answer,
      (t.carryOutPast done).events = (s.carryOutPast done).events := fun done =>
    hcarried ⟨⟨h.monitor.discovery, rfl⟩, rfl, rfl, rfl⟩
  cases action with
  | setUpEngine discovery =>
    simp only [step, h.monitor.engine, h.monitor.discovery, h.world.place, h.world.machine]
    exact hpast _
  | discover =>
    simp only [step, h.monitor.engine, h.world.machine]
    exact hpast _
  | setUpMonitor => exact hcarried ((Monitor.setUp_alike h.monitor h.world).mapValue _ _)
  | refresh => exact hcarried ((Monitor.refresh_alike h.monitor h.world).mapValue _ _)
  | monitoredDevices => exact hcarried ((Monitor.usableDevices_alike h.monitor).mapValue _ _)
  | request request =>
    exact hcarried ((Http.serve_alike h.monitor h.world request).mapValue _ _)
  | _ => rfl

end Steps

/-! ## Sessions -/

/-- What two sessions have to show at an action and at one like it: everything but the answer
agrees, and the answers agree unless the action reads the metrics. -/
def ShowAlike (x y : Action × Effects Session Answer) : Prop :=
  StepAlike x.2 y.2 ∧ (x.1.readsMetrics = false → y.2.value = x.2.value)

theorem showAlike_step {s t : Session} (h : s.Alike t) {a b : Action} (hab : a.Alike b) :
    ShowAlike (a, s.step a) (b, t.step b) := by
  refine ⟨step_alike h hab, fun hreads => ?_⟩
  have hreads : a.readsMetrics = false := hreads
  refine step_value_alike h hab (.inr hreads) ?_ ?_
  · rintro rfl
    cases hreads
  · rintro request rfl
    rw [Action.readsMetrics, Http.Request.noticesMetrics, Bool.or_eq_false_iff,
      Bool.or_eq_false_iff] at hreads
    rw [Http.Request.asksFor, hreads.1.2, Bool.false_and]

/-- The run lemma. -/
theorem run_alike {s t : Session} (h : s.Alike t) {actions others : List Action}
    (hactions : List.Forall₂ Action.Alike actions others) :
    List.Forall₂ ShowAlike (actions.zip (s.run actions)) (others.zip (t.run others)) := by
  induction hactions generalizing s t with
  | nil => exact .nil
  | cons hab _ ih =>
    exact .cons (showAlike_step h hab) (ih (step_alike h hab).state)

/-- Two sessions with the same actions in the same world show the same, whatever is observed of
them.

One of them may keep metrics and the other not, one may be traced and the other not, and the
processes may take their time or not: at every action the answers, the state of the engine, the
processes and the log are the same, failures that nobody reckons with included.  Of the actions that
ask for the metrics or for the description, or whose path leads to the metrics, everything is the
same but the answer. -/
theorem observation_does_not_interfere (world : World) (seconds clock : Float)
    (discovery : Discovery) (search : Locator.Search) (metrics kept : Option Metrics)
    (traced spied : Bool) {actions others : List Action}
    (hactions : List.Forall₂ Action.Alike actions others) :
    let session := fresh world discovery search metrics traced
    let observed := fresh { world with seconds, clock } discovery search kept spied
    List.Forall₂ ShowAlike (actions.zip (session.run actions))
      (others.zip (observed.run others)) := by
  intro session observed
  have hstart : session.Alike observed := ⟨⟨rfl, rfl⟩, ⟨rfl, rfl⟩⟩
  exact run_alike hstart hactions

/-- A command that is refused and a tool that does not answer are told the same by a session without
metrics and by one that measures ten seconds for each process. -/
theorem refusal_and_timeouts_show_alike :
    let place : Place := .ofPaths "/" ["/usr/bin/nvidia-smi"] []
    let machine : Command.Machine := { outcome := .refused "embedded null byte", inherited := {} }
    let session := fresh { place, machine } {} {} none false
    let observed := fresh { place, machine, seconds := 10.0 } {} {} (some {}) true
    let calls := [Action.refresh, .request { method := "POST", path := "/gpus/discover" }]
    let actions := .setUpMonitor :: .setOutcome .timedOut 0.0 :: calls
    let others := .setUpMonitor :: .setOutcome .timedOut 10.0 :: calls
    List.Forall₂ Action.Alike actions others ∧
      List.Forall₂ ShowAlike (actions.zip (session.run actions))
        (others.zip (observed.run others)) ∧
      ((session.run actions).flatMap Effects.runs).length = 3 := by
  intro place machine session observed calls actions others
  have hactions : List.Forall₂ Action.Alike actions others :=
    .cons (.same _) (.cons (.timed _ _ _) (.cons (.same _) (.cons (.same _) .nil)))
  exact ⟨hactions,
    observation_does_not_interfere { place, machine } 10.0 0.0 {} {} none (some {}) false true
      hactions,
    by decide +kernel⟩

/-- With a slash behind it the path of the metrics is no longer that of a resource, and yet the
answer tells whether they are kept: the advice to ask without the slash is given only then. -/
theorem slash_after_metrics_tells_of_them :
    let place : Place := .ofPaths "/" [] []
    let machine : Command.Machine := { outcome := .timedOut, inherited := {} }
    let request : Http.Request := { path := "/metrics/" }
    let session := fresh { place, machine } {} {} none false
    let observed := fresh { place, machine } {} {} (some {}) false
    (∀ r : Http.Resource, r.isAt request.path.toList = false) ∧
      (∃ response, (session.step (.request request)).value = .response response ∧
        response.status = 404) ∧
      (∃ response, (observed.step (.request request)).value = .response response ∧
        response.status = 307) ∧
      (observed.step (.request request)).value ≠ (session.step (.request request)).value := by
  intro place machine request session observed
  have hunknown : (Http.serve request session.monitor session.world).value.status = 404 := by
    decide +kernel
  have hknown : (Http.serve request observed.monitor observed.world).value.status = 307 := by
    decide +kernel
  refine ⟨fun r => by cases r <;> decide, ⟨_, rfl, hunknown⟩, ⟨_, rfl, hknown⟩, fun hsame => ?_⟩
  have hsame : Answer.response (Http.serve request observed.monitor observed.world).value =
      .response (Http.serve request session.monitor session.world).value := hsame
  rw [Answer.response.injEq] at hsame
  rw [hsame, hunknown] at hknown
  exact absurd hknown (by decide)

end Session
end GpuInventory
