import GpuInventory.Proofs.Monitor.Spans
import GpuInventory.Proofs.Session.History

/-!
The trace of a session.

A step tells about a span if it runs an operation of the monitor, which it may do directly or over
HTTP, and about nothing otherwise; calls that go past the monitor are not traced.  Whether such a
step fails, and how a failure is answered, is not left to the span to say: it closes with the
failure with which the same operation leaves the monitor, and has its property if the same call on
the engine returns.  Both can be asked for in the same state, by the actions `onMonitor` and
`onEngine`.

The trace of a session is then one span after another.
-/

namespace GpuInventory
namespace Session

/-- The operation of the monitor that an action runs. -/
def Action.operation? : Action → Option Monitor.Operation
  | .setUpMonitor => some .setUp
  | .refresh => some .refresh
  | .monitoredDevices => some .usableDevices
  | .request r =>
    if r.asksFor .discovery then some .refresh
    else if r.asksFor .usable then some .usableDevices
    else none
  | _ => none

/-- The action that runs an operation of the monitor and nothing else. -/
def onMonitor : Monitor.Operation → Action
  | .setUp => .setUpMonitor
  | .refresh => .refresh
  | .usableDevices => .monitoredDevices

/-- The same call on the engine, past the monitor. -/
def onEngine : Monitor.Operation → Action
  | .setUp => .setUpEngine none
  | .refresh => .discover
  | .usableDevices => .usableDevices

def Answer.failure? : Answer → Option Failure
  | .failed failure => some failure
  | _ => none

/-- What a span tells about an answer of the engine, where `engine` is its state afterwards. -/
def Answer.property? (engine : Engine) : Answer → Option (String × Json)
  | .nothing => some ("gpu.binary_path", .string (engine.path.getD ""))
  | .inventory (some found) => some ("gpu.count", .integer found.count)
  | .devices found => some ("gpu.usable_count", .integer found.length)
  | _ => none

end Session

namespace Engine

theorem discover_events (engine : Engine) (machine : Command.Machine) :
    (engine.discover machine).events = [] := by
  unfold discover
  split
  · rfl
  · rfl
  · split
    · rfl
    · unfold runTool
      dsimp only
      split
      · rfl
      · split <;> rfl

end Engine

namespace Session

/-! ## Steps -/

section Steps

variable (session : Session)

theorem step_traced (action : Action) :
    (session.step action).state.traced = session.traced := by
  cases action <;> rfl

theorem after_traced (actions : List Action) :
    (session.after actions).traced = session.traced := by
  induction actions generalizing session with
  | nil => rfl
  | cons action rest ih => rw [after_cons, ih, step_traced]

/-- A request tells the tracing what its operation tells, and nothing if it has none. -/
theorem serve_events (request : Http.Request) (monitor : Monitor) (world : World) :
    (Http.serve request monitor world).events =
      match (Action.request request).operation? with
      | some operation => operation.events monitor world
      | none => [] := by
  unfold Action.operation?
  dsimp only
  cases hd : request.asksFor .discovery with
  | true =>
    rw [Http.serve_of_asksFor (by decide) hd]
    rfl
  | false =>
    cases hu : request.asksFor .usable with
    | true =>
      rw [Http.serve_of_asksFor (by decide) hu]
      rfl
    | false =>
      rw [Http.serve_eq_of_neither hd hu]
      rfl

theorem step_events (h : session.traced = true) (action : Action) :
    (session.step action).events =
      match action.operation? with
      | some operation => operation.events session.monitor session.world
      | none => [] := by
  have hcarried : ∀ done : Effects Monitor Answer, (session.carryOut done).events = done.events :=
    fun done => if_pos h
  have hpast : ∀ done : Effects Engine Answer, done.events = [] →
      (session.carryOutPast done).events = [] := by
    intro done hnone
    rw [carryOutPast, hcarried]
    exact hnone
  cases action with
  | setUpMonitor => exact hcarried _
  | refresh => exact hcarried _
  | monitoredDevices => exact hcarried _
  | request request =>
    show (session.carryOut ((Http.serve request session.monitor session.world).mapValue
      .response)).events = _
    rw [hcarried]
    exact serve_events request session.monitor session.world
  | setUpEngine discovery => exact hpast _ rfl
  | discover => exact hpast _ (session.engine.discover_events session.world.machine)
  | _ => rfl

end Steps

/-! ## What a span tells about its operation -/

theorem failure?_ofExcept {α : Type} {f : α → Answer} (h : ∀ a, (f a).failure? = none)
    (operation : Monitor.Operation) (g : α → String × Json) (result : Except Failure α) :
    (Answer.ofExcept f result).failure? = (operation.span (result.map g)).leaving := by
  cases result with
  | ok a => exact h a
  | error failure => rfl

theorem property?_ofExcept {α : Type} {f : α → Answer} {g : α → String × Json} {engine : Engine}
    (h : ∀ a, (f a).property? engine = some (g a)) (result : Except Failure α) :
    (Answer.ofExcept f result).property? engine = (result.map g).toOption := by
  cases result with
  | ok a => exact h a
  | error failure => rfl

section Operations

variable (session : Session) (operation : Monitor.Operation)

def found : Except Failure (String × Json) :=
  operation.found session.engine session.monitor.discovery session.world

theorem failure?_step_onMonitor :
    (session.step (onMonitor operation)).value.failure? =
      (operation.span (session.found operation)).leaving := by
  cases operation with
  | setUp =>
    show (Answer.ofExcept _ (session.monitor.setUp session.world).value).failure? = _
    rw [Monitor.setUp_value]
    exact failure?_ofExcept (fun _ => rfl) .setUp _ _
  | refresh =>
    show (Answer.ofExcept _ (session.monitor.refresh session.world).value).failure? = _
    rw [Monitor.refresh_value]
    exact failure?_ofExcept (fun _ => rfl) .refresh _ _
  | usableDevices =>
    show (Answer.ofExcept _ session.monitor.usableDevices.value).failure? = _
    rw [Monitor.usableDevices_value]
    exact failure?_ofExcept (fun _ => rfl) .usableDevices _ _

theorem failure?_step_onEngine :
    (session.step (onEngine operation)).value.failure? =
      (operation.span (session.found operation)).leaving := by
  cases operation with
  | setUp => exact failure?_ofExcept (fun _ => rfl) .setUp _ _
  | refresh => exact failure?_ofExcept (fun _ => rfl) .refresh _ _
  | usableDevices => exact failure?_ofExcept (fun _ => rfl) .usableDevices _ _

theorem property?_step_onEngine :
    (session.step (onEngine operation)).value.property?
        (session.step (onEngine operation)).state.engine =
      (session.found operation).toOption := by
  cases operation with
  | setUp => exact property?_ofExcept (fun _ => rfl) _
  | refresh => exact property?_ofExcept (fun _ => rfl) _
  | usableDevices => exact property?_ofExcept (fun _ => rfl) _

end Operations

theorem length_properties_span (operation : Monitor.Operation)
    (result : Except Failure (String × Json)) :
    (operation.span result).properties.length = 1 ↔ (operation.span result).leaving = none := by
  rw [Monitor.Operation.span_properties]
  cases result with
  | ok property => exact iff_of_true rfl rfl
  | error failure => exact iff_of_false Nat.zero_ne_one nofun

/-! ## Sessions -/

theorem exists_spans_of_run {session : Session} (h : session.traced = true)
    (actions : List Action) :
    ∃ spans : List Trace.Span,
      (session.run actions).flatMap Effects.events = spans.flatMap Trace.Span.events ∧
        spans.map Trace.Span.name =
          (actions.filterMap Action.operation?).map Monitor.Operation.spanName := by
  induction actions generalizing session with
  | nil => exact ⟨[], rfl, rfl⟩
  | cons action rest ih =>
    obtain ⟨spans, hevents, hnames⟩ := ih ((session.step_traced action).trans h)
    have hfirst := session.step_events h action
    have hrun : (session.run (action :: rest)).flatMap Effects.events =
        (session.step action).events ++
          ((session.step action).state.run rest).flatMap Effects.events := rfl
    cases ho : action.operation? with
    | none =>
      rw [ho] at hfirst
      refine ⟨spans, ?_, ?_⟩
      · rw [hrun, hfirst, hevents]
        rfl
      · rw [hnames, List.filterMap_cons, ho]
    | some operation =>
      rw [ho] at hfirst
      refine ⟨operation.span (session.found operation) :: spans, ?_, ?_⟩
      · rw [hrun, hfirst, hevents, List.flatMap_cons]
        exact congrArg (· ++ _) (operation.events_eq session.monitor session.world)
      · rw [List.map_cons, hnames, operation.span_name, List.filterMap_cons, ho]
        rfl

/-- Spans are whole, on every way an operation can be left.

The trace of a session is one span after another, one for each operation of the monitor.  In every
state that a session can reach, a step that runs no operation tells the tracing nothing.  One that
runs an operation tells about one span and no other.  The span closes with the failure with which
the operation leaves the monitor, if there is one.  It has a property exactly if the call on the
engine returns, which tells what the engine has answered.  And a failure is recorded in it, and the
span marked as failed with its message, exactly if the operation is a call for discovery and callers
reckon with the failure. -/
theorem spans_are_whole (world : World) (discovery : Discovery) (search : Locator.Search)
    (metrics : Option Metrics) (actions : List Action) :
    let session := fresh world discovery search metrics true
    let reached := session.after actions
    (∃ spans : List Trace.Span,
      (session.run actions).flatMap Effects.events = spans.flatMap Trace.Span.events ∧
        spans.map Trace.Span.name =
          (actions.filterMap Action.operation?).map Monitor.Operation.spanName) ∧
      ∀ action : Action,
        (action.operation? = none → (reached.step action).events = []) ∧
          ∀ operation, action.operation? = some operation →
            ∃ span : Trace.Span, (reached.step action).events = span.events ∧
              (∀ other : Trace.Span, (reached.step action).events = other.events → other = span) ∧
              span.name = operation.spanName ∧
              span.leaving = (reached.step (onMonitor operation)).value.failure? ∧
              (span.properties.length = 1 ↔
                (reached.step (onEngine operation)).value.failure? = none) ∧
              span.properties =
                ((reached.step (onEngine operation)).value.property?
                  (reached.step (onEngine operation)).state.engine).toList ∧
              span.failures = (span.leaving.bind operation.recorded).toList ∧
              span.complaints = span.failures.map Failure.message := by
  intro session reached
  have htraced : reached.traced = true := session.after_traced actions
  refine ⟨exists_spans_of_run rfl actions, fun action => ⟨fun hnone => ?_, fun operation ho => ?_⟩⟩
  · rw [step_events reached htraced, hnone]
  · have hevents : (reached.step action).events =
        (operation.span (reached.found operation)).events := by
      rw [step_events reached htraced, ho]
      exact operation.events_eq reached.monitor reached.world
    refine ⟨operation.span (reached.found operation), hevents, fun other hother => ?_,
      operation.span_name _, (failure?_step_onMonitor reached operation).symm, ?_, ?_,
      operation.span_failures _, operation.span_complaints _⟩
    · exact Trace.Span.events_injective (hother.symm.trans hevents)
    · rw [failure?_step_onEngine]
      exact length_properties_span operation _
    · rw [property?_step_onEngine]
      exact operation.span_properties _

end Session
end GpuInventory
