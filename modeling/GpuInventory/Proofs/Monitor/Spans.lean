import GpuInventory.Proofs.Monitor.Observation

/-!
The spans that a monitor tells about.

Each of the three operations of a monitor is one span.  The span opens before the engine is called
and closes when the operation is left, on whatever way: what the engine gives becomes a property, a
failure that leaves the operation closes the span with it.  Only a call for discovery says more
about its failure, and only if callers reckon with it: the failure is recorded, and the span is
marked as failed with the message.

`Span` holds a span in its order, so that its events can be nothing but one span.  What goes into it
follows from what the engine gives and is put together by `Operation.span`; `Operation.events_eq`
says that this is what a monitor tells.
-/

namespace GpuInventory

namespace Trace

namespace Event

/-- Whether an event opens or closes a span. -/
def isBracket : Event → Bool
  | .start _ | .finish _ => true
  | .property _ _ | .raised _ | .failed _ => false

def property? : Event → Option (String × Json)
  | .property key value => some (key, value)
  | _ => none

def raised? : Event → Option Failure
  | .raised failure => some failure
  | _ => none

def failed? : Event → Option String
  | .failed description => some description
  | _ => none

end Event

/-- What is told about one span: nothing opens or closes between its two ends. -/
structure Span where
  name : String
  told : List Event
  leaving : Option Failure
  no_bracket : ∀ event ∈ told, event.isBracket = false

namespace Span

def events (span : Span) : List Event :=
  .start span.name :: span.told ++ [.finish span.leaving]

def properties (span : Span) : List (String × Json) :=
  span.told.filterMap Event.property?

def failures (span : Span) : List Failure :=
  span.told.filterMap Event.raised?

def complaints (span : Span) : List String :=
  span.told.filterMap Event.failed?

/-- A span can be read off its events. -/
theorem events_injective {s t : Span} (h : s.events = t.events) : s = t := by
  obtain ⟨name, told, leaving, _⟩ := s
  obtain ⟨name', told', leaving', _⟩ := t
  have hends := List.cons.inj h
  have hname : name = name' := Event.start.inj hends.1
  obtain ⟨htold, hlast⟩ := List.append_inj' hends.2 rfl
  have hleaving : leaving = leaving' := Event.finish.inj (List.cons.inj hlast).1
  subst hname htold hleaving
  rfl

end Span

end Trace

namespace Monitor

/-- The operations of a monitor that call the engine. -/
inductive Operation where
  | setUp
  | refresh
  | usableDevices
deriving DecidableEq, Repr

namespace Operation

def spanName : Operation → String
  | .setUp => "gpu_discovery.initialize"
  | .refresh => "gpu_discovery.discover"
  | .usableDevices => "gpu_discovery.usable_devices"

/-- What the engine gives for an operation, as the property of the span. -/
def found (operation : Operation) (engine : Engine) (discovery : Discovery) (world : World) :
    Except Failure (String × Json) :=
  match operation with
  | .setUp =>
    let done := engine.setUp discovery world.place world.machine
    done.value.map fun _ => ("gpu.binary_path", .string (done.state.path.getD ""))
  | .refresh =>
    (engine.discover world.machine).value.map fun inventory =>
      ("gpu.count", .integer inventory.count)
  | .usableDevices =>
    engine.usableDevices.value.map fun devices =>
      ("gpu.usable_count", .integer devices.length)

def events (operation : Operation) (monitor : Monitor) (world : World) : List Trace.Event :=
  match operation with
  | .setUp => (monitor.setUp world).events
  | .refresh => (monitor.refresh world).events
  | .usableDevices => monitor.usableDevices.events

/-- The failure of an operation as far as its span records it. -/
def recorded (operation : Operation) (failure : Failure) : Option Failure :=
  if operation = .refresh ∧ failure.isExpected = true then some failure else none

def report (operation : Operation) (failure : Failure) : List Trace.Event :=
  match operation.recorded failure with
  | some failure => [.raised failure, .failed failure.message]
  | none => []

/-- The span of an operation, by what the engine gives. -/
def span (operation : Operation) : Except Failure (String × Json) → Trace.Span
  | .ok (key, value) =>
    { name := operation.spanName, told := [.property key value], leaving := none,
      no_bracket := by simp [Trace.Event.isBracket] }
  | .error failure =>
    { name := operation.spanName, told := operation.report failure, leaving := some failure,
      no_bracket := by
        unfold report
        split <;> simp [Trace.Event.isBracket] }

theorem events_eq (operation : Operation) (monitor : Monitor) (world : World) :
    operation.events monitor world =
      (operation.span (operation.found monitor.engine monitor.discovery world)).events := by
  cases operation with
  | setUp =>
    show (monitor.setUp world).events = _
    unfold Monitor.setUp found
    dsimp only
    cases (monitor.engine.setUp monitor.discovery world.place world.machine).value <;> rfl
  | refresh =>
    show (monitor.refresh world).events = _
    unfold Monitor.refresh found
    dsimp only
    cases (monitor.engine.discover world.machine).value with
    | ok inventory => rfl
    | error failure =>
      by_cases hx : failure.isExpected = true
      · have hreport : report .refresh failure = [.raised failure, .failed failure.message] := by
          simp [report, recorded, hx]
        simp [hx, Except.map, span, Trace.Span.events, hreport, spanName]
      · have hreport : report .refresh failure = [] := by simp [report, recorded, hx]
        simp [hx, Except.map, span, Trace.Span.events, hreport, spanName]
  | usableDevices =>
    show monitor.usableDevices.events = _
    unfold Monitor.usableDevices found
    dsimp only
    cases monitor.engine.usableDevices.value <;> rfl

section Span

variable (operation : Operation) (result : Except Failure (String × Json))

theorem span_name : (operation.span result).name = operation.spanName := by
  cases result <;> rfl

theorem span_properties : (operation.span result).properties = result.toOption.toList := by
  cases result with
  | ok property => rfl
  | error failure =>
    show (operation.report failure).filterMap Trace.Event.property? = []
    unfold report
    split <;> rfl

theorem span_failures :
    (operation.span result).failures =
      ((operation.span result).leaving.bind operation.recorded).toList := by
  cases result with
  | ok property => rfl
  | error failure =>
    show (operation.report failure).filterMap Trace.Event.raised? =
      (operation.recorded failure).toList
    unfold report
    cases operation.recorded failure <;> rfl

theorem span_complaints :
    (operation.span result).complaints = (operation.span result).failures.map Failure.message := by
  cases result with
  | ok property => rfl
  | error failure =>
    show (operation.report failure).filterMap Trace.Event.failed? =
      ((operation.report failure).filterMap Trace.Event.raised?).map Failure.message
    unfold report
    cases operation.recorded failure <;> rfl

end Span

end Operation

end Monitor
end GpuInventory
