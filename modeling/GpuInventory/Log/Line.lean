import GpuInventory.Log
import GpuInventory.Log.Template
import GpuInventory.Text.Blank

/-!
The lines of the log: entries of the program's own parts and entries that callers make, both with
the name of the service.

A caller's entry may have fields and a component.  The fields that every line has win over those of
the caller.  Some fields of the caller are not kept, as they say how the entry is made: one asks for
the place in the program that logs, another one holds more arguments for the event.

As people read it, a line of the log may take more than one line of text: what an event or the name
of a field holds is written as it is, and a trace of calls and an error go on lines of their own.
-/

namespace GpuInventory
namespace Log

def serviceName : String := "gpu_discovery"

/-- The part that logs for every caller with a component. -/
def componentLogger : String := "gpu_discovery.infrastructure.logging"

structure Line where
  event : String
  level : Level
  logger : String
  fields : List (String × Json) := []

/-- An entry that a caller asks for. -/
structure Note where
  level : Level
  template : String
  arguments : List Json := []
  fields : List (String × Json) := []
  component : Option String := none
  /-- Who logs, if the caller has no component. -/
  logger : String

/-- Whether a value is nothing: null, false, zero, or empty. -/
def isNothing : Json → Bool
  | .null => true
  | .bool value => !value
  | .integer value => value == 0
  | .float value => value == 0.0
  | .string value => value.isEmpty
  | .array items => items.isEmpty
  | .object members => members.isEmpty

def argumentsField : String := "positional_args"

def placeField : String := "stack_info"

/-- What a field of arguments gives to fill in: an array of one object gives its members, anything
else is one argument by itself.  A number is none, nor is an object of one member. -/
def lateSupply? : Json → Option Template.Supply
  | .array [.object (m :: members)] => some (.ofArguments [.object (m :: members)])
  | .array items => some { values := [.array items], members := some (.array items) }
  | .object (m :: n :: members) => some (.ofArguments [.object (m :: n :: members)])
  | .string s => some { values := [.string s] }
  | _ => none

namespace Note

def field? (note : Note) (name : String) : Option Json :=
  Json.get? name (.object note.fields)

/-- The event of a note, unless its arguments do not fit its template. -/
def event? (note : Note) : Option String := do
  let event ← Template.fill note.template note.arguments
  match note.field? argumentsField with
  | none => some event
  | some late =>
    if isNothing late then some event
    else (lateSupply? late).bind fun supply => Template.fillWith event supply

/-- The fields of a note that are kept.  A null in the field for arguments is one. -/
def kept (note : Note) : List (String × Json) :=
  note.fields.filter fun (name, value) =>
    name != placeField && (name != argumentsField || value == .null)

end Note

namespace Line

def ofEntry (e : Entry) : Line :=
  { event := e.message, level := e.level, logger := e.source.name }

/-- The line of a note, unless its arguments do not fit its template.  An empty component is
none. -/
def ofNote? (note : Note) : Option Line :=
  note.event?.map fun event =>
    match note.component.filter fun name => !name.isEmpty with
    | some name =>
      { event, level := note.level, logger := componentLogger,
        fields := note.kept.foldl (fun members m => Json.member m.1 m.2 members)
          [("component", .string name)] }
    | none => { event, level := note.level, logger := note.logger, fields := note.kept }

/-- A line as an object.  The time is put in when the line is written, so no field of that name is
kept. -/
def json (line : Line) : Json :=
  .object <|
    Json.member "service" (.string serviceName) <|
    Json.member "logger" (.string line.logger) <|
    Json.member "level" (.string line.level.lowerName) <|
    Json.member "event" (.string line.event) <|
    line.fields.filter fun field => field.1 != "timestamp"

/-! ## As people read it -/

/-- The fields that every line has, and the ones that are laid out in a way of their own. -/
def ownFields : List String :=
  ["timestamp", "level", "logger", "event", "service", "logger_name", "stack", "exception",
    "exc_info"]

/-- Whether a text has to be put in quotes to be told from what stands around it. -/
def wantsQuotes (s : List Char) : Bool :=
  s.any fun c => [' ', '\t', '=', '\r', '\n', '"', '\''].contains c

def fieldText : Json → List Char
  | .string s => if wantsQuotes s.toList then Text.quoted s.toList else s.toList
  | value => ValueText.shown value

/-- The text of a field that may be missing or null; any other value is none. -/
def textField? (line : Line) (name : String) : Option (Option String) :=
  match Json.get? name (.object line.fields) with
  | none | some .null => some none
  | some (.string s) => some (some s)
  | some _ => none

def rule : String := "\n\n" ++ "".pushn '=' 79 ++ "\n"

/-- The first part of a line: the level, the event, and the fields. -/
def heading (line : Line) : String :=
  let name := match Json.get? "logger_name" (.object line.fields) with
    | some value => " [" ++ String.ofList (ValueText.plain value) ++ "]"
    | none => ""
  "[" ++ line.level.lowerName ++ "] " ++ line.event ++ " [" ++ line.logger ++ "]" ++ name ++
    String.join ((line.fields.filter fun field => !ownFields.contains field.1).map
      fun (name, value) => " " ++ name ++ "=" ++ String.ofList (fieldText value)) ++
    " service=" ++ serviceName

/-- A line as people read it, unless its trace of calls or its error is no text. -/
def console? (line : Line) : Option String := do
  let trace ← line.textField? "stack"
  let error ← line.textField? "exception"
  let fails := error.isSome ||
    ((Json.get? "exc_info" (.object line.fields)).map fun value => !isNothing value).getD false
  let traceText := match trace with
    | some text => "\n" ++ text ++ if fails then rule else ""
    | none => ""
  let errorText := match error with
    | some text => "\n" ++ text
    | none => ""
  return line.heading ++ traceText ++ errorText

def consoleCount (lines : List Line) : Nat :=
  (lines.flatMap fun line =>
    match line.console? with
    | some text => Text.lines (text.toList ++ ['\n'])
    | none => []).length

def written (threshold : Level) (lines : List Line) : List Line :=
  lines.filter fun line => line.level.reaches threshold

end Line
end Log
end GpuInventory
