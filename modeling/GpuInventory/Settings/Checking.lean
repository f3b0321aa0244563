import GpuInventory.Decimal.Reading
import GpuInventory.Json.Basic
import GpuInventory.Settings.Basic
import GpuInventory.Settings.WrittenInteger

/-!
Settings from untyped values: which values a setting takes, and what is wrong with the others.

All problems are told at once, each with the place of the setting and the kind of the problem.  A
setting that is missing has its default, and a name that is no setting is passed over.  Texts have
to be texts.  A port may also be written as a text, or as a number without a fraction.
-/

namespace GpuInventory
namespace Settings

inductive ProblemKind where
  | notText
  | notMapping
  | notGroup
  | notListed
  | brokenText
  | notInteger
  | unreadableInteger
  | overlongInteger
  | fractional
  | infinite
deriving DecidableEq, Repr

def ProblemKind.name : ProblemKind → String
  | .notText => "string_type"
  | .notMapping => "dict_type"
  | .notGroup => "model_type"
  | .notListed => "literal_error"
  | .brokenText => "string_unicode"
  | .notInteger => "int_type"
  | .unreadableInteger => "int_parsing"
  | .overlongInteger => "int_parsing_size"
  | .fractional => "int_from_float"
  | .infinite => "finite_number"

/-- A setting, by the names on the way to it, and what is wrong with its value. -/
structure Problem where
  path : List String
  kind : ProblemKind
deriving DecidableEq, Repr

/-- The place of a problem: the names with points between them. -/
def Problem.place (p : Problem) : String :=
  ".".intercalate p.path

def Problem.le (p q : Problem) : Bool :=
  p.place < q.place || (p.place == q.place && (p.kind.name < q.kind.name || p.kind == q.kind))

/-- A value together with what is wrong with the values that it was made from. -/
structure Checked (α : Type) where
  value : α
  problems : List Problem := []

namespace Checked

def result {α : Type} (c : Checked α) : Except (List Problem) α :=
  if c.problems.isEmpty then .ok c.value else .error (c.problems.mergeSort Problem.le)

end Checked

/-- The value of one setting: `check` is given the value if there is one. -/
def setting {α : Type} (path : List String) (default : α) (check : Json → Except ProblemKind α) :
    Option Json → Checked α
  | none => { value := default }
  | some json =>
    match check json with
    | .ok value => { value }
    | .error kind => { value := default, problems := [⟨path, kind⟩] }

/-! ## Values -/

def text : Json → Except ProblemKind String
  | .string s => .ok s
  | _ => .error .notText

def optionalText : Json → Except ProblemKind (Option String)
  | .string s => .ok (some s)
  | .null => .ok none
  | _ => .error .notText

/-- One of the words that `read` knows.  A text that holds half of a surrogate pair is not even
looked up. -/
def word {α : Type} (read : String → Option α) : Json → Except ProblemKind α
  | .string s =>
    if Text.hasHalf s.toList then .error .brokenText
    else
      match read s with
      | some value => .ok value
      | none => .error .notListed
  | _ => .error .notListed

def wholeFloat (x : Float) : Except ProblemKind Int :=
  if !x.isFinite then .error .infinite
  else if x.floor != x then .error .fractional
  else if x.abs < 9223372036854775808.0 then .ok x.toInt64.toInt
  else .error .overlongInteger

def textInteger (s : String) : Except ProblemKind Int :=
  if Text.hasHalf s.toList then .error .brokenText
  else
    match WrittenInteger.read s.toList with
    | .ok n => .ok n
    | .error .overlong => .error .overlongInteger
    | .error .malformed => .error .unreadableInteger

def integer : Json → Except ProblemKind Int
  | .integer n => .ok n
  | .bool b => .ok (if b then 1 else 0)
  | .float x => wholeFloat x
  | .string s => textInteger s
  | _ => .error .notInteger

def environment (path : List String) : Option Json → Checked Environment
  | none => { value := {} }
  | some (.object members) =>
    { value := .ofList (members.filterMap fun m => (text m.2).toOption.map fun s => (m.1, s))
      problems := members.filterMap fun m =>
        match text m.2 with
        | .ok _ => none
        | .error kind => some ⟨path ++ [m.1], kind⟩ }
  | some _ => { value := {}, problems := [⟨path, .notMapping⟩] }

/-! ## Groups -/

def checkDiscovery (path : List String) (group : Json) : Checked Discovery :=
  let tool := setting (path ++ ["path_to_executable"]) "" text (group.get? "path_to_executable")
  let allowed := setting (path ++ ["allowed_devices"]) automatic text (group.get? "allowed_devices")
  let environment := environment (path ++ ["environment"]) (group.get? "environment")
  { value :=
      { path := tool.value, allowedDevices := allowed.value, environment := environment.value }
    problems := tool.problems ++ allowed.problems ++ environment.problems }

def checkServer (path : List String) (group : Json) : Checked Server :=
  let base : Server := {}
  let host := setting (path ++ ["host"]) base.host text (group.get? "host")
  let port := setting (path ++ ["port"]) base.port integer (group.get? "port")
  { value := { host := host.value, port := port.value }
    problems := host.problems ++ port.problems }

def checkObservability (path : List String) (group : Json) : Checked Observability :=
  let base : Observability := {}
  let level :=
    setting (path ++ ["log_level"]) base.level (word Log.Level.ofName?) (group.get? "log_level")
  let format :=
    setting (path ++ ["log_format"]) base.format (word LogFormat.ofName?)
      (group.get? "log_format")
  let deployment :=
    setting (path ++ ["environment"]) base.deployment text (group.get? "environment")
  let endpoint :=
    setting (path ++ ["otlp_endpoint"]) base.endpoint optionalText (group.get? "otlp_endpoint")
  { value :=
      { level := level.value, format := format.value, deployment := deployment.value,
        endpoint := endpoint.value }
    problems := level.problems ++ format.problems ++ deployment.problems ++ endpoint.problems }

def group {α : Type} (name : String) (default : α) (check : List String → Json → Checked α) :
    Option Json → Checked α
  | none => { value := default }
  | some (.object members) => check [name] (.object members)
  | some _ => { value := default, problems := [⟨[name], .notGroup⟩] }

def check (groups : Json) : Checked Settings :=
  let discovery := group "discovery" {} checkDiscovery (groups.get? "discovery")
  let server := group "server" {} checkServer (groups.get? "server")
  let observability :=
    group "observability" {} checkObservability (groups.get? "observability")
  { value :=
      { discovery := discovery.value, server := server.value,
        observability := observability.value }
    problems := discovery.problems ++ server.problems ++ observability.problems }

end Settings

def Discovery.ofJson (json : Json) : Except (List Settings.Problem) Discovery :=
  (Settings.checkDiscovery [] json).result

end GpuInventory
