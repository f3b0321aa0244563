import GpuInventory.Json.Reading
import GpuInventory.Settings.Checking
import GpuInventory.Text.LowerCase

/-!
Settings from environment variables.

The variable of a group holds the whole group as JSON; a longer name, with two underscores before
each further part, holds one setting of the group, or one member of it, and wins over the JSON of
the group.  Names of variables are taken in lower case.  What a variable holds is a text, but for
groups and for the environment of the tool, which are JSON.
-/

namespace GpuInventory
namespace Settings

def variableStart : String := "gpu_discovery_"

def partSeparator : String := "__"

def nameParts (part : List Char) : List Char → List String
  | [] => [String.ofList part.reverse]
  | '_' :: '_' :: rest => String.ofList part.reverse :: nameParts [] rest
  | c :: rest => nameParts (c :: part) rest

/-- Puts a value into an object at a path.  A value on the way that is no object stays, and nothing
is put into it. -/
def put (value : Json) : List String → List (String × Json) → List (String × Json)
  | [], members => members
  | [name], members => Json.member name value members
  | name :: path, members =>
    match Json.get? name (.object members) with
    | none => Json.member name (.object (put value path [])) members
    | some (.object inner) => Json.member name (.object (put value path inner)) members
    | some _ => members

mutual

/-- A value over another one: objects are merged, and of anything else the upper value counts. -/
def mergeValue (lower : Json) : Json → Json
  | .null => .null
  | .bool value => .bool value
  | .integer value => .integer value
  | .float value => .float value
  | .string value => .string value
  | .array items => .array items
  | .object members =>
    match lower with
    | .object below => .object (mergeMembers below members)
    | _ => .object members

def mergeMembers (lower : List (String × Json)) : List (String × Json) → List (String × Json)
  | [] => lower
  | (name, value) :: upper =>
    match Json.get? name (.object lower) with
    | some below => mergeMembers (Json.member name (mergeValue below value) lower) upper
    | none => mergeMembers (Json.member name value lower) upper

end

/-! ## Groups -/

/-- The groups, each with the names of its settings. -/
def groups : List (String × List String) :=
  [("discovery", ["path_to_executable", "allowed_devices", "environment"]),
    ("server", ["host", "port"]),
    ("observability", ["log_level", "log_format", "environment", "otlp_endpoint"])]

inductive Fault where
  /-- A variable of this group should hold JSON. -/
  | unreadable (group : String)
  | invalid (problems : List Problem)
deriving Repr

def unreadableMessage (group : String) : String :=
  "error parsing value for field \"" ++ group ++ "\" from source \"EnvSettingsSource\""

/-- The path of the setting of a group that a variable is for. -/
def pathIn? (group name : String) : Option (List String) :=
  let start := (variableStart ++ group ++ partSeparator).toList
  if start.isPrefixOf name.toList then
    some (nameParts [] (name.toList.drop start.length))
  else none

def holdsJson (group : String) (path : List String) : Bool :=
  group == "discovery" && path == ["environment"]

/-- What the variable of a setting holds.  One that is empty holds an empty text in any case. -/
def held? (group : String) (path : List String) (value : String) : Option Json :=
  if holdsJson group path && !value.isEmpty then Json.parse? value else some (.string value)

/-- The members of a group that have variables of their own. -/
def ownMembers? (group : String) (given : List (String × String)) :
    Option (List (String × Json)) :=
  given.foldlM (fun members (name, value) =>
    match pathIn? group name with
    | none => some members
    | some path => (held? group path value).map fun json => put json path members) []

/-- The value of a group, if any variable says anything about it. -/
def groupValue? (group : String) (given : List (String × String)) :
    Except Fault (Option Json) :=
  match given.lookup (variableStart ++ group) with
  | none =>
    match ownMembers? group given with
    | none => .error (.unreadable group)
    | some [] => .ok none
    | some members => .ok (some (.object members))
  | some text =>
    match Json.parse? text with
    | none => .error (.unreadable group)
    | some (.object members) =>
      match ownMembers? group given with
      | none => .error (.unreadable group)
      | some own => .ok (some (.object (mergeMembers members own)))
    | some .null => .ok none
    | some value => .ok (some value)

/-- A group in which the names of settings are written as they should be. -/
def withNames (names : List String) : Json → Json
  | .object members =>
    .object (members.foldl (fun named (name, value) =>
      Json.member ((names.find? fun n => n == Text.lower name).getD name) value named) [])
  | value => value

def groupValues (given : List (String × String)) :
    List (String × List String) → Except Fault (List (String × Json))
  | [] => .ok []
  | (group, names) :: rest => do
    let value ← groupValue? group given
    let values ← groupValues given rest
    match value with
    | none => return values
    | some value => return (group, withNames names value) :: values

/-- The settings that some environment variables give.  Of two names that differ in case only, the
later one counts. -/
def read (given : List (String × String)) : Except Fault Settings := do
  let lowered := Environment.ofList (given.map fun v => (Text.lower v.1, v.2))
  let values ← groupValues lowered.pairs groups
  match (check (.object values)).result with
  | .ok settings => return settings
  | .error problems => throw (.invalid problems)

end Settings
end GpuInventory
