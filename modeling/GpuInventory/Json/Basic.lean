import GpuInventory.Decimal.Writing
import GpuInventory.Text.Surrogate

/-!
JSON values, with whole numbers apart from the others, and their text.

A member of an object is found by its name.  An object that is read from a text has each name once:
`Json.member` keeps the place of the first member of a name and the value of the last one.
-/

namespace GpuInventory

inductive Json where
  | null
  | bool (value : Bool)
  | integer (value : Int)
  | float (value : Float)
  | string (value : String)
  | array (items : List Json)
  | object (members : List (String × Json))
deriving BEq, Inhabited

namespace Json

/-- The members of an object with one of them given a value: in its place if it is there, and at
the end otherwise. -/
def member (name : String) (value : Json) : List (String × Json) → List (String × Json)
  | [] => [(name, value)]
  | (n, v) :: rest =>
    if n = name then (n, value) :: rest else (n, v) :: member name value rest

def get? (name : String) : Json → Option Json
  | .object members => (members.find? fun m => m.1 == name).map (·.2)
  | _ => none

def ofString? : Option String → Json
  | some s => .string s
  | none => .null

def ofInt? : Option Int → Json
  | some i => .integer i
  | none => .null

/-- A number that may be missing.  JSON has no infinities and no not-a-number, so these become
null as well. -/
def ofFloat? : Option Float → Json
  | some x => if x.isFinite then .float x else .null
  | none => .null

/-! ## The text -/

inductive Layout where
  /-- On a line of its own, with blanks between its parts. -/
  | line
  /-- In the body of an answer, where halves of surrogate pairs are not escaped. -/
  | body
deriving DecidableEq, Repr

/-- What stands behind a comma or a colon. -/
def Layout.gap : Layout → List Char
  | .line => [' ']
  | .body => []

def unitEscape (unit : Nat) : List Char :=
  '\\' :: 'u' :: Text.hexadecimal 4 unit

def escapedChar (layout : Layout) (c : Char) : List Char :=
  if c = '"' ∨ c = '\\' then ['\\', c]
  else if c = '\n' then ['\\', 'n']
  else if c = '\r' then ['\\', 'r']
  else if c = '\t' then ['\\', 't']
  else if c = '\x08' then ['\\', 'b']
  else if c = '\x0c' then ['\\', 'f']
  else if c.toNat < 0x20 then unitEscape c.toNat
  else
    match layout, Text.half? c with
    | .line, some unit => unitEscape unit
    | _, _ => [c]

def stringText (layout : Layout) (s : String) : List Char :=
  '"' :: s.toList.flatMap (escapedChar layout) ++ ['"']

mutual

def chars (layout : Layout) : Json → List Char
  | .null => "null".toList
  | .bool value => (if value then "true" else "false").toList
  | .integer value => (integerText value).toList
  | .float value => (Decimal.shortestText value).toList
  | .string value => stringText layout value
  | .array items => '[' :: itemChars layout items ++ [']']
  | .object members => '\x7b' :: memberChars layout members ++ ['\x7d']

def itemChars (layout : Layout) : List Json → List Char
  | [] => []
  | [item] => item.chars layout
  | item :: rest => item.chars layout ++ ',' :: layout.gap ++ itemChars layout rest

def memberChars (layout : Layout) : List (String × Json) → List Char
  | [] => []
  | [(name, value)] => stringText layout name ++ ':' :: layout.gap ++ value.chars layout
  | (name, value) :: rest =>
    stringText layout name ++ ':' :: layout.gap ++ value.chars layout ++ ',' :: layout.gap ++
      memberChars layout rest

end

/-- The text of a value on a line of its own. -/
def text (value : Json) : String :=
  String.ofList (value.chars .line)

end Json
end GpuInventory
