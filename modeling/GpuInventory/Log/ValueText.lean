import GpuInventory.Json.Basic
import GpuInventory.Text.Quoted

/-!
How log messages show a value: on one line, texts in quotes, arrays in square brackets and objects
in braces.  A text on its own may also be shown as it is.
-/

namespace GpuInventory
namespace Log
namespace ValueText

mutual

/-- A value as it is shown within a message, texts in quotes. -/
def shown : Json → List Char
  | .null => "None".toList
  | .bool value => (if value then "True" else "False").toList
  | .integer value => (integerText value).toList
  | .float value => (Decimal.shortestText value).toList
  | .string value => Text.quoted value.toList
  | .array items => '[' :: shownItems items ++ [']']
  | .object members => '\x7b' :: shownMembers members ++ ['\x7d']

def shownItems : List Json → List Char
  | [] => []
  | [item] => shown item
  | item :: rest => shown item ++ ',' :: ' ' :: shownItems rest

def shownMembers : List (String × Json) → List Char
  | [] => []
  | [(name, value)] => Text.quoted name.toList ++ ':' :: ' ' :: shown value
  | (name, value) :: rest =>
    Text.quoted name.toList ++ ':' :: ' ' :: shown value ++ ',' :: ' ' :: shownMembers rest

end

/-- A value as it is written where no quotes are wanted. -/
def plain : Json → List Char
  | .string value => value.toList
  | value => shown value

end ValueText
end Log
end GpuInventory
