import GpuInventory.Text.Printable
import GpuInventory.Text.Surrogate

/-!
Quoted text: how messages show a value that an operator or a tool has written.  The text stands
between two quotes, on one line, and with every character that cannot be shown written as an
escape, so that a reader can tell where it ends and what it held.

The quotes are single ones, unless the text holds a single quote and no double one.  The quote that
surrounds the text and the backslash are written with a backslash in front.
-/

namespace GpuInventory
namespace Text

/-- The quote that surrounds a text: the one that spares an escape, and a single one if both or
neither would. -/
def quoteMark (s : List Char) : Char :=
  if '\'' ∈ s ∧ '"' ∉ s then '"' else '\''

/-- The escape of a character by its code point, in the shortest of the three widths that holds
it. -/
def codeEscape (c : Char) : List Char :=
  let n := (half? c).getD c.toNat
  if n < 0x100 then '\\' :: 'x' :: hexadecimal 2 n
  else if n < 0x10000 then '\\' :: 'u' :: hexadecimal 4 n
  else '\\' :: 'U' :: hexadecimal 8 n

def escape (quote c : Char) : List Char :=
  if c = quote ∨ c = '\\' then ['\\', c]
  else if c = '\t' then ['\\', 't']
  else if c = '\n' then ['\\', 'n']
  else if c = '\r' then ['\\', 'r']
  else if isPrintable c then [c]
  else codeEscape c

def quoted (s : List Char) : List Char :=
  quoteMark s :: s.flatMap (escape (quoteMark s)) ++ [quoteMark s]

/-- A text with an escape for every character beyond ASCII. -/
def inAscii (s : List Char) : List Char :=
  s.flatMap fun c => if c.toNat < 0x80 then [c] else codeEscape c

def quotedString (s : String) : String :=
  String.ofList (quoted s.toList)

theorem quoteMark_eq (s : List Char) : quoteMark s = '\'' ∨ quoteMark s = '"' := by
  unfold quoteMark
  split
  · exact .inr rfl
  · exact .inl rfl

end Text
end GpuInventory
