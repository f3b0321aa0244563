import GpuInventory.Json.Basic
import GpuInventory.Decimal.Reading
import GpuInventory.Text.Surrogate

/-!
Reading JSON.  Each reader takes what it reads off the front of a text and gives the rest, together
with the fact that the rest is shorter; the readers of nested values end because of that.

Beyond the standard, the words `NaN`, `Infinity` and `-Infinity` are numbers.  A whole number of too
many digits makes the text unreadable, as does a control character within a string.
-/

namespace GpuInventory
namespace Json

/-- What is left of a text after something was read off its front. -/
abbrev Rest (s : List Char) := { r : List Char // r.length < s.length }

def isSpace (c : Char) : Bool :=
  c == ' ' || c == '\t' || c == '\n' || c == '\r'

def skip (s : List Char) : List Char :=
  s.dropWhile isSpace

export Text (hexDigit?)

/-- The number that four hexadecimal digits stand for. -/
def hexUnit? (a b c d : Char) : Option Nat :=
  if [a, b, c, d].all Text.isHexDigit then some (Text.numberOf 16 [a, b, c, d]) else none

/-- The character that the letter after a backslash stands for. -/
def escaped? : Char → Option Char
  | '"' => some '"'
  | '\\' => some '\\'
  | '/' => some '/'
  | 'b' => some '\x08'
  | 'f' => some '\x0c'
  | 'n' => some '\n'
  | 'r' => some '\r'
  | 't' => some '\t'
  | _ => none

/-- The character that a code unit is on its own, or the stand-in for half of a surrogate pair. -/
def ofUnit (u : Nat) : Char :=
  if Text.isHalf u then Text.standIn u else Char.ofNat u

/-- The characters of a run of code units: the two halves of a surrogate pair make one character,
and a half on its own gets a stand-in. -/
def ofUnits : List Nat → List Char
  | [] => []
  | [u] => [ofUnit u]
  | u :: v :: rest =>
    if 0xD800 ≤ u ∧ u < 0xDC00 ∧ 0xDC00 ≤ v ∧ v < 0xE000 then
      Char.ofNat (0x10000 + (u - 0xD800) * 0x400 + (v - 0xDC00)) :: ofUnits rest
    else ofUnit u :: ofUnits (v :: rest)

/-- The code units of a string after its opening quote, up to its closing one. -/
def readUnits (s : List Char) : Option (List Nat × Rest s) :=
  match s with
  | '"' :: rest => some ([], ⟨rest, by simp⟩)
  | '\\' :: 'u' :: a :: b :: c :: d :: rest => do
    let unit ← hexUnit? a b c d
    let (units, ⟨rest', h⟩) ← readUnits rest
    some (unit :: units, ⟨rest', by simp; omega⟩)
  | '\\' :: letter :: rest => do
    let c ← escaped? letter
    let (units, ⟨rest', h⟩) ← readUnits rest
    some (c.toNat :: units, ⟨rest', by simp; omega⟩)
  | c :: rest =>
    if c.toNat < 0x20 ∨ c = '\\' then none
    else do
      let (units, ⟨rest', h⟩) ← readUnits rest
      some (c.toNat :: units, ⟨rest', by simp; omega⟩)
  | [] => none

def readString (s : List Char) : Option (String × Rest s) :=
  (readUnits s).map fun (units, rest) => (String.ofList (ofUnits units), rest)

def isNumberChar (c : Char) : Bool :=
  c.isDigit || c == '+' || c == '-' || c == '.' || c == 'e' || c == 'E'

/-- Whether the digits of a number are written without a needless zero in front. -/
def isWhole : List Char → Bool
  | ['0'] => true
  | '0' :: _ => false
  | s => Numeral.isDigits s

/-- Whether a text is a power of ten, or empty. -/
def isPower : List Char → Bool
  | [] => true
  | mark :: sign :: rest =>
    (mark == 'e' || mark == 'E') &&
      (Numeral.isDigits (sign :: rest) || ((sign == '+' || sign == '-') && Numeral.isDigits rest))
  | _ => false

/-- The number that a text is: a whole one if it has neither a point nor a power of ten. -/
def number? (s : List Char) : Option Json :=
  let unsigned := match s with
    | '-' :: rest => rest
    | rest => rest
  let whole := unsigned.takeWhile Char.isDigit
  let after := unsigned.dropWhile Char.isDigit
  if !isWhole whole then none
  else match after with
    | [] => ((Numeral.ofChars? s).bind fun n => n.value.toOption).map .integer
    | '.' :: rest =>
      if Numeral.isDigits (rest.takeWhile Char.isDigit) && isPower (rest.dropWhile Char.isDigit)
      then (Decimal.ofChars? s).map fun d => .float d.toFloat
      else none
    | rest => if isPower rest then (Decimal.ofChars? s).map fun d => .float d.toFloat else none

def words : List (List Char × Json) :=
  [("null".toList, .null), ("true".toList, .bool true), ("false".toList, .bool false),
    ("NaN".toList, .float (0.0 / 0.0)), ("Infinity".toList, .float (1.0 / 0.0)),
    ("-Infinity".toList, .float (-1.0 / 0.0))]

def readPlain : (s : List Char) → Option (Json × Rest s)
  | [] => none
  | c :: s =>
    match words.find? fun w => w.1.isPrefixOf (c :: s) with
    | some (word, value) =>
      some (value,
        ⟨s.drop (word.length - 1), Nat.lt_succ_of_le (List.drop_suffix _ s).length_le⟩)
    | none =>
      if isNumberChar c then
        (number? (c :: s.takeWhile isNumberChar)).map fun value =>
          (value, ⟨s.dropWhile isNumberChar, Nat.lt_succ_of_le (List.dropWhile_suffix _).length_le⟩)
      else none

mutual

def readValue (s : List Char) : Option (Json × Rest s) :=
  match s with
  | '"' :: rest => do
    let (value, ⟨after, h⟩) ← readString rest
    some (.string value, ⟨after, by simp; omega⟩)
  | '[' :: rest =>
    have hskip : (skip rest).length ≤ rest.length := (List.dropWhile_suffix isSpace).length_le
    match hr : skip rest with
    | ']' :: after =>
      some (.array [], ⟨after, by simp [hr] at hskip ⊢; omega⟩)
    | _ => do
      let (items, ⟨after, h⟩) ← readItems rest
      some (.array items, ⟨after, by simp; omega⟩)
  | '\x7b' :: rest =>
    have hskip : (skip rest).length ≤ rest.length := (List.dropWhile_suffix isSpace).length_le
    match hr : skip rest with
    | '\x7d' :: after =>
      some (.object [], ⟨after, by simp [hr] at hskip ⊢; omega⟩)
    | _ => do
      let (members, ⟨after, h⟩) ← readMembers [] rest
      some (.object members, ⟨after, by simp; omega⟩)
  | s => readPlain s
termination_by (s.length, 0)
decreasing_by all_goals simp only [List.length_cons]; omega

def readItems (s : List Char) : Option (List Json × Rest s) :=
  have hskip : (skip s).length ≤ s.length := (List.dropWhile_suffix isSpace).length_le
  match readValue (skip s) with
  | none => none
  | some (value, ⟨after, h⟩) =>
    have hafter : (skip after).length ≤ after.length := (List.dropWhile_suffix isSpace).length_le
    match hr : skip after with
    | ']' :: rest => some ([value], ⟨rest, by simp [hr] at hafter; omega⟩)
    | ',' :: rest =>
      match readItems rest with
      | none => none
      | some (items, ⟨last, hl⟩) =>
        some (value :: items, ⟨last, by simp [hr] at hafter; omega⟩)
    | _ => none
termination_by (s.length, 1)
decreasing_by
  · omega
  · simp [hr] at hafter; omega

/-- The members of an object, up to its closing brace, after the ones that were read before. -/
def readMembers (before : List (String × Json)) (s : List Char) :
    Option (List (String × Json) × Rest s) :=
  have hskip : (skip s).length ≤ s.length := (List.dropWhile_suffix isSpace).length_le
  match hq : skip s with
  | '"' :: quoted =>
    match readString quoted with
    | none => none
    | some (name, ⟨afterName, hn⟩) =>
      have hcolon : (skip afterName).length ≤ afterName.length :=
        (List.dropWhile_suffix isSpace).length_le
      match hc : skip afterName with
      | ':' :: afterColon =>
        have hvalue : (skip afterColon).length ≤ afterColon.length :=
          (List.dropWhile_suffix isSpace).length_le
        match readValue (skip afterColon) with
        | none => none
        | some (value, ⟨after, h⟩) =>
          have hafter : (skip after).length ≤ after.length :=
            (List.dropWhile_suffix isSpace).length_le
          match hr : skip after with
          | '\x7d' :: rest =>
            some (member name value before,
              ⟨rest, by simp [hr, hc, hq] at hafter hcolon hskip; omega⟩)
          | ',' :: rest =>
            match readMembers (member name value before) rest with
            | none => none
            | some (members, ⟨last, hl⟩) =>
              some (members, ⟨last, by simp [hr, hc, hq] at hafter hcolon hskip; omega⟩)
          | _ => none
      | _ => none
  | _ => none
termination_by (s.length, 1)
decreasing_by
  · simp [hc, hq] at hcolon hskip; omega
  · simp [hr, hc, hq] at hafter hcolon hskip; omega

end

/-- The value that a whole text is, with blanks around it. -/
def read? (s : List Char) : Option Json :=
  match readValue (skip s) with
  | some (value, ⟨rest, _⟩) => if (skip rest).isEmpty then some value else none
  | none => none

def parse? (s : String) : Option Json :=
  read? s.toList

end Json
end GpuInventory
