/-!
Integers as they are written: an optional sign and one or more decimal digits.

There are two readers.  `Numeral.ofChars?` takes the plain form alone, in ASCII.  `Numeral.read?`
is for numbers that a tool reports, and also takes the digits of other scripts, each for the digit
of the same value in ASCII, and single underscores between digits, which group them.

A numeral of more than `Numeral.maxDigits` digits has no value here.  Leading zeros count, the sign
does not.
-/

namespace GpuInventory

namespace Text

/-- The code points of the zeros.  The nine code points after a zero are the digits one to nine of
its script. -/
def digitZeros : List Nat :=
  [0x30, 0x660, 0x6F0, 0x7C0, 0x966, 0x9E6, 0xA66, 0xAE6, 0xB66, 0xBE6, 0xC66, 0xCE6, 0xD66,
   0xDE6, 0xE50, 0xED0, 0xF20, 0x1040, 0x1090, 0x17E0, 0x1810, 0x1946, 0x19D0, 0x1A80, 0x1A90,
   0x1B50, 0x1BB0, 0x1C40, 0x1C50, 0xA620, 0xA8D0, 0xA900, 0xA9D0, 0xA9F0, 0xAA50, 0xABF0,
   0xFF10, 0x104A0, 0x10D30, 0x11066, 0x110F0, 0x11136, 0x111D0, 0x112F0, 0x11450, 0x114D0,
   0x11650, 0x116C0, 0x11730, 0x118E0, 0x11950, 0x11C50, 0x11D50, 0x11DA0, 0x16A60, 0x16AC0,
   0x16B50, 0x1D7CE, 0x1D7D8, 0x1D7E2, 0x1D7EC, 0x1D7F6, 0x1E140, 0x1E2F0, 0x1E950, 0x1FBF0]

/-- The value of a decimal digit of any script. -/
def digitValue? (c : Char) : Option Nat :=
  (digitZeros.find? fun first => first ≤ c.toNat && c.toNat < first + 10).map (c.toNat - ·)

/-- The ASCII digit of the same value, for a decimal digit of any script; any other character as it
is. -/
def asciiDigit (c : Char) : Char :=
  if c.toNat < 0x80 then c
  else match digitValue? c with
    | some d => Nat.digitChar d
    | none => c

theorem asciiDigit_of_ascii {c : Char} (h : c.toNat < 0x80) : asciiDigit c = c := by
  simp [asciiDigit, h]

end Text

/-! ## Numerals -/

/-- A written integer: whether it has a minus sign, and its digits in ASCII. -/
structure Numeral where
  negative : Bool
  digits : List Char
deriving DecidableEq, Repr

namespace Numeral

def maxDigits : Nat := 4300

/-- The text with its sign taken off, and whether the sign was a minus. -/
def splitSign : List Char → Bool × List Char
  | '-' :: rest => (true, rest)
  | '+' :: rest => (false, rest)
  | s => (false, s)

/-- Whether a text is one or more ASCII digits and nothing else. -/
def isDigits (s : List Char) : Bool :=
  !s.isEmpty && s.all Char.isDigit

/-- The plain form: an optional sign, then ASCII digits and nothing else. -/
def ofChars? (s : List Char) : Option Numeral :=
  let (negative, digits) := splitSign s
  if isDigits digits then some { negative, digits } else none

/-- The text without the underscores that group its digits: `previous` is the character before it.
There is none if an underscore stands anywhere but between two digits. -/
def ungroupAfter (previous : Char) : List Char → Option (List Char)
  | [] => some []
  | '_' :: next :: rest =>
    if previous.isDigit && next.isDigit then (ungroupAfter next rest).map (next :: ·) else none
  | c :: rest => if c = '_' then none else (ungroupAfter c rest).map (c :: ·)

/-- The text in ASCII digits and without the underscores that group them. -/
def plain? (s : List Char) : Option (List Char) :=
  ungroupAfter ' ' (s.map Text.asciiDigit)

/-- The tolerant form: digits of any script, single underscores between digits. -/
def read? (s : List Char) : Option Numeral :=
  (plain? s).bind ofChars?

/-- The integer that a numeral stands for, unless it has too many digits; the error is their
number. -/
def value (n : Numeral) : Except Nat Int :=
  if maxDigits < n.digits.length then .error n.digits.length
  else
    let magnitude : Int := Nat.ofDigitChars 10 n.digits 0
    .ok (if n.negative then -magnitude else magnitude)

def readInt? (s : List Char) : Option Int :=
  (read? s).bind fun n => n.value.toOption

/-- The text of an integer: its digits without leading zeros, after a minus if it is negative. -/
def ofInt (i : Int) : Numeral :=
  { negative := i < 0, digits := Nat.toDigits 10 i.natAbs }

/-- The characters of a numeral, with no plus sign. -/
def chars (n : Numeral) : List Char :=
  if n.negative then '-' :: n.digits else n.digits

end Numeral

def integerText (i : Int) : String :=
  String.ofList (Numeral.ofInt i).chars

namespace Numeral

theorem isDigits_toDigits (n : Nat) : isDigits (Nat.toDigits 10 n) = true := by
  have hne : Nat.toDigits 10 n ≠ [] := Nat.toDigits_ne_nil
  have hall : (Nat.toDigits 10 n).all Char.isDigit = true := by
    rw [List.all_eq_true]
    exact fun c hc => Nat.isDigit_of_mem_toDigits (by decide) (by decide) hc
  simp [isDigits, hall, hne]

/-- The text of an integer reads back as the numeral it was written from. -/
theorem ofChars?_chars_ofInt (i : Int) : ofChars? (ofInt i).chars = some (ofInt i) := by
  have hd := isDigits_toDigits i.natAbs
  unfold chars ofInt
  by_cases h : i < 0
  · simp [h, ofChars?, splitSign, hd]
  · have hs : splitSign (Nat.toDigits 10 i.natAbs) = (false, Nat.toDigits 10 i.natAbs) := by
      unfold splitSign
      split
      · next rest heq =>
        have := Nat.isDigit_of_mem_toDigits (b := 10) (n := i.natAbs) (c := '-') (by decide)
          (by decide) (by simp [heq])
        exact absurd this (by decide)
      · next rest heq =>
        have := Nat.isDigit_of_mem_toDigits (b := 10) (n := i.natAbs) (c := '+') (by decide)
          (by decide) (by simp [heq])
        exact absurd this (by decide)
      · rfl
    simp [h, ofChars?, hs, hd]

/-- An integer of few enough digits is the value of its numeral. -/
theorem value_ofInt {i : Int} (h : (Nat.toDigits 10 i.natAbs).length ≤ maxDigits) :
    (ofInt i).value = .ok i := by
  have hv : Nat.ofDigitChars 10 (Nat.toDigits 10 i.natAbs) 0 = i.natAbs :=
    Nat.ofDigitChars_toDigits (by decide) (by decide)
  have hn : ¬ maxDigits < (Nat.toDigits 10 i.natAbs).length := Nat.not_lt.2 h
  simp only [value, ofInt, hn, if_false, hv, decide_eq_true_eq]
  congr 1
  split <;> omega

end Numeral
end GpuInventory
