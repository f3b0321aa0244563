import GpuInventory.Numeral

/-!
Real numbers as they are written, and the double that is nearest to one.

A written number is a sign, digits with an optional point among them, and an optional power of ten.
In the tolerant form, which `readFloat?` takes, it may also be a name of an infinity or of
not-a-number, in any case, its digits may be of any script, and single underscores may group them.
-/

namespace GpuInventory

/-- A decimal number: `coefficient` times ten to the power of `exponent`, with a sign that zero has
too. -/
structure Decimal where
  negative : Bool
  coefficient : Nat
  exponent : Int
deriving DecidableEq, Repr

namespace Decimal

/-- The double nearest to a decimal number, of two equally near ones the one with an even
significand; infinite if the number is past the largest one.  The number lies between ten to the
power of `size - 1` and ten to the power of `size`, so the two extreme cases need no arithmetic on
large powers. -/
def toFloat (d : Decimal) : Float :=
  let size : Int := (Nat.toDigits 10 d.coefficient).length + d.exponent
  let magnitude : Float :=
    if d.coefficient = 0 || size ≤ -324 then 0.0
    else if 310 ≤ size then 1.0 / 0.0
    else Float.ofScientific d.coefficient (d.exponent < 0) d.exponent.natAbs
  if d.negative then -magnitude else magnitude

/-- The power of ten that a text after the digits of a number stands for: none written is the
power zero. -/
def exponent? : List Char → Option Int
  | [] => some 0
  | mark :: rest =>
    if mark = 'e' ∨ mark = 'E' then
      (Numeral.ofChars? rest).map fun n =>
        let magnitude : Int := Nat.ofDigitChars 10 n.digits 0
        if n.negative then -magnitude else magnitude
    else none

/-- A number in ASCII, written without a name: at least one digit before or after the point. -/
def ofChars? (s : List Char) : Option Decimal :=
  let (negative, s) := Numeral.splitSign s
  let whole := s.takeWhile Char.isDigit
  let afterWhole := s.dropWhile Char.isDigit
  let (fraction, afterFraction) := match afterWhole with
    | '.' :: rest => (rest.takeWhile Char.isDigit, rest.dropWhile Char.isDigit)
    | rest => ([], rest)
  if whole.isEmpty && fraction.isEmpty then none
  else (exponent? afterFraction).map fun power =>
    { negative,
      coefficient := Nat.ofDigitChars 10 (whole ++ fraction) 0,
      exponent := power - fraction.length }

/-- The double that a name stands for, without its sign. -/
def named? (s : List Char) : Option Float :=
  let name := String.ofList (s.map Char.toLower)
  if name = "inf" ∨ name = "infinity" then some (1.0 / 0.0)
  else if name = "nan" then some (0.0 / 0.0)
  else none

def readFloat? (s : List Char) : Option Float := do
  let plain ← Numeral.plain? s
  match ofChars? plain with
  | some d => some d.toFloat
  | none =>
    let (negative, name) := Numeral.splitSign plain
    let magnitude ← named? name
    some (if negative then -magnitude else magnitude)

end Decimal
end GpuInventory
