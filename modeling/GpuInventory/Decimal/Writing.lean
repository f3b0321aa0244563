import GpuInventory.Numeral

/-!
The text of a double.

A finite double other than zero is `significand * 2 ^ exponent`.  It is written with the fewest
significant decimal digits that read back as the same double.  They are found from the exact value
in natural numbers, and given as a `Scientific`: the digits, and the place of the point before or
among them.  There are two ways to lay these out, positionally and with a power of ten.
-/

namespace GpuInventory
namespace Decimal

/-- A positive number in binary: `significand * 2 ^ exponent`. -/
structure Binary where
  significand : Nat
  exponent : Int
deriving DecidableEq, Repr

/-- Decimal digits and a point: the number `0.d₁d₂… * 10 ^ point`. -/
structure Scientific where
  digits : List Char
  point : Int
deriving DecidableEq, Repr

/-- A fraction of natural numbers, for exact comparisons. -/
structure Fraction where
  numerator : Nat
  denominator : Nat

namespace Fraction

def power (base : Nat) (e : Int) : Fraction :=
  if 0 ≤ e then ⟨base.pow e.natAbs, 1⟩ else ⟨1, base.pow e.natAbs⟩

def scale (f : Fraction) (n : Nat) : Fraction :=
  ⟨f.numerator * n, f.denominator⟩

def le (a b : Fraction) : Bool :=
  a.numerator * b.denominator ≤ b.numerator * a.denominator

def lt (a b : Fraction) : Bool :=
  a.numerator * b.denominator < b.numerator * a.denominator

def quotient (a b : Fraction) : Nat :=
  a.numerator * b.denominator / (a.denominator * b.numerator)

/-- The quotient of two fractions as a whole number, a half going to the even neighbour. -/
def roundedQuotient (a b : Fraction) : Nat :=
  let numerator := a.numerator * b.denominator
  let denominator := a.denominator * b.numerator
  let whole := numerator / denominator
  let twice := 2 * (numerator % denominator)
  if twice < denominator then whole
  else if denominator < twice then whole + 1
  else if whole % 2 = 0 then whole else whole + 1

end Fraction

namespace Binary

def value (b : Binary) : Fraction :=
  (Fraction.power 2 b.exponent).scale b.significand

/-- The place of the point of a number: the least power of ten that is greater than it.  A number
of at least ten to the minus 330 has as many digits before the point, once that many places are
moved before it, as its whole part. -/
def point (b : Binary) : Int :=
  let shifted := Fraction.quotient b.value (Fraction.power 10 (-330))
  (Nat.toDigits 10 shifted).length - 330

/-- The lower and the upper end of the reals that round to a double, in quarters of its last place.
Below a power of two the doubles lie twice as close as above it. -/
def ends (b : Binary) : Fraction × Fraction :=
  let quarter := Fraction.power 2 (b.exponent - 2)
  let below := if b.significand = Nat.pow 2 52 && b.exponent ≠ -1074 then 1 else 2
  (quarter.scale (4 * b.significand - below), quarter.scale (4 * b.significand + 2))

/-- Whether a fraction rounds to a double: it lies between the ends, and on one of them only if the
significand is even. -/
def rounds (b : Binary) (x : Fraction) : Bool :=
  let (low, high) := b.ends
  if b.significand % 2 = 0 then low.le x && x.le high else low.lt x && x.lt high

end Binary

/-- Digits of a whole number as a scientific number whose last digit stands at the power of ten
`unit`, without the zeros at their end. -/
def Scientific.ofGrid (n : Nat) (unit : Int) : Scientific :=
  let digits := Nat.toDigits 10 n
  { digits := (digits.reverse.dropWhile (· == '0')).reverse, point := digits.length + unit }

/-- The multiple of ten to the power of `unit` that is nearest to a double among those that read
back as it, of two equally near ones the one with an even last digit. -/
def gridNeighbour? (b : Binary) (unit : Int) : Option Scientific :=
  let step := Fraction.power 10 unit
  let floor := Fraction.quotient b.value step
  let nearest := Fraction.roundedQuotient b.value step
  let other := if nearest = floor then floor + 1 else floor
  if b.rounds (step.scale nearest) then some (.ofGrid nearest unit)
  else if b.rounds (step.scale other) then some (.ofGrid other unit)
  else none

/-- The fewest digits that read back as a double; of the numbers with that many digits, the one
nearest to it.  Seventeen digits are always enough. -/
def shortest (b : Binary) : Scientific :=
  let point := b.point
  let grids := (List.range 17).map fun count => point - (count + 1 : Nat)
  match grids.findSome? (gridNeighbour? b) with
  | some s => s
  | none => .ofGrid (Fraction.roundedQuotient b.value (Fraction.power 10 (point - 17))) (point - 17)

/-- The exponent of a number with one digit before the point: a sign and at least two digits. -/
def exponentText (e : Int) : List Char :=
  let digits := Nat.toDigits 10 e.natAbs
  let padded := if digits.length < 2 then '0' :: digits else digits
  'e' :: (if e < 0 then '-' else '+') :: padded

/-- Digits with a point after the first and a power of ten.  The point is left out if nothing would
follow it, unless it is wanted all the same. -/
def exponentialLayout (barePoint : Bool) (s : Scientific) : List Char :=
  match s.digits with
  | [] => []
  | d :: rest =>
    (d :: if rest.isEmpty && !barePoint then [] else '.' :: rest) ++ exponentText (s.point - 1)

/-- Digits with the point at its place, and zeros where digits are missing.  `wholeMark` follows the
digits of a whole number. -/
def positionalLayout (wholeMark : List Char) (s : Scientific) : List Char :=
  if s.point ≤ 0 then '0' :: '.' :: List.replicate s.point.natAbs '0' ++ s.digits
  else
    let count := s.point.toNat
    if s.digits.length ≤ count then
      s.digits ++ List.replicate (count - s.digits.length) '0' ++ wholeMark
    else s.digits.take count ++ '.' :: s.digits.drop count

/-- Whether a number is better written with a power of ten: four zeros or more would stand between
the point and its first digit, or more than `greatestPoint` digits before the point. -/
def wantsExponent (greatestPoint : Int) (s : Scientific) : Bool :=
  s.point ≤ -4 || greatestPoint < s.point

/-- What kind of number a double is: the signs of the zeros and of the infinities are kept, the
one of not-a-number is not. -/
inductive Class where
  | nan
  | infinite (negative : Bool)
  | zero (negative : Bool)
  | finite (negative : Bool) (magnitude : Binary)
deriving DecidableEq, Repr

/-- The kind of a double, from the sign, the exponent and the fraction of its binary form. -/
def Class.ofFloat (x : Float) : Class :=
  let bits : Nat := x.toBits.toNat
  let negative := bits / Nat.pow 2 63 = 1
  let exponent : Nat := bits / Nat.pow 2 52 % Nat.pow 2 11
  let fraction := bits % Nat.pow 2 52
  if exponent = 2047 then if fraction = 0 then .infinite negative else .nan
  else if exponent = 0 then
    if fraction = 0 then .zero negative else .finite negative ⟨fraction, -1074⟩
  else .finite negative ⟨fraction + Nat.pow 2 52, (exponent : Int) - 1075⟩

/-- A text with a minus in front if it is that of a negative number. -/
def signed (negative : Bool) (magnitude : List Char) : List Char :=
  if negative then '-' :: magnitude else magnitude

/-- The sign of a double, and the text of its magnitude, given how a finite one is written: `none`
is zero. -/
def parts (finite : Option Binary → List Char) (x : Float) : Bool × List Char :=
  match Class.ofFloat x with
  | .nan => (false, "nan".toList)
  | .infinite negative => (negative, "inf".toList)
  | .zero negative => (negative, finite none)
  | .finite negative magnitude => (negative, finite (some magnitude))

/-- The shortest text of a magnitude: positional below ten to the power of sixteen, and a whole
number ends in a point and a zero. -/
def shortestForm : Option Binary → List Char
  | none => "0.0".toList
  | some b =>
    let s := shortest b
    if wantsExponent 16 s then exponentialLayout false s else positionalLayout ['.', '0'] s

/-- The shortest text of a double that reads back as the same double. -/
def shortestText (x : Float) : String :=
  let (negative, magnitude) := parts shortestForm x
  String.ofList (signed negative magnitude)

end Decimal
end GpuInventory
