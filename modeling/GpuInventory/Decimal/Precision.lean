import GpuInventory.Decimal.Writing

/-!
The text of a double to a precision that is asked for.

There are three forms: with a fixed number of decimal places, with a power of ten, and the general
form, which is whichever of the two suits the size of the number and leaves out the zeros at the
end.  All of them round the exact value, a half going to the even neighbour.

In the alternate form a number keeps its point even if no digit follows it, and in the general form
the zeros at its end too.
-/

namespace GpuInventory
namespace Decimal

/-- A number with at most `count` significant digits, without the zeros at their end. -/
def rounded (count : Nat) (b : Binary) : Scientific :=
  let unit := b.point - count
  .ofGrid (Fraction.roundedQuotient b.value (Fraction.power 10 unit)) unit

/-- A magnitude with at most `count` significant digits; zero has one. -/
def roundedDigits (count : Nat) : Option Binary → Scientific
  | none => { digits := ['0'], point := 1 }
  | some b => rounded count b

/-- A number with zeros after its digits, up to `count` digits. -/
def Scientific.padded (count : Nat) (s : Scientific) : Scientific :=
  { s with digits := s.digits ++ List.replicate (count - s.digits.length) '0' }

/-- Digits with a point before the last `places` of them. -/
def pointed (alternate : Bool) (places n : Nat) : List Char :=
  let digits := Nat.toDigits 10 n
  let padded := List.replicate (places + 1 - digits.length) '0' ++ digits
  let whole := padded.take (padded.length - places)
  if places = 0 then if alternate then whole ++ ['.'] else whole
  else whole ++ '.' :: padded.drop (padded.length - places)

def fixedForm (alternate : Bool) (places : Nat) : Option Binary → List Char
  | none => pointed alternate places 0
  | some b =>
    pointed alternate places (Fraction.roundedQuotient b.value (Fraction.power 10 (-places)))

/-- A magnitude with a power of ten, one digit before the point and `places` after it. -/
def exponentialForm (alternate : Bool) (places : Nat) (b : Option Binary) : List Char :=
  exponentialLayout alternate ((roundedDigits (places + 1) b).padded (places + 1))

/-- A magnitude to a number of significant digits, positionally if no more of them than that stand
before the point.  No digit is taken for one. -/
def generalForm (alternate : Bool) (precision : Nat) (b : Option Binary) : List Char :=
  let count := max precision 1
  let s := roundedDigits count b
  let s := if alternate then s.padded count else s
  if wantsExponent count s then exponentialLayout alternate s
  else positionalLayout (if alternate then ['.'] else []) s

/-- The text of a double to six significant digits in the general form. -/
def generalText (x : Float) : String :=
  let (negative, magnitude) := parts (generalForm false 6) x
  String.ofList (signed negative magnitude)

end Decimal
end GpuInventory
