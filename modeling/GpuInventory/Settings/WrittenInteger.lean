import GpuInventory.Numeral
import GpuInventory.Text.Blank

/-!
Whole numbers that an operator writes into a setting.

A text is first taken as it is: a minus or none, then digits without a needless zero in front.  If
it has too many of them, that is what is wrong with it.  A text that is not in this plain form is
put into it, and read again.  What may be taken off is blanks around the number, a plus in front of
it, zeros in front of its digits, a point with nothing but zeros after it, and single underscores
between its digits.

Zeros and underscores are taken off up to the next digit or minus, so a minus may also stand after
zeros, but only there: of two signs one is too many.
-/

namespace GpuInventory
namespace Settings
namespace WrittenInteger

inductive Fault where
  | malformed
  | overlong
deriving DecidableEq, Repr

/-- The whole number in the plain form.  The sign counts as a digit of a long number. -/
def plain (s : List Char) : Except Fault Int :=
  let (negative, unsigned) := match s with
    | '-' :: rest => (true, rest)
    | rest => (false, rest)
  let digits := unsigned.takeWhile Char.isDigit
  if unsigned = ['0'] then .ok 0
  else if digits.isEmpty || digits.head? = some '0' then .error .malformed
  else if Numeral.maxDigits < digits.length + (if negative then 1 else 0) then .error .overlong
  else if digits.length < unsigned.length then .error .malformed
  else
    let magnitude : Int := Nat.ofDigitChars 10 digits 0
    .ok (if negative then -magnitude else magnitude)

/-- Blanks that may stand around a number: white space, but no separators of fields. -/
def isPadding (c : Char) : Bool :=
  Text.isBlank c && !(28 ≤ c.toNat && c.toNat ≤ 31)

def withoutPadding (s : List Char) : List Char :=
  ((s.dropWhile isPadding).reverse.dropWhile isPadding).reverse

/-- What may follow zeros in front of a number: the rest of it, or its point, before which one zero
stays.  The character before the rest is `previous`. -/
def afterZeros (previous : Char) : List Char → Option (List Char)
  | [] => some [previous]
  | c :: rest =>
    if c = '0' ∨ c = '_' then afterZeros c rest
    else if c.isDigit ∨ c = '-' then some (c :: rest)
    else if c = '.' then some (previous :: '.' :: rest)
    else none

def withoutZeros : List Char → Option (List Char)
  | [] => none
  | c :: rest =>
    if c = '0' then afterZeros c rest
    else if c.isDigit ∨ c = '-' then some (c :: rest)
    else none

/-- A number without a point and the zeros after it. -/
def withoutFraction (s : List Char) : List Char :=
  match s.dropWhile (· != '.') with
  | _ :: zero :: zeros =>
    if (zero :: zeros).all (· == '0') then s.takeWhile (· != '.') else s
  | _ => s

def hasDoubleUnderscore : List Char → Bool
  | '_' :: '_' :: _ => true
  | _ :: s => hasDoubleUnderscore s
  | [] => false

def ungrouped (s : List Char) : List Char :=
  if s.head? = some '_' || s.getLast? = some '_' || hasDoubleUnderscore s then s
  else s.filter (· != '_')

/-- A number without a sign in the plain form, as far as it can be put into it. -/
def tidiedDigits (s : List Char) : Option (List Char) :=
  (withoutZeros s).map fun s => ungrouped (withoutFraction s)

/-- A text in the plain form, as far as it can be put into it. -/
def tidied (s : List Char) : Option (List Char) :=
  match withoutPadding s with
  | '+' :: '-' :: _ => none
  | '+' :: s => tidiedDigits s
  | '-' :: s => (tidiedDigits s).map ('-' :: ·)
  | s => tidiedDigits s

def read (s : List Char) : Except Fault Int :=
  match plain s with
  | .ok n => .ok n
  | .error .overlong => .error .overlong
  | .error .malformed =>
    match (tidied s).bind fun t => (plain t).toOption with
    | some n => .ok n
    | none => .error .malformed

end WrittenInteger
end Settings
end GpuInventory
