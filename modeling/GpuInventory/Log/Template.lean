import GpuInventory.Decimal.Precision
import GpuInventory.Log.ValueText

/-!
Templates of log messages: a mark, which starts with a percent sign, stands for an argument.

A mark ends in a letter that says how its argument is written.  Between the percent sign and the
letter may stand, in this order, the name of a member of the one argument there is, in parentheses;
flags; the least width; and after a point the precision.  Width and precision are digits, or a star
if they are arguments themselves.  Two percent signs stand for one.

Arguments are used one after the other, and all of them have to be used.  A single object may be
given in place of arguments: then marks may name its members, and nothing has to be used.

`Template.ofChars?` tells the marks from the text, and `Template.fill` puts the arguments in.
-/

namespace GpuInventory
namespace Log

inductive Measure where
  | given (n : Nat)
  | argument
deriving DecidableEq, Repr

structure Mark where
  /-- The member of the argument that is meant. -/
  member : Option String := none
  flags : List Char := []
  width : Option Measure := none
  precision : Option Measure := none
  letter : Char
deriving DecidableEq, Repr

inductive TemplatePart where
  | text (c : Char)
  | mark (m : Mark)
deriving DecidableEq, Repr

abbrev Template := List TemplatePart

namespace Template

/-! ## Reading templates -/

/-- The characters that flags are: alignment to the left, a plus or a space before numbers that are
not negative, the alternate form, and zeros in front of numbers. -/
def isFlag (c : Char) : Bool :=
  c == '-' || c == '+' || c == ' ' || c == '#' || c == '0'

/-- A name up to the parenthesis that closes it, after `depth` more that were opened within it, and
what follows. -/
def readMember (depth : Nat) : List Char → Option (List Char × List Char)
  | [] => none
  | c :: s =>
    if c = ')' then
      match depth with
      | 0 => some ([], s)
      | depth + 1 => (readMember depth s).map fun (name, rest) => (c :: name, rest)
    else if c = '(' then
      (readMember (depth + 1) s).map fun (name, rest) => (c :: name, rest)
    else (readMember depth s).map fun (name, rest) => (c :: name, rest)

def readMeasure : List Char → Option Measure × List Char
  | '*' :: s => (some .argument, s)
  | s =>
    let digits := s.takeWhile Char.isDigit
    (if digits.isEmpty then none else some (.given (Nat.ofDigitChars 10 digits 0)),
      s.dropWhile Char.isDigit)

/-- A precision after its point, which may be all there is of it, and what follows. -/
def readPrecision : List Char → Option Measure × List Char
  | '.' :: s =>
    let (precision, rest) := readMeasure s
    (some (precision.getD (.given 0)), rest)
  | s => (none, s)

/-- What follows a letter that says how long a number is, which makes no difference. -/
def afterLength : List Char → List Char
  | c :: s => if c = 'h' ∨ c = 'l' ∨ c = 'L' then s else c :: s
  | [] => []

/-- The flags, the measures and the letter of a mark, and what follows it. -/
def readLayout (member : Option String) (s : List Char) : Option (Mark × List Char) :=
  let flags := s.takeWhile isFlag
  let (width, s) := readMeasure (s.dropWhile isFlag)
  let (precision, s) := readPrecision s
  match afterLength s with
  | [] => none
  | letter :: rest => some ({ member, flags, width, precision, letter }, rest)

def readMark : List Char → Option (Mark × List Char)
  | '(' :: s =>
    match readMember 0 s with
    | some (name, rest) => readLayout (some (String.ofList name)) rest
    | none => none
  | s => readLayout none s

theorem length_readMember {depth : Nat} {s name rest : List Char}
    (h : readMember depth s = some (name, rest)) : rest.length < s.length := by
  induction s generalizing depth name with
  | nil => simp [readMember] at h
  | cons c s ih =>
    have hmap {d : Nat} (h : (readMember d s).map (fun (n, r) => (c :: n, r)) = some (name, rest)) :
        rest.length < (c :: s).length := by
      obtain ⟨⟨n, r⟩, hr, he⟩ := Option.map_eq_some_iff.1 h
      obtain ⟨-, rfl⟩ := Prod.mk.inj he
      have := ih hr
      simp only [List.length_cons]
      omega
    simp only [readMember] at h
    split at h
    · split at h
      · obtain ⟨-, rfl⟩ := Prod.mk.inj (Option.some.inj h)
        simp
      · exact hmap h
    · split at h
      · exact hmap h
      · exact hmap h

theorem length_readMeasure_le (s : List Char) : (readMeasure s).2.length ≤ s.length := by
  unfold readMeasure
  split
  · simp
  · exact (List.dropWhile_suffix _).length_le

theorem length_readPrecision_le (s : List Char) : (readPrecision s).2.length ≤ s.length := by
  unfold readPrecision
  split
  · next s =>
    have := length_readMeasure_le s
    simp only [List.length_cons]
    omega
  · simp

theorem length_afterLength_le (s : List Char) : (afterLength s).length ≤ s.length := by
  cases s with
  | nil => simp [afterLength]
  | cons c s =>
    simp only [afterLength]
    split <;> simp

theorem length_readLayout {member : Option String} {s rest : List Char} {m : Mark}
    (h : readLayout member s = some (m, rest)) : rest.length < s.length := by
  have hflags : (s.dropWhile isFlag).length ≤ s.length := (List.dropWhile_suffix _).length_le
  have hwidth := length_readMeasure_le (s.dropWhile isFlag)
  have hprecision := length_readPrecision_le (readMeasure (s.dropWhile isFlag)).2
  have hlength := length_afterLength_le (readPrecision (readMeasure (s.dropWhile isFlag)).2).2
  simp only [readLayout] at h
  split at h
  · exact absurd h (by simp)
  · next letter rest' heq =>
    obtain ⟨-, rfl⟩ := Prod.mk.inj (Option.some.inj h)
    rw [heq, List.length_cons] at hlength
    omega

theorem length_readMark {s rest : List Char} {m : Mark} (h : readMark s = some (m, rest)) :
    rest.length < s.length := by
  unfold readMark at h
  split at h
  · split at h
    · next hm =>
      have := length_readMember hm
      have := length_readLayout h
      simp only [List.length_cons]
      omega
    · exact absurd h (by simp)
  · exact length_readLayout h

def ofChars? (s : List Char) : Option Template :=
  match s with
  | [] => some []
  | '%' :: '%' :: s => (ofChars? s).map (.text '%' :: ·)
  | '%' :: s =>
    match _h : readMark s with
    | none => none
    | some (m, rest) => (ofChars? rest).map (.mark m :: ·)
  | c :: s => (ofChars? s).map (.text c :: ·)
termination_by s.length
decreasing_by
  all_goals simp only [List.length_cons]
  · omega
  · have := length_readMark _h
    omega
  · omega

/-! ## Writing arguments -/

def aligned (toLeft : Bool) (width : Nat) (s : List Char) : List Char :=
  let blanks := List.replicate (width - s.length) ' '
  if toLeft then s ++ blanks else blanks ++ s

/-- The sign of a number: a flag may ask for one before a number that is not negative. -/
def signText (flags : List Char) (negative : Bool) : List Char :=
  if negative then ['-']
  else if flags.contains '+' then ['+']
  else if flags.contains ' ' then [' ']
  else []

/-- A number of at least some width, from its sign, what stands before its digits, and these.  Zeros
go between the two. -/
def alignedNumber (flags : List Char) (width : Nat) (negative : Bool) (front digits : List Char) :
    List Char :=
  let front := signText flags negative ++ front
  if flags.contains '0' && !flags.contains '-' then
    front ++ List.replicate (width - (front.length + digits.length)) '0' ++ digits
  else aligned (flags.contains '-') width (front ++ digits)

def wholeNumber? : Json → Option Int
  | .integer n => some n
  | .bool b => some (if b then 1 else 0)
  | _ => none

def truncated? : Json → Option Int
  | .float x =>
    match Decimal.Class.ofFloat x with
    | .zero _ => some 0
    | .finite negative magnitude =>
      let n : Int := Decimal.Fraction.quotient magnitude.value ⟨1, 1⟩
      some (if negative then -n else n)
    | _ => none
  | value => wholeNumber? value

/-- The number that a value is, if it is not past the largest double. -/
def number? : Json → Option Float
  | .float x => some x
  | value => (wholeNumber? value).bind fun n =>
    let x := Float.ofInt n
    if x.isFinite then some x else none

/-- The one character that a value is, or is the code point of. -/
def character? : Json → Option Char
  | .string s =>
    match s.toList with
    | [c] => some c
    | _ => none
  | value => (wholeNumber? value).bind fun n =>
    if n < 0 then none
    else if Text.isHalf n.toNat then some (Text.standIn n.toNat)
    else if n.toNat.isValidChar then some (Char.ofNat n.toNat)
    else none

def withZeros (precision : Option Nat) (digits : List Char) : List Char :=
  List.replicate (precision.getD 0 - digits.length) '0' ++ digits

/-- An argument as a mark wants it, with its width and precision. -/
def written? (m : Mark) (width : Nat) (precision : Option Nat) (argument : Json) :
    Option (List Char) :=
  let alternate := m.flags.contains '#'
  let text (s : List Char) : List Char :=
    aligned (m.flags.contains '-') width <| match precision with
      | some n => s.take n
      | none => s
  let whole (front : String) (base : Nat) (n : Int) : List Char :=
    alignedNumber m.flags width (n < 0) (if alternate then front.toList else [])
      (withZeros precision (Nat.toDigits base n.natAbs))
  let real (form : Option Decimal.Binary → List Char) (x : Float) : List Char :=
    let (negative, magnitude) := Decimal.parts form x
    alignedNumber m.flags width negative [] magnitude
  let places := precision.getD 6
  match m.letter with
  | 's' => some (text (ValueText.plain argument))
  | 'r' => some (text (ValueText.shown argument))
  | 'a' => some (text (Text.inAscii (ValueText.shown argument)))
  | 'c' => (character? argument).map fun c => aligned (m.flags.contains '-') width [c]
  | 'd' | 'i' | 'u' => (truncated? argument).map (whole "" 10)
  | 'o' => (wholeNumber? argument).map (whole "0o" 8)
  | 'x' => (wholeNumber? argument).map (whole "0x" 16)
  | 'X' => (wholeNumber? argument).map fun n => (whole "0x" 16 n).map Char.toUpper
  | 'f' => (number? argument).map (real (Decimal.fixedForm alternate places))
  | 'F' => (number? argument).map fun x =>
    (real (Decimal.fixedForm alternate places) x).map Char.toUpper
  | 'e' => (number? argument).map (real (Decimal.exponentialForm alternate places))
  | 'E' => (number? argument).map fun x =>
    (real (Decimal.exponentialForm alternate places) x).map Char.toUpper
  | 'g' => (number? argument).map (real (Decimal.generalForm alternate places))
  | 'G' => (number? argument).map fun x =>
    (real (Decimal.generalForm alternate places) x).map Char.toUpper
  | _ => none

/-! ## Filling templates -/

/-- What a template is filled with: the values that are still to be used, and the value whose
members marks may name, if there is one. -/
structure Supply where
  values : List Json
  members : Option Json := none

namespace Supply

/-- Arguments, one after the other; a single object that has members is given in place of them. -/
def ofArguments : List Json → Supply
  | [.object (m :: members)] =>
    { values := [.object (m :: members)], members := some (.object (m :: members)) }
  | values => { values }

def next? (supply : Supply) : Option (Json × Supply) :=
  match supply.values with
  | [] => none
  | value :: values => some (value, { supply with values })

/-- Makes the member that is meant the next value. -/
def choose? (supply : Supply) : Option String → Option Supply
  | none => some supply
  | some name =>
    (supply.members.bind (Json.get? name)).map fun value => { supply with values := [value] }

def maxMeasure : Nat := 2147483647

def measure? (supply : Supply) : Option Measure → Option (Option Int × Supply)
  | none => some (none, supply)
  | some (.given n) => if n ≤ maxMeasure then some (some n, supply) else none
  | some .argument => do
    let (value, supply) ← supply.next?
    let n ← wholeNumber? value
    if n.natAbs ≤ maxMeasure then some (some n, supply) else none

/-- Whether nothing is left to be used that has to be. -/
def isSpent (supply : Supply) : Bool :=
  supply.values.isEmpty || supply.members.isSome

end Supply

/-- The text of a mark, and what is left to be used.  A width below zero stands for one to the left,
and a precision below zero for zero. -/
def fillMark? (m : Mark) (supply : Supply) : Option (List Char × Supply) := do
  let supply ← supply.choose? m.member
  let (width, supply) ← supply.measure? m.width
  let (precision, supply) ← supply.measure? m.precision
  let toLeft := (width.map fun w => decide (w < 0)).getD false
  let laid := if toLeft then { m with flags := '-' :: m.flags } else m
  let (argument, supply) ← supply.next?
  let text ← written? laid (width.getD 0).natAbs (precision.map Int.toNat) argument
  return (text, supply)

def fillParts (supply : Supply) : Template → Option (List Char)
  | [] => if supply.isSpent then some [] else none
  | .text c :: parts => (fillParts supply parts).map (c :: ·)
  | .mark m :: parts => do
    let (text, supply) ← fillMark? m supply
    let rest ← fillParts supply parts
    return text ++ rest

def fillWith (template : String) (supply : Supply) : Option String := do
  let parts ← ofChars? template.toList
  let text ← fillParts supply parts
  return String.ofList text

/-- Fills in a text as a template, unless there is nothing to fill in: a text without arguments is
no template. -/
def fill (template : String) (arguments : List Json) : Option String :=
  if arguments.isEmpty then some template else fillWith template (.ofArguments arguments)

end Template
end Log
end GpuInventory
