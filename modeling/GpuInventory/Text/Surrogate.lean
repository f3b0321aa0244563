import GpuInventory.Text.Character

/-!
Halves of surrogate pairs.

A JSON string names code units of sixteen bits, and it may name half of a surrogate pair without the
other half; a byte that is no UTF-8 becomes a half as well where the system hands it over in a text.
No character is such a half.  A text keeps a stand-in for it, the code point at the same place of
plane fifteen, which is for private use, so that the half can still be told when the text is
written.  The characters that are really at these places, from U+FD800 to U+FDFFF, cannot be told
from stand-ins: a text that holds one of them is taken to hold the half.

UTF-8 has no bytes for a half on its own, so a text that holds one cannot be encoded.
-/

namespace GpuInventory
namespace Text

def isHalf (unit : Nat) : Bool :=
  0xD800 ≤ unit && unit < 0xE000

def standIn (unit : Nat) : Char :=
  Char.ofNat (unit + 0xF0000)

/-- The half of a surrogate pair that a character stands in for. -/
def half? (c : Char) : Option Nat :=
  if 0xFD800 ≤ c.toNat ∧ c.toNat < 0xFE000 then some (c.toNat - 0xF0000) else none

/-- Whether half of a surrogate pair stands in a text on its own. -/
def hasHalf (s : List Char) : Bool :=
  s.any fun c => (half? c).isSome

/-- Whether none of some texts holds such a half. -/
def areEncodable (texts : List String) : Bool :=
  texts.all fun s => !hasHalf s.toList

/-- The half that a stand-in was made for can be told. -/
theorem half?_standIn {unit : Nat} (h : isHalf unit = true) : half? (standIn unit) = some unit := by
  simp only [isHalf, Bool.and_eq_true, decide_eq_true_eq] at h
  have hvalid : (unit + 0xF0000).isValidChar := by
    right
    omega
  have hn : (standIn unit).toNat = unit + 0xF0000 := by
    rw [standIn, Char.ofNat, dif_pos hvalid]
    rfl
  have hle : 0xFD800 ≤ unit + 0xF0000 ∧ unit + 0xF0000 < 0xFE000 := by omega
  rw [half?, hn, if_pos hle, Nat.add_sub_cancel]

/-! ## Encoding -/

/-- Why a text cannot be encoded: some halves in a row, the first of which is `unit`. -/
structure Unencodable where
  /-- How many characters stand before them, if that can be told. -/
  position : Option Nat
  unit : Nat
  count : Nat
deriving DecidableEq, Repr

/-- The first halves of a text. -/
def unencodable? (s : List Char) : Option Unencodable :=
  match s.dropWhile fun c => (half? c).isNone with
  | [] => none
  | c :: rest =>
    some
      { position := some (s.takeWhile fun c => (half? c).isNone).length
        unit := (half? c).getD 0
        count := (rest.takeWhile fun c => (half? c).isSome).length + 1 }

/-- What is said of it; a position that cannot be told is left out. -/
def Unencodable.message (u : Unencodable) : String :=
  let what :=
    if u.count = 1 then "character '\\u" ++ String.ofList (hexadecimal 4 u.unit) ++ "'"
    else "characters"
  let place := match u.position with
    | none => ""
    | some first =>
      " in position " ++ Nat.repr first ++
        if u.count = 1 then "" else "-" ++ Nat.repr (first + u.count - 1)
  "'utf-8' codec can't encode " ++ what ++ place ++ ": surrogates not allowed"

end Text
end GpuInventory
