import GpuInventory.Xml.Name

/-!
References: characters by their code points, and entities by their names.

A reference stands between an ampersand and a semicolon.  A character may be given in decimal or in
hexadecimal, with any number of zeros in front, as long as it may stand in a document.
-/

namespace GpuInventory
namespace Xml

inductive Reference where
  | char (c : Char)
  | entity (name : String)
deriving DecidableEq, Repr

/-- The character of a code point, if it may stand in a document. -/
def charOf? (n : Nat) : Option Char :=
  if n.isValidChar ∧ isChar (Char.ofNat n) then some (Char.ofNat n) else none

/-- A code point in digits of some base, up to a semicolon, and the character that it is the one
of. -/
def readCode (isDigit : Char → Bool) (base : Nat) (s : List Char) :
    Option (Reference × List Char) :=
  let digits := s.takeWhile isDigit
  match s.dropWhile isDigit with
  | ';' :: rest =>
    if digits.isEmpty then none
    else (charOf? (Text.numberOf base digits)).map fun c => (.char c, rest)
  | _ => none

def readReference : List Char → Option (Reference × List Char)
  | '#' :: 'x' :: rest => readCode Text.isHexDigit 16 rest
  | '#' :: rest => readCode Char.isDigit 10 rest
  | s =>
    match readName s with
    | some (name, ';' :: rest) => some (.entity name, rest)
    | _ => none

/-- The characters that have a name in every document. -/
def predefined? : String → Option Char
  | "lt" => some '<'
  | "gt" => some '>'
  | "amp" => some '&'
  | "quot" => some '"'
  | "apos" => some '\''
  | _ => none

theorem length_readCode {isDigit : Char → Bool} {base : Nat} {s rest : List Char} {r : Reference}
    (h : readCode isDigit base s = some (r, rest)) : rest.length < s.length := by
  unfold readCode at h
  have hd : (s.dropWhile isDigit).length ≤ s.length := (List.dropWhile_suffix isDigit).length_le
  simp only at h
  split at h
  · next rest' hs =>
    split at h
    · exact absurd h (by simp)
    · obtain ⟨c, -, hc⟩ := Option.map_eq_some_iff.1 h
      obtain ⟨-, rfl⟩ : _ ∧ rest' = rest := by simpa using hc
      rw [hs, List.length_cons] at hd
      omega
  · exact absurd h (by simp)

theorem length_readReference {s rest : List Char} {r : Reference}
    (h : readReference s = some (r, rest)) : rest.length < s.length := by
  unfold readReference at h
  split at h
  · have := length_readCode h
    simp only [List.length_cons]
    omega
  · have := length_readCode h
    simp only [List.length_cons]
    omega
  · split at h
    · next name rest' hn =>
      have := length_readName hn
      obtain ⟨-, rfl⟩ : _ ∧ rest' = rest := by simpa using h
      simp only [List.length_cons] at this
      omega
    · exact absurd h (by simp)

end Xml
end GpuInventory
