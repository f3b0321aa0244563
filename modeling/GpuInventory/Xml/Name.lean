import GpuInventory.Xml.Character

/-!
Names and qualified names, and the small readers that all markup is read with.

A reader takes what it reads off the front of a text and gives the rest.  Every reader here either
gives a rest that is shorter or reads nothing, which is what the loops over a document end by.
-/

namespace GpuInventory
namespace Xml

/-- A name as written: perhaps with a qualifier and a colon in front. -/
structure QName where
  qualifier : Option String
  localName : String
deriving DecidableEq, Repr

def QName.text (n : QName) : String :=
  match n.qualifier with
  | some q => q ++ ":" ++ n.localName
  | none => n.localName

def after? (word s : List Char) : Option (List Char) :=
  if word.isPrefixOf s then some (s.drop word.length) else none

def skipSpace (s : List Char) : List Char :=
  s.dropWhile isSpace

def startsWithSpace (s : List Char) : Bool :=
  s.head?.any isSpace

/-- A name without a colon. -/
def readName : List Char → Option (String × List Char)
  | [] => none
  | c :: rest =>
    if isNameStart c then
      some (String.ofList (c :: rest.takeWhile isNameChar), rest.dropWhile isNameChar)
    else none

def readQName (s : List Char) : Option (QName × List Char) :=
  match readName s with
  | none => none
  | some (first, ':' :: rest) =>
    match readName rest with
    | none => none
    | some (second, after) => some (⟨some first, second⟩, after)
  | some (first, rest) => some (⟨none, first⟩, rest)

theorem length_after? {word s rest : List Char} (h : after? word s = some rest)
    (hw : word ≠ []) : rest.length < s.length := by
  unfold after? at h
  split at h
  · next hp =>
    obtain rfl : s.drop word.length = rest := by simpa using h
    have := (List.isPrefixOf_iff_prefix.1 hp).length_le
    have : 0 < word.length := List.length_pos_iff.2 hw
    simp only [List.length_drop]
    omega
  · exact absurd h (by simp)

theorem length_skipSpace_lt {s : List Char} (h : startsWithSpace s = true) :
    (skipSpace s).length < s.length := by
  cases s with
  | nil => simp [startsWithSpace] at h
  | cons c s =>
    have hc : isSpace c = true := by simpa [startsWithSpace] using h
    rw [skipSpace, List.dropWhile_cons_of_pos hc]
    exact Nat.lt_succ_of_le (List.dropWhile_suffix isSpace).length_le

theorem length_readName {s rest : List Char} {n : String} (h : readName s = some (n, rest)) :
    rest.length < s.length := by
  cases s with
  | nil => simp [readName] at h
  | cons c s =>
    simp only [readName] at h
    split at h
    · obtain ⟨-, rfl⟩ : _ ∧ s.dropWhile isNameChar = rest := by simpa using h
      have := (List.dropWhile_suffix isNameChar (l := s)).length_le
      simp only [List.length_cons]
      omega
    · exact absurd h (by simp)

theorem length_readQName {s rest : List Char} {n : QName} (h : readQName s = some (n, rest)) :
    rest.length < s.length := by
  unfold readQName at h
  split at h
  · exact absurd h (by simp)
  · next first r hr =>
    have hfirst := length_readName hr
    split at h
    · exact absurd h (by simp)
    · next second after hs =>
      have hsecond := length_readName hs
      obtain ⟨-, rfl⟩ : _ ∧ after = rest := by simpa using h
      simp only [List.length_cons] at hfirst
      omega
  · next first r _ hr =>
    have hfirst := length_readName hr
    obtain ⟨-, rfl⟩ : _ ∧ r = rest := by simpa using h
    exact hfirst

end Xml
end GpuInventory
