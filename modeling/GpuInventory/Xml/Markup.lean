import GpuInventory.Xml.Name

/-!
The parts of a document that end at a stop of their own: quoted texts, comments and processing
instructions.

A comment ends at its first two hyphens, which the closing bracket has to follow.  The target of a
processing instruction is a name without a colon, and not `xml` in any spelling.
-/

namespace GpuInventory
namespace Xml

/-- A text up to the first `stop`, and what follows the stop.  The characters read before, latest
first, are in `before`. -/
def readUpTo? (stop before : List Char) : List Char → Option (List Char × List Char)
  | [] => none
  | c :: s =>
    match after? stop (c :: s) with
    | some rest => some (before.reverse, rest)
    | none => if isChar c then readUpTo? stop (c :: before) s else none

def readQuoted : List Char → Option (List Char × List Char)
  | [] => none
  | c :: s => if c = '"' ∨ c = '\'' then readUpTo? [c] [] s else none

/-- What follows a comment whose opening was read. -/
def afterComment? (s : List Char) : Option (List Char) :=
  match readUpTo? "--".toList [] s with
  | some (_, '>' :: rest) => some rest
  | _ => none

/-- Whether a name is kept for documents themselves. -/
def isReserved (name : String) : Bool :=
  name.toList.map Char.toLower == "xml".toList

/-- What follows a processing instruction whose opening was read. -/
def afterInstruction? (s : List Char) : Option (List Char) :=
  match readName s with
  | none => none
  | some (target, rest) =>
    if isReserved target then none
    else
      match rest with
      | '?' :: '>' :: rest => some rest
      | c :: rest => if isSpace c then (readUpTo? "?>".toList [] rest).map (·.2) else none
      | [] => none

theorem length_readUpTo? {stop before s t rest : List Char} (hstop : stop ≠ [])
    (h : readUpTo? stop before s = some (t, rest)) : rest.length < s.length := by
  induction s generalizing before with
  | nil => simp [readUpTo?] at h
  | cons c s ih =>
    simp only [readUpTo?] at h
    split at h
    · next r hr =>
      obtain ⟨-, rfl⟩ : _ ∧ r = rest := by simpa using h
      exact length_after? hr hstop
    · split at h
      · have := ih h
        simp only [List.length_cons]
        omega
      · exact absurd h (by simp)

theorem length_readQuoted {s t rest : List Char} (h : readQuoted s = some (t, rest)) :
    rest.length < s.length := by
  cases s with
  | nil => simp [readQuoted] at h
  | cons c s =>
    simp only [readQuoted] at h
    split at h
    · have := length_readUpTo? (by simp) h
      simp only [List.length_cons]
      omega
    · exact absurd h (by simp)

theorem length_afterComment? {s rest : List Char} (h : afterComment? s = some rest) :
    rest.length < s.length := by
  unfold afterComment? at h
  split at h
  · next r hr =>
    obtain rfl : r = rest := by simpa using h
    have := length_readUpTo? (by decide) hr
    simp only [List.length_cons] at this
    omega
  · exact absurd h (by simp)

theorem length_afterInstruction? {s rest : List Char} (h : afterInstruction? s = some rest) :
    rest.length < s.length := by
  unfold afterInstruction? at h
  split at h
  · exact absurd h (by simp)
  · next target r hr =>
    have hname := length_readName hr
    split at h
    · exact absurd h (by simp)
    · split at h
      · next r' =>
        obtain rfl : r' = rest := by simpa using h
        simp only [List.length_cons] at hname
        omega
      · split at h
        · obtain ⟨⟨t, r'⟩, ht, he⟩ := Option.map_eq_some_iff.1 h
          have := length_readUpTo? (by decide) ht
          simp only [List.length_cons] at hname
          simp only at he
          subst he
          omega
        · exact absurd h (by simp)
      · exact absurd h (by simp)

/-- What follows blanks, comments and processing instructions. -/
def afterRemarks? (s : List Char) : Option (List Char) :=
  match _hs : skipSpace s with
  | '<' :: '!' :: '-' :: '-' :: rest =>
    match _hc : afterComment? rest with
    | none => none
    | some after => afterRemarks? after
  | '<' :: '?' :: rest =>
    match _hi : afterInstruction? rest with
    | none => none
    | some after => afterRemarks? after
  | rest => some rest
termination_by s.length
decreasing_by
  · have : (skipSpace s).length ≤ s.length := (List.dropWhile_suffix isSpace).length_le
    have := length_afterComment? _hc
    simp_all only [List.length_cons]
    omega
  · have : (skipSpace s).length ≤ s.length := (List.dropWhile_suffix isSpace).length_le
    have := length_afterInstruction? _hi
    simp_all only [List.length_cons]
    omega

end Xml
end GpuInventory
