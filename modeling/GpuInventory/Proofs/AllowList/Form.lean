import GpuInventory.Proofs.AllowList.RoundTrip
import GpuInventory.Proofs.Numeral.Plain
import GpuInventory.Proofs.Text.Separated

/-!
The form of an allow list, said without its reader.

An entry is written as two numerals with a colon between them, and blanks may stand before and
after.  `Writes` says so as a predicate on the text, and the lemmas below that the reader finds
exactly what is written: it takes an entry apart at its only colon, and trimming takes off the
blanks and nothing else.

A numeral stands for an integer whatever its length, and `Names` goes by that integer, so that two
entries which write a device in different ways name the same one.  Whether the numerals can be read
is another matter, and `IsOverlong` says when they cannot.
-/

namespace GpuInventory

namespace AllowList

/-- Whether an entry writes two numerals, an index and a minor number. -/
def Writes (entry : List Char) (index minorNumber : Numeral) : Prop :=
  ∃ before left right after, entry = before ++ (left ++ ':' :: right) ++ after ∧
    (∀ c ∈ before, Text.isBlank c = true) ∧ (∀ c ∈ after, Text.isBlank c = true) ∧
    Numeral.IsWritten left index ∧ Numeral.IsWritten right minorNumber

/-- Whether an entry names a device. -/
def Names (entry : List Char) (d : Device) : Prop :=
  ∃ index minorNumber, Writes entry index minorNumber ∧
    d = { index := index.integer, minorNumber := minorNumber.integer }

/-- Whether an entry names a device by a number that is too long to be read. -/
def IsOverlong (entry : List Char) : Prop :=
  ∃ index minorNumber, Writes entry index minorNumber ∧
    (Numeral.maxDigits < index.digits.length ∨ Numeral.maxDigits < minorNumber.digits.length)

/-- The colon of an entry is found, the blanks around it are not taken for a part of it. -/
theorem entryNumerals?_eq_some_iff {entry : List Char} {index minorNumber : Numeral} :
    entryNumerals? entry = some (index, minorNumber) ↔ Writes entry index minorNumber := by
  constructor
  · intro h
    obtain ⟨left, right, hparts, hleft, hright⟩ := ofChars?_of_entryNumerals? h
    obtain ⟨before, after, hentry, hbefore, hafter⟩ := Text.exists_blank_ends entry
    rw [(Text.parts_eq_pair_iff.mp hparts).1] at hentry
    exact ⟨before, left, right, after, hentry, hbefore, hafter,
      Numeral.ofChars?_eq_some_iff.mp hleft, Numeral.ofChars?_eq_some_iff.mp hright⟩
  · rintro ⟨before, left, right, after, rfl, hbefore, hafter, hleft, hright⟩
    have hcolon : ∀ {s : List Char} {n : Numeral}, Numeral.IsWritten s n → ':' ∉ s :=
      fun hs hc => (hs.ne_separator hc).1 rfl
    have hcore : ∀ c ∈ left ++ ':' :: right, Text.isBlank c = false := by
      intro c hc
      rw [List.mem_append, List.mem_cons] at hc
      rcases hc with hc | rfl | hc
      · exact (hleft.ne_separator hc).2
      · decide
      · exact (hright.ne_separator hc).2
    have hparts : Text.parts ':' (left ++ ':' :: right) = [left, right] :=
      Text.parts_eq_pair_iff.mpr ⟨rfl, hcolon hleft, hcolon hright⟩
    rw [entryNumerals?, Text.trim_append hbefore hcore hafter, hparts]
    show ((Numeral.ofChars? left).bind fun index => (Numeral.ofChars? right).bind fun minorNumber =>
      some (index, minorNumber)) = _
    rw [Numeral.ofChars?_eq_some_iff.mpr hleft, Numeral.ofChars?_eq_some_iff.mpr hright]
    rfl

theorem Writes.unique {entry : List Char} {index minorNumber index' minorNumber' : Numeral}
    (h : Writes entry index minorNumber) (h' : Writes entry index' minorNumber') :
    index = index' ∧ minorNumber = minorNumber' := by
  have hread := entryNumerals?_eq_some_iff.mpr h
  rw [entryNumerals?_eq_some_iff.mpr h'] at hread
  cases hread
  exact ⟨rfl, rfl⟩

theorem Names.unique {entry : List Char} {d e : Device} (hd : Names entry d) (he : Names entry e) :
    d = e := by
  obtain ⟨index, minorNumber, hw, rfl⟩ := hd
  obtain ⟨index', minorNumber', hw', rfl⟩ := he
  obtain ⟨rfl, rfl⟩ := hw.unique hw'
  rfl

theorem Writes.not_blank {entry : List Char} {index minorNumber : Numeral}
    (h : Writes entry index minorNumber) : Text.trim entry ≠ [] := by
  obtain ⟨before, left, right, after, rfl, -⟩ := h
  intro hblank
  have hcolon : Text.isBlank ':' = true := Text.trim_eq_nil_iff.mp hblank ':' (by simp)
  exact absurd hcolon (by decide)

theorem not_isOverlong_of_length_le {entry : List Char}
    (h : entry.length ≤ Numeral.maxDigits) : ¬ IsOverlong entry := by
  rintro ⟨index, minorNumber, ⟨before, left, right, after, rfl, -, -, hleft, hright⟩, hlong⟩
  have hi : index.digits.length ≤ left.length := hleft.digits_isSuffix.length_le
  have hm : minorNumber.digits.length ≤ right.length := hright.digits_isSuffix.length_le
  simp only [List.length_append, List.length_cons] at h
  omega

theorem entryDevice_cases (whole : String) (entry : List Char) :
    ((∀ d, ¬ Names entry d) ∧
        entryDevice whole entry = .error (.malformed (String.ofList entry) whole)) ∨
      (IsOverlong entry ∧ ∃ digits, entryDevice whole entry = .error (.overlong digits)) ∨
      ∃ d, Names entry d ∧ ¬ IsOverlong entry ∧ entryDevice whole entry = .ok d := by
  unfold entryDevice
  cases hn : entryNumerals? entry with
  | none =>
    refine .inl ⟨fun d ⟨index, minorNumber, hw, _⟩ => ?_, rfl⟩
    rw [entryNumerals?_eq_some_iff.mpr hw] at hn
    cases hn
  | some pair =>
    obtain ⟨index, minorNumber⟩ := pair
    have hw : Writes entry index minorNumber := entryNumerals?_eq_some_iff.mp hn
    dsimp only
    by_cases hi : Numeral.maxDigits < index.digits.length
    · rw [Numeral.value_of_lt hi]
      exact .inr (.inl ⟨⟨index, minorNumber, hw, .inl hi⟩, _, rfl⟩)
    rw [Numeral.value_of_le (Nat.le_of_not_lt hi)]
    dsimp only
    by_cases hm : Numeral.maxDigits < minorNumber.digits.length
    · rw [Numeral.value_of_lt hm]
      exact .inr (.inl ⟨⟨index, minorNumber, hw, .inr hm⟩, _, rfl⟩)
    rw [Numeral.value_of_le (Nat.le_of_not_lt hm)]
    refine .inr (.inr ⟨_, ⟨index, minorNumber, hw, rfl⟩, ?_, rfl⟩)
    rintro ⟨index', minorNumber', hw', hlong⟩
    obtain ⟨rfl, rfl⟩ := hw.unique hw'
    exact hlong.elim hi hm

theorem entryDevice_of_isOverlong {entry : List Char} (h : IsOverlong entry) (whole : String) :
    ∃ digits, entryDevice whole entry = .error (.overlong digits) := by
  rcases entryDevice_cases whole entry with ⟨hnone, -⟩ | ⟨-, hlong⟩ | ⟨-, -, hshort, -⟩
  · obtain ⟨index, minorNumber, hw, -⟩ := h
    exact absurd ⟨index, minorNumber, hw, rfl⟩ (hnone _)
  · exact hlong
  · exact absurd h hshort

end AllowList
end GpuInventory
