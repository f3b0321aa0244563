import GpuInventory.Proofs.AllowList.Blame

/-!
Allow lists with a number that is too long to be read.

Such a list fails in a way of its own, which callers do not reckon with.  It takes a row of more
than `Numeral.maxDigits` digits in the text: the digits of a numeral stand next to each other in the
numeral, the numeral in its entry and the entry in the list.  A list without such a row is therefore
read, or it is rejected for its form.
-/

namespace GpuInventory
namespace AllowList

/-- Whether a text has a number in it that is too long to be read. -/
def HoldsOverlong (text : List Char) : Prop :=
  ∃ digits, digits <:+: text ∧ (∀ c ∈ digits, c.isDigit = true) ∧
    Numeral.maxDigits < digits.length

theorem HoldsOverlong.of_isInfix {text whole : List Char} (h : HoldsOverlong text)
    (hin : text <:+: whole) : HoldsOverlong whole := by
  obtain ⟨digits, htext, hdigits, hlong⟩ := h
  exact ⟨digits, htext.trans hin, hdigits, hlong⟩

theorem not_holdsOverlong_of_length_le {text : List Char} (h : text.length ≤ Numeral.maxDigits) :
    ¬ HoldsOverlong text := fun ⟨_, hin, _, hlong⟩ =>
  Nat.not_lt.mpr (Nat.le_trans hin.length_le h) hlong

theorem holdsOverlong_of_isWritten {s : List Char} {n : Numeral} (h : Numeral.IsWritten s n)
    (hlong : Numeral.maxDigits < n.digits.length) : HoldsOverlong s :=
  ⟨n.digits, h.digits_isSuffix.isInfix, h.isDigit, hlong⟩

theorem holdsOverlong_of_isOverlong {entry : List Char} (h : IsOverlong entry) :
    HoldsOverlong entry := by
  obtain ⟨index, minorNumber, ⟨before, left, right, after, rfl, -, -, hleft, hright⟩, hlong⟩ := h
  rcases hlong with hlong | hlong
  · have hin : left <:+: before ++ (left ++ ':' :: right) ++ after :=
      ⟨before, ':' :: right ++ after, by simp⟩
    exact (holdsOverlong_of_isWritten hleft hlong).of_isInfix hin
  · have hin : right <:+: before ++ (left ++ ':' :: right) ++ after :=
      ⟨before ++ left ++ [':'], after, by simp⟩
    exact (holdsOverlong_of_isWritten hright hlong).of_isInfix hin

/-- Only a list that holds an overlong number can fail for one. -/
theorem holdsOverlong_of_parse {whole : String} {digits : Nat}
    (h : parse whole = .error (.overlong digits)) : HoldsOverlong whole.toList := by
  obtain ⟨before, entry, after, -, hsplit, -, -, -, hlong⟩ :=
    exists_parse_eq_overlong_iff.mp ⟨digits, h⟩
  have hmem : entry ∈ written (Text.parts ',' whole.toList) := by
    rw [hsplit]
    exact List.mem_append_right _ List.mem_cons_self
  have hentry : entry ∈ Text.parts ',' whole.toList := List.mem_of_mem_filter hmem
  exact (holdsOverlong_of_isOverlong hlong).of_isInfix (Text.isInfix_of_mem_parts hentry)

end AllowList
end GpuInventory
