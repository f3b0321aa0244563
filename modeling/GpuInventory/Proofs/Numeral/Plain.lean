import GpuInventory.Numeral
import GpuInventory.Text.Blank

/-!
The plain form of a numeral, said without its reader.

A numeral is written as its digits, perhaps after a sign.  `IsWritten` says so as a predicate on the
text, and `ofChars?_eq_some_iff` that the reader of the plain form takes exactly that.  A numeral
stands for an integer whatever its length; `value` gives it as long as the digits are not too many.
-/

namespace GpuInventory

namespace Numeral

/-- Whether a text writes a numeral. -/
inductive IsWritten : List Char → Numeral → Prop where
  | bare {digits : List Char} (hne : digits ≠ []) (hd : ∀ c ∈ digits, c.isDigit = true) :
    IsWritten digits { negative := false, digits }
  | plus {digits : List Char} (hne : digits ≠ []) (hd : ∀ c ∈ digits, c.isDigit = true) :
    IsWritten ('+' :: digits) { negative := false, digits }
  | minus {digits : List Char} (hne : digits ≠ []) (hd : ∀ c ∈ digits, c.isDigit = true) :
    IsWritten ('-' :: digits) { negative := true, digits }

/-- The integer that a numeral stands for, however long it is. -/
def integer (n : Numeral) : Int :=
  if n.negative then -(Nat.ofDigitChars 10 n.digits 0 : Int) else Nat.ofDigitChars 10 n.digits 0

theorem isDigits_iff {s : List Char} :
    isDigits s = true ↔ s ≠ [] ∧ ∀ c ∈ s, c.isDigit = true := by
  cases s <;> simp [isDigits]

theorem splitSign_of_isDigit {c : Char} (h : c.isDigit = true) (rest : List Char) :
    splitSign (c :: rest) = (false, c :: rest) := by
  unfold splitSign
  split
  · next heq =>
    cases heq
    exact absurd h (by decide)
  · next heq =>
    cases heq
    exact absurd h (by decide)
  · rfl

/-- The plain form is what the reader of the plain form takes. -/
theorem ofChars?_eq_some_iff {s : List Char} {n : Numeral} :
    ofChars? s = some n ↔ IsWritten s n := by
  constructor
  · intro h
    have hdigits : ∀ negative digits, splitSign s = (negative, digits) →
        n = { negative, digits } ∧ digits ≠ [] ∧ ∀ c ∈ digits, c.isDigit = true := by
      intro negative digits hs
      rw [ofChars?, hs] at h
      dsimp only at h
      by_cases hd : isDigits digits = true
      · rw [if_pos hd] at h
        cases h
        exact ⟨rfl, isDigits_iff.mp hd⟩
      · rw [if_neg hd] at h
        cases h
    unfold splitSign at hdigits
    split at hdigits
    · obtain ⟨rfl, hne, hd⟩ := hdigits _ _ rfl
      exact .minus hne hd
    · obtain ⟨rfl, hne, hd⟩ := hdigits _ _ rfl
      exact .plus hne hd
    · obtain ⟨rfl, hne, hd⟩ := hdigits _ _ rfl
      exact .bare hne hd
  · intro h
    cases h with
    | bare hne hd =>
      obtain ⟨c, rest, rfl⟩ := List.exists_cons_of_ne_nil hne
      rw [ofChars?, splitSign_of_isDigit (hd c List.mem_cons_self)]
      exact if_pos (isDigits_iff.mpr ⟨hne, hd⟩)
    | plus hne hd => exact if_pos (isDigits_iff.mpr ⟨hne, hd⟩)
    | minus hne hd => exact if_pos (isDigits_iff.mpr ⟨hne, hd⟩)

theorem IsWritten.ne_separator {s : List Char} {n : Numeral} (h : IsWritten s n) {c : Char}
    (hc : c ∈ s) : c ≠ ':' ∧ Text.isBlank c = false := by
  have hdigit : ∀ d : Char, d.isDigit = true → d ≠ ':' ∧ Text.isBlank d = false := by
    intro d hd
    have hlow : 48 ≤ d.toNat := (Char.isDigit_iff_toNat.mp hd).1
    have hhigh : d.toNat ≤ 57 := (Char.isDigit_iff_toNat.mp hd).2
    refine ⟨?_, ?_⟩
    · rintro rfl
      exact absurd hd (by decide)
    · simp [Text.isBlank]
      omega
  cases h with
  | bare _ hd => exact hdigit c (hd c hc)
  | plus _ hd =>
    rcases List.mem_cons.mp hc with rfl | hc
    · decide
    · exact hdigit c (hd c hc)
  | minus _ hd =>
    rcases List.mem_cons.mp hc with rfl | hc
    · decide
    · exact hdigit c (hd c hc)

theorem IsWritten.digits_isSuffix {s : List Char} {n : Numeral} (h : IsWritten s n) :
    n.digits <:+ s := by
  cases h with
  | bare _ _ => exact List.suffix_rfl
  | plus _ _ => exact List.suffix_cons _ _
  | minus _ _ => exact List.suffix_cons _ _

theorem IsWritten.isDigit {s : List Char} {n : Numeral} (h : IsWritten s n) :
    ∀ c ∈ n.digits, c.isDigit = true := by
  cases h with
  | bare _ hd => exact hd
  | plus _ hd => exact hd
  | minus _ hd => exact hd

theorem value_of_le {n : Numeral} (h : n.digits.length ≤ maxDigits) : n.value = .ok n.integer :=
  if_neg (Nat.not_lt.mpr h)

theorem value_of_lt {n : Numeral} (h : maxDigits < n.digits.length) :
    n.value = .error n.digits.length :=
  if_pos h

end Numeral

end GpuInventory
