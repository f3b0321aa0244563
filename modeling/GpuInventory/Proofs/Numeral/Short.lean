import GpuInventory.Numeral
import GpuInventory.Text.Blank
import Mathlib.Algebra.Group.Nat.Defs

/-!
Short integers: those whose digits can all be read.

An integer is short if its text has no more digits than a numeral may have.  The readers give short
integers only, and every short integer is read back from its text, so that being short is exactly
what it takes for an integer to survive writing and reading.

The bound on the number of digits is a bound on the magnitude, which is how the two directions meet:
leading zeros count in a numeral that is read, and there are none in the text of an integer.
-/

namespace GpuInventory
namespace Numeral

/-- Whether an integer has at most `maxDigits` decimal digits. -/
def IsShort (i : Int) : Prop :=
  (Nat.toDigits 10 i.natAbs).length ≤ maxDigits

instance (i : Int) : Decidable (IsShort i) :=
  inferInstanceAs (Decidable (_ ≤ _))

theorem isShort_iff (i : Int) : IsShort i ↔ i.natAbs < 10 ^ maxDigits :=
  Nat.length_toDigits_le_iff (by decide) (by decide)

/-! ## Digits -/

theorem ofDigitChars_lt {digits : List Char} (h : ∀ c ∈ digits, c.isDigit = true) :
    Nat.ofDigitChars 10 digits 0 < 10 ^ digits.length := by
  induction digits with
  | nil => decide
  | cons c rest ih =>
    have hrest := ih fun d hd => h d (List.mem_cons_of_mem c hd)
    have hc : c.toNat - '0'.toNat ≤ 9 := by
      have hle : c.toNat ≤ 57 := (Char.isDigit_iff_toNat.mp (h c List.mem_cons_self)).2
      show c.toNat - 48 ≤ 9
      omega
    rw [Nat.ofDigitChars_cons, Nat.ofDigitChars_eq_ofDigitChars_zero, Nat.mul_zero, Nat.zero_add]
    calc 10 ^ rest.length * (c.toNat - '0'.toNat) + Nat.ofDigitChars 10 rest 0
        < 10 ^ rest.length * (c.toNat - '0'.toNat) + 10 ^ rest.length :=
          Nat.add_lt_add_left hrest _
      _ = 10 ^ rest.length * (c.toNat - '0'.toNat + 1) := (Nat.mul_succ _ _).symm
      _ ≤ 10 ^ rest.length * 10 := Nat.mul_le_mul_left _ (Nat.succ_le_succ hc)
      _ = 10 ^ (rest.length + 1) := (Nat.pow_succ 10 rest.length).symm

theorem isDigit_of_ofChars? {s : List Char} {n : Numeral} (h : ofChars? s = some n) :
    ∀ c ∈ n.digits, c.isDigit = true := by
  unfold ofChars? at h
  cases hs : splitSign s with
  | mk negative digits =>
    rw [hs] at h
    dsimp only at h
    by_cases hd : isDigits digits = true
    · rw [if_pos hd] at h
      cases h
      rw [isDigits, Bool.and_eq_true, List.all_eq_true] at hd
      exact hd.2
    · rw [if_neg hd] at h
      cases h

/-! ## Reading gives short integers -/

theorem isShort_of_value {n : Numeral} (hd : ∀ c ∈ n.digits, c.isDigit = true) {i : Int}
    (h : n.value = .ok i) : IsShort i := by
  rw [isShort_iff]
  unfold value at h
  by_cases hlong : maxDigits < n.digits.length
  · rw [if_pos hlong] at h
    cases h
  · rw [if_neg hlong] at h
    have habs : i.natAbs = Nat.ofDigitChars 10 n.digits 0 := by
      cases h
      split <;> simp
    rw [habs]
    exact Nat.lt_of_lt_of_le (ofDigitChars_lt hd)
      (Nat.pow_le_pow_right (by decide) (Nat.le_of_not_lt hlong))

theorem isShort_of_ofChars? {s : List Char} {n : Numeral} (hn : ofChars? s = some n) {i : Int}
    (h : n.value = .ok i) : IsShort i :=
  isShort_of_value (isDigit_of_ofChars? hn) h

/-- The tolerant reader gives short integers too: it reads the plain form of what it is given. -/
theorem isShort_of_readInt? {s : List Char} {i : Int} (h : readInt? s = some i) : IsShort i := by
  obtain ⟨n, hn, hi⟩ := Option.bind_eq_some_iff.mp h
  obtain ⟨plain, -, hplain⟩ := Option.bind_eq_some_iff.mp hn
  cases hv : n.value with
  | error digits =>
    rw [hv] at hi
    cases hi
  | ok j =>
    rw [hv] at hi
    cases hi
    exact isShort_of_ofChars? hplain hv

/-! ## The text of an integer -/

theorem mem_chars_ofInt {i : Int} {c : Char} (h : c ∈ (ofInt i).chars) :
    c = '-' ∨ c.isDigit = true := by
  have hdigit : ∀ d ∈ (ofInt i).digits, d.isDigit = true :=
    fun d hd => Nat.isDigit_of_mem_toDigits (by decide) (by decide) hd
  unfold chars at h
  split at h
  · rcases List.mem_cons.mp h with h | h
    · exact .inl h
    · exact .inr (hdigit c h)
  · exact .inr (hdigit c h)

theorem ne_separator_of_mem_chars {i : Int} {c : Char} (h : c ∈ (ofInt i).chars) :
    c ≠ ',' ∧ c ≠ ':' ∧ Text.isBlank c = false := by
  rcases mem_chars_ofInt h with rfl | hd
  · decide
  · refine ⟨?_, ?_, ?_⟩
    · rintro rfl
      exact absurd hd (by decide)
    · rintro rfl
      exact absurd hd (by decide)
    · have hlow : 48 ≤ c.toNat := (Char.isDigit_iff_toNat.mp hd).1
      have hhigh : c.toNat ≤ 57 := (Char.isDigit_iff_toNat.mp hd).2
      simp [Text.isBlank]
      omega

end Numeral
end GpuInventory
