import GpuInventory.Decimal.Reading
import Mathlib

/-!
Which numbers have a place among the finite doubles.

An unpacked number is finite as a double if its exponent is not too great, and rounding chooses the
exponent by the width of the mantissa.  Only one thing can make the exponent greater than that width
asks for: a carry through all the bits that are kept.  `fits_roundWithAccuracy_iff` says what comes
of it, that a number is rounded to a finite double exactly if it is less than half a unit past the
greatest one.
-/

namespace GpuInventory
namespace Double

open Float.Model (Format UnpackedFloat totalExponent)
open Float.Model.UnpackedFloat

/-! ## Packing -/

/-- Whether an unpacked number is finite and has at most this exponent. -/
def Within (greatest : Int) : UnpackedFloat → Prop
  | .infinity _ => False
  | .notANumber => False
  | .zero _ => True
  | .finite _ _ exponent _ => exponent ≤ greatest

/-- Whether an unpacked number has a place among the finite doubles. -/
abbrev Fits : UnpackedFloat → Prop :=
  Within 971

theorem Within.eq_zero_or_finite {greatest : Int} {u : UnpackedFloat} (h : Within greatest u) :
    (∃ sign, u = .zero sign) ∨ ∃ sign mantissa exponent hpos,
      u = .finite sign mantissa exponent hpos ∧ exponent ≤ greatest := by
  cases u with
  | infinity sign => exact h.elim
  | notANumber => exact h.elim
  | zero sign => exact .inl ⟨sign, rfl⟩
  | finite sign mantissa exponent hpos => exact .inr ⟨sign, mantissa, exponent, hpos, rfl, h⟩

theorem isFinite_of_within {greatest : Int} {u : UnpackedFloat} (h : Within greatest u) :
    u.isFinite = true := by
  cases u with
  | infinity sign => exact h.elim
  | notANumber => exact h.elim
  | zero sign => rfl
  | finite sign mantissa exponent hpos => rfl

theorem within_unpack {bits : BitVec Format.binary64.numBits} {greatest : Int}
    (h : unpackExponent bits ≠ -1#_) (hleast : -1074 ≤ greatest)
    (hexponent : ((unpackExponent bits).toNat : Int) - 1075 ≤ greatest) :
    Within greatest (unpack Format.binary64 bits) := by
  unfold unpack
  dsimp only
  rw [if_neg h]
  split
  · next hzero =>
    split
    · exact trivial
    · show ((unpackExponent bits).toNat : Int) - (1023 + 52) + 1 ≤ greatest
      rw [hzero]
      exact hleast
  · exact hexponent

theorem unpackExponent_of_isFinite {bits : BitVec Format.binary64.numBits}
    (h : (unpack Format.binary64 bits).isFinite = true) : unpackExponent bits ≠ -1#_ := by
  intro hgreatest
  unfold unpack at h
  dsimp only at h
  rw [if_pos hgreatest] at h
  split at h <;> cases h

theorem fits_unpack {bits : BitVec Format.binary64.numBits} (h : unpackExponent bits ≠ -1#_) :
    Fits (unpack Format.binary64 bits) := by
  have hlt : (unpackExponent bits).toNat < 2048 := (unpackExponent bits).isLt
  have hne : (unpackExponent bits).toNat ≠ 2047 := fun heq => h (BitVec.eq_of_toNat_eq heq)
  exact within_unpack h (by decide) (by omega)

theorem unpackExponent_packedInfinity (sign : Sign) :
    unpackExponent (packedInfinity Format.binary64 sign) = -1#_ :=
  unpackExponent_packComponents

theorem pack_finite (sign : Sign) (mantissa : Nat) (exponent : Int) (hpos : 0 < mantissa) :
    pack Format.binary64 (.finite sign mantissa exponent hpos) =
      if 2 ^ 11 ≤ (exponent + 1075).toNat + 1 then packedInfinity Format.binary64 sign
      else if mantissa.log2 + 1 = 53 then
        packComponents Format.binary64 sign (BitVec.ofNat _ (exponent + 1075).toNat)
          (BitVec.ofNat _ mantissa)
      else packComponents Format.binary64 sign 0#_ (BitVec.ofNat _ mantissa) := by
  have hbias : exponent + Format.binary64.exponentBias +
      Format.binary64.mantissaBitsWithoutImplicit = exponent + 1075 := by
    show exponent + 1023 + 52 = _
    omega
  show (if 2 ^ 11 ≤ (exponent + Format.binary64.exponentBias +
    Format.binary64.mantissaBitsWithoutImplicit).toNat + 1 then _ else _) = _
  rw [hbias]
  rfl

/-- Packing keeps the exponent of a number that fits, or gives it the least one. -/
theorem unpackExponent_pack {u : UnpackedFloat} {greatest : Int} (h : Within greatest u)
    (hgreatest : greatest ≤ 971) :
    unpackExponent (pack Format.binary64 u) ≠ -1#_ ∧
      ((unpackExponent (pack Format.binary64 u)).toNat : Int) - 1075 ≤ max greatest (-1075) := by
  cases u with
  | infinity sign => exact h.elim
  | notANumber => exact h.elim
  | zero sign =>
    rw [pack, packedZero, unpackExponent_packComponents]
    exact ⟨by decide, Int.le_max_right _ _⟩
  | finite sign mantissa exponent hpos =>
    have hexponent : exponent ≤ greatest := h
    have hroom : ¬ 2 ^ 11 ≤ (exponent + 1075).toNat + 1 := by omega
    rw [pack_finite, if_neg hroom]
    split
    · rw [unpackExponent_packComponents]
      have hvalue : (BitVec.ofNat Format.binary64.exponentBits (exponent + 1075).toNat).toNat =
          (exponent + 1075).toNat := by
        rw [BitVec.toNat_ofNat]
        exact Nat.mod_eq_of_lt (by show _ < 2 ^ 11; omega)
      refine ⟨fun heq => ?_, by omega⟩
      rw [heq] at hvalue
      have hlast : (-1#_ : BitVec Format.binary64.exponentBits).toNat = 2047 := rfl
      omega
    · rw [unpackExponent_packComponents]
      exact ⟨by decide, Int.le_max_right _ _⟩

theorem within_unpack_pack {u : UnpackedFloat} {greatest : Int} (h : Within greatest u)
    (hleast : -1074 ≤ greatest) (hgreatest : greatest ≤ 971) :
    Within greatest (unpack Format.binary64 (pack Format.binary64 u)) := by
  obtain ⟨hne, hexponent⟩ := unpackExponent_pack h hgreatest
  exact within_unpack hne hleast (by omega)

theorem fits_of_unpackExponent_pack {u : UnpackedFloat}
    (h : unpackExponent (pack Format.binary64 u) ≠ -1#_) : Fits u := by
  cases u with
  | infinity sign => exact h unpackExponent_packComponents
  | notANumber => exact h unpackExponent_packComponents
  | zero sign => exact trivial
  | finite sign mantissa exponent hpos =>
    show exponent ≤ 971
    rw [pack_finite] at h
    split at h
    · exact absurd (unpackExponent_packedInfinity sign) h
    · omega

/-- What is packed into a double is finite there if it fits. -/
theorem isFinite_pack_iff (u : UnpackedFloat) :
    (Float.ofModel (.pack u)).isFinite = true ↔ Fits u := by
  show (unpack Format.binary64 (pack Format.binary64 u)).isFinite = true ↔ _
  constructor
  · intro h
    exact fits_of_unpackExponent_pack (unpackExponent_of_isFinite h)
  · intro h
    exact isFinite_of_within (within_unpack_pack h (by decide) (Int.le_refl _))

theorem fits_unpack_of_isFinite {x : Float} (h : x.isFinite = true) : Fits x.toModel.unpack :=
  fits_unpack (unpackExponent_of_isFinite h)

theorem within_neg_iff {greatest : Int} (u : UnpackedFloat) :
    Within greatest u.neg ↔ Within greatest u := by
  cases u <;> rfl

theorem isFinite_neg (x : Float) : (-x).isFinite = x.isFinite := by
  rw [Bool.eq_iff_iff]
  refine (isFinite_pack_iff x.toModel.unpack.neg).trans ((within_neg_iff _).trans ?_)
  exact ⟨isFinite_of_within, fits_unpack_of_isFinite⟩

/-! ## Rounding -/

theorem mantissa_shiftRight (m : ExtendedMantissa) (n : Nat) :
    (m >>> n).mantissa = m.mantissa / 2 ^ n := by
  show (n.repeat ExtendedMantissa.shiftRightOne m).mantissa = _
  induction n with
  | zero => exact (Nat.div_one _).symm
  | succ n ih =>
    show (n.repeat ExtendedMantissa.shiftRightOne m).mantissa / 2 = _
    rw [ih, Nat.div_div_eq_div_mul, Nat.pow_succ]

theorem roundBit_shiftRight (m : ExtendedMantissa) (n : Nat) :
    (m >>> (n + 1)).roundBit = (m.mantissa / 2 ^ n % 2 != 0) := by
  rw [← mantissa_shiftRight]
  rfl

theorem roundedMantissa_bounds (m : ExtendedMantissa) :
    m.mantissa ≤ m.roundedMantissa ∧ m.roundedMantissa ≤ m.mantissa + 1 := by
  obtain ⟨mantissa, roundBit, stickyBit⟩ := m
  cases roundBit with
  | false => cases stickyBit <;> exact ⟨Nat.le_refl _, Nat.le_succ _⟩
  | true =>
    cases stickyBit with
    | true => exact ⟨Nat.le_succ _, Nat.le_refl _⟩
    | false =>
      show mantissa ≤ mantissa + mantissa % 2 ∧ mantissa + mantissa % 2 ≤ mantissa + 1
      omega

/-- An odd mantissa is rounded up from the middle on. -/
theorem roundedMantissa_of_odd {m : ExtendedMantissa} (h : m.mantissa % 2 = 1) :
    m.roundedMantissa = m.mantissa + if m.roundBit then 1 else 0 := by
  obtain ⟨mantissa, roundBit, stickyBit⟩ := m
  cases roundBit with
  | false => cases stickyBit <;> rfl
  | true =>
    cases stickyBit with
    | true => rfl
    | false =>
      show mantissa + mantissa % 2 = mantissa + 1
      rw [show mantissa % 2 = 1 from h]

/-- How many of its last bits a mantissa loses to the exponent it is rounded to. -/
def drop (mantissa : Nat) (exponent : Int) : Nat :=
  (max ((mantissa.log2 : Int) + 1 + exponent - 53) (-1074) - exponent).toNat

/-- A mantissa once it is rounded, before it is put back to the width it may have outgrown. -/
def rounded (mantissa : Nat) (exponent : Int) (accuracy : Accuracy) : Nat :=
  (ExtendedMantissa.ofMantissaAndAccuracy mantissa accuracy >>>
    drop mantissa exponent).roundedMantissa

theorem mantissa_ofMantissaAndAccuracy (mantissa : Nat) (accuracy : Accuracy) :
    (ExtendedMantissa.ofMantissaAndAccuracy mantissa accuracy).mantissa = mantissa := by
  cases accuracy with
  | exact => rfl
  | inexact o => cases o <;> rfl

theorem shiftToTargetExponent_eq (mantissa : Nat) (exponent : Int) (accuracy : Accuracy) :
    shiftToTargetExponent Format.binary64 mantissa exponent accuracy =
      (ExtendedMantissa.ofMantissaAndAccuracy mantissa accuracy >>> drop mantissa exponent,
        exponent + drop mantissa exponent) := rfl

theorem within_dite_iff {c : Prop} [Decidable c] {greatest : Int} (sign : Sign) (mantissa : Nat)
    (exponent : Int) (hpos : ¬ c → 0 < mantissa) :
    Within greatest (if h : c then .zero sign else .finite sign mantissa exponent (hpos h)) ↔
      c ∨ exponent ≤ greatest := by
  by_cases h : c
  · rw [dif_pos h]
    exact ⟨fun _ => .inl h, fun _ => trivial⟩
  · rw [dif_neg h]
    exact ⟨.inr, fun hexponent => hexponent.resolve_left h⟩

/-- What is left of a mantissa fills no more than the width of a double. -/
theorem div_two_pow_drop_lt (mantissa : Nat) (exponent : Int) :
    mantissa / 2 ^ drop mantissa exponent < 2 ^ 53 := by
  rw [Nat.div_lt_iff_lt_mul (Nat.two_pow_pos _), ← Nat.pow_add]
  refine Nat.lt_of_lt_of_le Nat.lt_log2_self (Nat.pow_le_pow_right (by decide) ?_)
  unfold drop
  omega

theorem rounded_bounds (mantissa : Nat) (exponent : Int) (accuracy : Accuracy) :
    mantissa / 2 ^ drop mantissa exponent ≤ rounded mantissa exponent accuracy ∧
      rounded mantissa exponent accuracy ≤ mantissa / 2 ^ drop mantissa exponent + 1 := by
  have hbounds := roundedMantissa_bounds
    (ExtendedMantissa.ofMantissaAndAccuracy mantissa accuracy >>> drop mantissa exponent)
  rw [mantissa_shiftRight, mantissa_ofMantissaAndAccuracy] at hbounds
  exact hbounds

theorem le_add_drop (mantissa : Nat) (exponent : Int) :
    -1074 ≤ exponent + drop mantissa exponent := by
  unfold drop
  omega

/-- A rounded mantissa is put back to its width by one more bit at most, and only if rounding has
carried through all of its bits. -/
theorem drop_rounded (mantissa : Nat) (exponent : Int) (accuracy : Accuracy) :
    drop (rounded mantissa exponent accuracy) (exponent + drop mantissa exponent) =
      if rounded mantissa exponent accuracy = 2 ^ 53 then 1 else 0 := by
  have hlt := div_two_pow_drop_lt mantissa exponent
  have hle := (rounded_bounds mantissa exponent accuracy).2
  have hexponent := le_add_drop mantissa exponent
  generalize rounded mantissa exponent accuracy = r at hle ⊢
  generalize exponent + drop mantissa exponent = e at hexponent ⊢
  unfold drop
  split
  · next hfull =>
    have hlog : r.log2 = 53 := by rw [hfull, Nat.log2_two_pow]
    omega
  · next hfull =>
    have hlog : r.log2 < 53 := by
      by_cases hr : r = 0
      · rw [hr]
        decide
      · exact (Nat.log2_lt hr).mpr (by omega)
    omega

/-- A rounded number is zero, or has the exponent it was rounded to, one more after a carry. -/
theorem within_roundWithAccuracy_iff {greatest : Int} (sign : Sign) (mantissa : Nat)
    (exponent : Int) (accuracy : Accuracy) :
    Within greatest (roundWithAccuracy Format.binary64 sign mantissa exponent accuracy) ↔
      rounded mantissa exponent accuracy = 0 ∨
        exponent + drop mantissa exponent +
          (if rounded mantissa exponent accuracy = 2 ^ 53 then 1 else 0 : Nat) ≤ greatest := by
  unfold roundWithAccuracy
  simp only [shiftToTargetExponent_eq, mantissa_shiftRight, mantissa_ofMantissaAndAccuracy]
  refine (within_dite_iff sign _ _ Nat.pos_of_ne_zero).trans ?_
  show rounded mantissa exponent accuracy / 2 ^ drop (rounded mantissa exponent accuracy)
      (exponent + drop mantissa exponent) = 0 ∨
    exponent + drop mantissa exponent + drop (rounded mantissa exponent accuracy)
      (exponent + drop mantissa exponent) ≤ greatest ↔ _
  rw [drop_rounded]
  refine or_congr_left ?_
  split
  · next hfull =>
    rw [hfull]
    decide
  · rw [Nat.pow_zero, Nat.div_one]

theorem within_roundWithAccuracy {greatest : Int} {sign : Sign} {mantissa : Nat} {exponent : Int}
    {accuracy : Accuracy} (hleast : -1074 < greatest) (hexponent : exponent < greatest)
    (h : (mantissa.log2 : Int) + exponent < greatest + 52) :
    Within greatest (roundWithAccuracy Format.binary64 sign mantissa exponent accuracy) := by
  rw [within_roundWithAccuracy_iff]
  right
  have hdrop : exponent + drop mantissa exponent < greatest := by
    unfold drop
    omega
  split <;> omega

/-! ## The limit -/

/-- The least magnitude that is too great for a double, half a unit past the greatest one. -/
def limit : Nat :=
  (2 ^ 54 - 1) * 2 ^ 970

theorem limit_bounds (j : Nat) :
    2 ^ (1023 + j) ≤ limit * 2 ^ j ∧ limit * 2 ^ j ≤ 2 ^ (1024 + j) := by
  have hlow : 2 ^ (1023 + j) = 2 ^ 53 * (2 ^ 970 * 2 ^ j) := by
    rw [← Nat.pow_add, ← Nat.pow_add]
    congr 1
    omega
  have hhigh : 2 ^ (1024 + j) = 2 ^ 54 * (2 ^ 970 * 2 ^ j) := by
    rw [← Nat.pow_add, ← Nat.pow_add]
    congr 1
    omega
  rw [limit, Nat.mul_assoc, hlow, hhigh]
  exact ⟨Nat.mul_le_mul_right _ (by decide), Nat.mul_le_mul_right _ (by decide)⟩

theorem limit_eq : (limit : ℚ) = 2 ^ 1024 - 2 ^ 970 := by
  have hone : 1 ≤ 2 ^ 54 := by decide
  rw [limit, Nat.cast_mul, Nat.cast_sub hone, Nat.cast_pow, Nat.cast_pow, Nat.cast_ofNat,
    Nat.cast_one, sub_one_mul, ← pow_add]

theorem limit_mul_le_iff (n j : Nat) :
    limit * 2 ^ j ≤ n ↔ 2 ^ 54 - 1 ≤ n / 2 ^ (970 + j) := by
  rw [Nat.le_div_iff_mul_le (Nat.two_pow_pos _), limit, Nat.mul_assoc, ← Nat.pow_add]

-- The limit has too many digits to be worked with other than by these bounds.
attribute [irreducible] limit

theorem two_pow_le_limit {k : Nat} (h : k ≤ 1023) : 2 ^ k ≤ limit := by
  calc 2 ^ k ≤ 2 ^ (1023 + 0) := Nat.pow_le_pow_right (by decide) h
    _ ≤ limit * 2 ^ 0 := (limit_bounds 0).1
    _ = limit := Nat.mul_one limit

theorem limit_pos : 0 < limit :=
  two_pow_le_limit (Nat.zero_le _)

theorem limit_le_ten_pow {k : Nat} (h : 309 ≤ k) : limit ≤ 10 ^ k := by
  induction h with
  | refl =>
    calc limit = limit * 2 ^ 0 := (Nat.mul_one limit).symm
      _ ≤ 2 ^ (1024 + 0) := (limit_bounds 0).2
      _ ≤ 10 ^ 309 := by decide +kernel
  | @step k _ ih => exact Nat.le_trans ih (Nat.pow_le_pow_right (by decide) (Nat.le_succ k))

/-- From `2 ^ 1023` on what is left of a mantissa fills the width of a double. -/
theorem rounded_pos {mantissa j : Nat} (accuracy : Accuracy) (h : 1023 + j ≤ mantissa.log2) :
    rounded mantissa (-j) accuracy ≠ 0 := by
  have hdrop : drop mantissa (-j) ≤ mantissa.log2 := by
    unfold drop
    omega
  have hpos : mantissa ≠ 0 := by
    rintro rfl
    rw [Nat.log2_zero] at h
    omega
  have hle : 2 ^ drop mantissa (-j) ≤ mantissa :=
    Nat.le_trans (Nat.pow_le_pow_right (by decide) hdrop) (Nat.log2_self_le hpos)
  have hone : 1 ≤ mantissa / 2 ^ drop mantissa (-j) :=
    (Nat.le_div_iff_mul_le (Nat.two_pow_pos _)).mpr (by rwa [Nat.one_mul])
  have := (rounded_bounds mantissa (-j) accuracy).1
  omega

theorem not_fits_of_lt_log2 {sign : Sign} {mantissa j : Nat} {accuracy : Accuracy}
    (h : 1023 + j < mantissa.log2) :
    ¬ Fits (roundWithAccuracy Format.binary64 sign mantissa (-j) accuracy) := by
  rw [Fits, within_roundWithAccuracy_iff, not_or]
  refine ⟨rounded_pos accuracy (Nat.le_of_lt h), ?_⟩
  unfold drop
  split <;> omega

/-- Below `2 ^ 1024` it takes a carry through the whole mantissa to get past the greatest double. -/
theorem rounded_eq_two_pow_iff {mantissa j : Nat} (accuracy : Accuracy)
    (h : mantissa.log2 = 1023 + j) :
    rounded mantissa (-j) accuracy = 2 ^ 53 ↔ limit * 2 ^ j ≤ mantissa := by
  have hdrop : drop mantissa (-j) = 970 + j + 1 := by
    unfold drop
    omega
  have hhalves : mantissa / 2 ^ drop mantissa (-j) = mantissa / 2 ^ (970 + j) / 2 := by
    rw [hdrop, Nat.pow_succ, Nat.div_div_eq_div_mul]
  have hlt := div_two_pow_drop_lt mantissa (-j)
  have hbounds := rounded_bounds mantissa (-j) accuracy
  rw [limit_mul_le_iff]
  rw [hhalves] at hlt hbounds
  by_cases hlast : mantissa / 2 ^ (970 + j) / 2 = 2 ^ 53 - 1
  · have hodd : (ExtendedMantissa.ofMantissaAndAccuracy mantissa accuracy >>>
        drop mantissa (-j)).mantissa % 2 = 1 := by
      rw [mantissa_shiftRight, mantissa_ofMantissaAndAccuracy, hhalves, hlast]
      decide
    have hrounded : rounded mantissa (-j) accuracy =
        2 ^ 53 - 1 + if mantissa / 2 ^ (970 + j) % 2 != 0 then 1 else 0 := by
      rw [rounded, roundedMantissa_of_odd hodd, mantissa_shiftRight,
        mantissa_ofMantissaAndAccuracy, hhalves, hlast, hdrop, roundBit_shiftRight,
        mantissa_ofMantissaAndAccuracy]
    rw [hrounded]
    split
    · next hbit =>
      rw [bne_iff_ne] at hbit
      omega
    · next hbit =>
      rw [bne_iff_ne, not_not] at hbit
      omega
  · omega

/-- Rounding gives a finite double exactly below the limit. -/
theorem fits_roundWithAccuracy_iff (sign : Sign) (mantissa j : Nat) (accuracy : Accuracy) :
    Fits (roundWithAccuracy Format.binary64 sign mantissa (-j) accuracy) ↔
      mantissa < limit * 2 ^ j := by
  rcases Nat.lt_trichotomy mantissa.log2 (1023 + j) with hlt | heq | hgt
  · refine ⟨fun _ => ?_, fun _ => within_roundWithAccuracy (by decide) (by omega) (by omega)⟩
    calc mantissa < 2 ^ (mantissa.log2 + 1) := Nat.lt_log2_self
      _ ≤ 2 ^ (1023 + j) := Nat.pow_le_pow_right (by decide) hlt
      _ ≤ limit * 2 ^ j := (limit_bounds j).1
  · have hdrop : -(j : Int) + drop mantissa (-j) = 971 := by
      unfold drop
      omega
    rw [Fits, within_roundWithAccuracy_iff, ← Nat.not_le, ← rounded_eq_two_pow_iff accuracy heq,
      hdrop, or_iff_right (rounded_pos accuracy (Nat.le_of_eq heq.symm))]
    split
    · next hfull => exact ⟨fun h => absurd h (by decide), fun h => absurd hfull h⟩
    · next hroom => exact ⟨fun _ => hroom, fun _ => by decide⟩
  · refine ⟨fun h => absurd h (not_fits_of_lt_log2 hgt), fun h => absurd h (Nat.not_lt.mpr ?_)⟩
    have hpos : mantissa ≠ 0 := by
      rintro rfl
      cases hgt
    calc limit * 2 ^ j ≤ 2 ^ (1024 + j) := (limit_bounds j).2
      _ ≤ 2 ^ mantissa.log2 := Nat.pow_le_pow_right (by decide) (by omega)
      _ ≤ mantissa := Nat.log2_self_le hpos

end Double
end GpuInventory
