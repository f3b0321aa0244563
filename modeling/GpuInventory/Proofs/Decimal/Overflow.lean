import GpuInventory.Proofs.Decimal.Rounding
import GpuInventory.Proofs.Decimal.Written

/-!
Which written numbers are too great for a double.

The double nearest to a written number is finite exactly if the number is less than half a unit past
the greatest double, however its digits and its power of ten share the work.  A number of few digits
and a small power is not rounded as one but multiplied or divided as two doubles, which no such
number makes infinite.  Besides these only the names stand for what is not finite.
-/

namespace GpuInventory
namespace Double

open Float.Model (Format UnpackedFloat totalExponent)
open Float.Model.UnpackedFloat

/-! ## Powers of ten -/

theorem ten_pow_toNat_of_nonpos {e : Int} (h : e ≤ 0) : 10 ^ e.toNat = 1 := by
  rw [Int.toNat_of_nonpos h, Nat.pow_zero]

theorem fits_mul_iff (mantissa k : Nat) (h : 0 < mantissa <<< 53) (h' : 0 < 10 ^ k) :
    Fits (mul Format.binary64 (.finite .positive (mantissa <<< 53) (-53) h)
      (.finite .positive (10 ^ k) 0 h')) ↔ mantissa * 10 ^ k < limit := by
  show Fits
    (roundWithAccuracy Format.binary64 .positive (mantissa <<< 53 * 10 ^ k) (-(53 : Nat)) _) ↔ _
  rw [fits_roundWithAccuracy_iff, Nat.shiftLeft_eq, Nat.mul_right_comm,
    Nat.mul_lt_mul_right (Nat.two_pow_pos 53)]

theorem fits_div_iff (mantissa k : Nat) (h : 0 < mantissa) (h' : 0 < 10 ^ k) :
    Fits (div Format.binary64 (.finite .positive mantissa 0 h) (.finite .positive (10 ^ k) 0 h')) ↔
      mantissa < limit * 10 ^ k := by
  -- The quotient is taken to an exponent that is not positive, which says how far it is shifted.
  obtain ⟨j, hj⟩ : ∃ j : Nat, min ((0 : Int) - 0) (Format.binary64.targetExponent
      (totalExponent mantissa 0 - totalExponent (10 ^ k) 0)) = -j :=
    ⟨_, (Int.neg_neg _).symm.trans (congrArg Neg.neg (Int.toNat_of_nonneg (by omega)).symm)⟩
  have hcore : divCore Format.binary64 mantissa 0 (10 ^ k) 0 =
      (mantissa <<< j / 10 ^ k, -(j : Int), accuracyOfFraction (mantissa <<< j % 10 ^ k) (10 ^ k)) := by
    unfold divCore
    have hshift : ((0 : Int) - 0 - -(j : Int)).toNat = j := by omega
    simp only [hj, hshift]
  show Fits (roundWithAccuracy Format.binary64 _ (divCore Format.binary64 mantissa 0 (10 ^ k) 0).1
    (divCore Format.binary64 mantissa 0 (10 ^ k) 0).2.1
    (divCore Format.binary64 mantissa 0 (10 ^ k) 0).2.2) ↔ _
  rw [hcore, fits_roundWithAccuracy_iff, Nat.div_lt_iff_lt_mul h', Nat.shiftLeft_eq,
    Nat.mul_right_comm, Nat.mul_lt_mul_right (Nat.two_pow_pos j)]

/-- A decimal number is finite as a double exactly below the limit. -/
theorem fits_ofScientific_iff (mantissa : Nat) (exponent : Int) :
    Fits (UnpackedFloat.ofScientific Format.binary64 mantissa exponent) ↔
      mantissa * 10 ^ exponent.toNat < limit * 10 ^ (-exponent).toNat := by
  unfold UnpackedFloat.ofScientific
  split
  · next hzero =>
    refine ⟨fun _ => ?_, fun _ => trivial⟩
    rw [hzero, Nat.zero_mul]
    exact Nat.mul_pos limit_pos (Nat.pow_pos (by decide))
  · next hpos =>
    split
    · next hbig =>
      refine ⟨fun h => h.elim, fun h => absurd h (Nat.not_lt.mpr ?_)⟩
      have hexponent : (2048 : Int) < exponent := hbig
      rw [ten_pow_toNat_of_nonpos (by omega), Nat.mul_one]
      calc limit ≤ 10 ^ exponent.toNat := limit_le_ten_pow (by omega)
        _ ≤ mantissa * 10 ^ exponent.toNat := Nat.le_mul_of_pos_left _ (Nat.pos_of_ne_zero hpos)
    · split
      · next hsmall =>
        refine ⟨fun _ => ?_, fun _ => trivial⟩
        have hexponent : exponent < -(2048 + (mantissa.log2 : Int)) := hsmall
        rw [ten_pow_toNat_of_nonpos (by omega), Nat.mul_one]
        calc mantissa < 2 ^ (mantissa.log2 + 1) := Nat.lt_log2_self
          _ ≤ 10 ^ (mantissa.log2 + 1) := Nat.pow_le_pow_left (by decide) _
          _ ≤ 10 ^ (-exponent).toNat := Nat.pow_le_pow_right (by decide) (by omega)
          _ ≤ limit * 10 ^ (-exponent).toNat := Nat.le_mul_of_pos_left _ limit_pos
      · split
        · next hwhole =>
          rw [ten_pow_toNat_of_nonpos (e := -exponent) (by omega), Nat.mul_one]
          exact fits_mul_iff mantissa exponent.toNat _ _
        · next hfraction =>
          rw [ten_pow_toNat_of_nonpos (e := exponent) (by omega), Nat.mul_one]
          exact fits_div_iff mantissa (-exponent).toNat _ _

/-! ## Short numbers -/

theorem mantissa_lt_of_unpack {bits : BitVec Format.binary64.numBits} {sign : Sign} {mantissa : Nat}
    {exponent : Int} {hpos : 0 < mantissa}
    (h : unpack Format.binary64 bits = .finite sign mantissa exponent hpos) : mantissa < 2 ^ 53 := by
  unfold unpack at h
  dsimp only at h
  split at h
  · split at h <;> cases h
  · split at h
    · split at h
      · cases h
      · cases h
        exact Nat.lt_trans (BitVec.isLt _) (by decide)
    · cases h
      exact BitVec.isLt _

theorem log2_lt {n k : Nat} (hk : 0 < k) (h : n < 2 ^ k) : n.log2 < k := by
  by_cases hn : n = 0
  · rwa [hn, Nat.log2_zero]
  · exact (Nat.log2_lt hn).mpr h

theorem log2_mono {n k : Nat} (h : n ≤ k) : n.log2 ≤ k.log2 :=
  Nat.le_of_lt_succ (log2_lt (Nat.succ_pos _) (Nat.lt_of_le_of_lt h Nat.lt_log2_self))

theorem log2_shiftLeft_le (n k : Nat) : (n <<< k).log2 ≤ n.log2 + k := by
  refine Nat.le_of_lt_succ (log2_lt (Nat.succ_pos _) ?_)
  rw [Nat.shiftLeft_eq, Nat.succ_eq_add_one, Nat.add_right_comm, Nat.pow_add]
  exact Nat.mul_lt_mul_of_pos_right Nat.lt_log2_self (Nat.two_pow_pos k)

theorem within_round {greatest : Int} {sign : Sign} {mantissa : Nat} {exponent : Int}
    (hleast : -1074 < greatest) (hexponent : exponent < greatest)
    (h : (mantissa.log2 : Int) + exponent < greatest + 52) :
    Within greatest (UnpackedFloat.round Format.binary64 sign mantissa exponent) := by
  unfold UnpackedFloat.round decreaseExponent
  dsimp only
  have hlog := log2_shiftLeft_le mantissa
    (exponent - Format.binary64.targetExponent (totalExponent mantissa exponent)).toNat
  exact within_roundWithAccuracy hleast (by omega) (by omega)

theorem within_ofUInt64 {n : UInt64} (h : n.toNat < 2 ^ 53) :
    Within 1 (UnpackedFloat.ofUInt64 Format.binary64 n) := by
  show Within 1 (UnpackedFloat.normalize Format.binary64 (n.toNat : Int) 0 .positive)
  have hlog := log2_lt (by decide) h
  unfold UnpackedFloat.normalize
  split
  · next hlt =>
    rw [Int.compare_eq_lt] at hlt
    omega
  · exact trivial
  · refine within_round (by decide) (by decide) ?_
    rw [Int.toNat_natCast]
    omega

theorem within_toFloat {n : UInt64} (h : n.toNat < 2 ^ 53) :
    Within 1 n.toFloat.toModel.unpack :=
  within_unpack_pack (within_ofUInt64 h) (by decide) (by decide)

/-- Whether a number is finite, and neither too great to multiply nor too small to divide a short
one by. -/
def isModerate : UnpackedFloat → Bool
  | .finite _ _ exponent _ => -52 ≤ exponent && exponent ≤ 21
  | _ => false

theorem finite_of_isModerate {u : UnpackedFloat} (h : isModerate u = true) :
    ∃ sign mantissa exponent hpos,
      u = .finite sign mantissa exponent hpos ∧ -52 ≤ exponent ∧ exponent ≤ 21 := by
  cases u with
  | infinity sign => cases h
  | notANumber => cases h
  | zero sign => cases h
  | finite sign mantissa exponent hpos =>
    rw [isModerate, Bool.and_eq_true, decide_eq_true_eq, decide_eq_true_eq] at h
    exact ⟨sign, mantissa, exponent, hpos, rfl, h⟩

theorem isModerate_powersOfTen : ∀ e : Fin Float.exactlyRepresentablePowersOfTen.size,
    isModerate (Float.exactlyRepresentablePowersOfTen[e]).toModel.unpack = true := by
  decide +kernel

section Operations

variable {x y : Float}

theorem isFinite_mul (hx : Within 1 x.toModel.unpack) (hy : isModerate y.toModel.unpack = true) :
    (x * y).isFinite = true := by
  refine (isFinite_pack_iff (mul Format.binary64 x.toModel.unpack y.toModel.unpack)).mpr ?_
  obtain ⟨sign', mantissa', exponent', hpos', hv, -, hgreatest⟩ := finite_of_isModerate hy
  rcases hx.eq_zero_or_finite with ⟨sign, hu⟩ | ⟨sign, mantissa, exponent, hpos, hu, hexponent⟩
  · rw [hu, hv]
    exact trivial
  · have hproduct : mantissa * mantissa' < 2 ^ 106 := by
      calc mantissa * mantissa' < 2 ^ 53 * 2 ^ 53 :=
            Nat.mul_lt_mul'' (mantissa_lt_of_unpack hu) (mantissa_lt_of_unpack hv)
        _ = 2 ^ 106 := (Nat.pow_add 2 53 53).symm
    have hlog := log2_lt (by decide) hproduct
    rw [hu, hv]
    exact within_roundWithAccuracy (by decide) (by omega) (by omega)

theorem isFinite_div (hx : Within 1 x.toModel.unpack) (hy : isModerate y.toModel.unpack = true) :
    (x / y).isFinite = true := by
  refine (isFinite_pack_iff (div Format.binary64 x.toModel.unpack y.toModel.unpack)).mpr ?_
  obtain ⟨sign', mantissa', exponent', hpos', hv, hleast, -⟩ := finite_of_isModerate hy
  rcases hx.eq_zero_or_finite with ⟨sign, hu⟩ | ⟨sign, mantissa, exponent, hpos, hu, hexponent⟩
  · rw [hu, hv]
    exact trivial
  · have hlog := log2_lt (by decide) (mantissa_lt_of_unpack hu)
    rw [hu, hv]
    unfold div divCore
    dsimp only
    generalize hshift : (exponent - exponent' - min (exponent - exponent')
      (Format.binary64.targetExponent
        (totalExponent mantissa exponent - totalExponent mantissa' exponent'))).toNat = shift
    have hquotient : (mantissa <<< shift / mantissa').log2 ≤ mantissa.log2 + shift :=
      Nat.le_trans (log2_mono (Nat.div_le_self _ _)) (log2_shiftLeft_le mantissa shift)
    exact within_roundWithAccuracy (by decide) (by omega) (by omega)

end Operations

/-- A number whose digits and whose power of ten are doubles themselves is finite. -/
theorem isFinite_ofScientific_of_short {mantissa e : Nat} (negative : Bool) (h : mantissa < 2 ^ 53)
    (he : e ≤ 22) : (Float.ofScientific mantissa negative e).isFinite = true := by
  have hnat : mantissa.toUInt64.toNat = mantissa :=
    Nat.mod_eq_of_lt (Nat.lt_trans h (by decide))
  have hx : Within 1 mantissa.toUInt64.toFloat.toModel.unpack :=
    within_toFloat (by rwa [hnat])
  have hy := isModerate_powersOfTen ⟨e, Nat.lt_succ_of_le he⟩
  unfold Float.ofScientific
  rw [dif_pos ⟨h, he⟩]
  cases negative with
  | true => exact isFinite_div hx hy
  | false => exact isFinite_mul hx hy

theorem lt_limit_of_short {mantissa e : Nat} (h : mantissa < 2 ^ 53) (he : e ≤ 22) :
    mantissa * 10 ^ e < limit := by
  calc mantissa * 10 ^ e < 2 ^ 53 * 10 ^ e :=
        Nat.mul_lt_mul_of_pos_right h (Nat.pow_pos (by decide))
    _ ≤ 2 ^ 53 * 10 ^ 22 := Nat.mul_le_mul_left _ (Nat.pow_le_pow_right (by decide) he)
    _ ≤ 2 ^ 127 := by decide
    _ ≤ limit := two_pow_le_limit (by decide)

theorem isFinite_ofScientific_iff (mantissa : Nat) (negative : Bool) (e : Nat) :
    (Float.ofScientific mantissa negative e).isFinite = true ↔
      if negative then mantissa < limit * 10 ^ e else mantissa * 10 ^ e < limit := by
  by_cases hshort : mantissa < 2 ^ 53 ∧ e ≤ 22
  · have hlimit := lt_limit_of_short hshort.1 hshort.2
    refine iff_of_true (isFinite_ofScientific_of_short negative hshort.1 hshort.2) ?_
    cases negative with
    | true =>
      calc mantissa ≤ mantissa * 10 ^ e := Nat.le_mul_of_pos_right _ (Nat.pow_pos (by decide))
        _ < limit := hlimit
        _ ≤ limit * 10 ^ e := Nat.le_mul_of_pos_right _ (Nat.pow_pos (by decide))
    | false => exact hlimit
  · unfold Float.ofScientific
    rw [dif_neg hshort]
    refine (isFinite_pack_iff _).trans ((fits_ofScientific_iff _ _).trans ?_)
    cases negative with
    | true =>
      show mantissa * 10 ^ (Int.negOfNat e).toNat < limit * 10 ^ (-Int.negOfNat e).toNat ↔
        mantissa < limit * 10 ^ e
      rw [Int.negOfNat_eq, Int.neg_neg, Int.ofNat_eq_natCast, Int.toNat_neg_natCast,
        Int.toNat_natCast, Nat.pow_zero, Nat.mul_one]
    | false =>
      show mantissa * 10 ^ (Int.ofNat e).toNat < limit * 10 ^ (-Int.ofNat e).toNat ↔
        mantissa * 10 ^ e < limit
      rw [Int.ofNat_eq_natCast, Int.toNat_neg_natCast, Int.toNat_natCast, Nat.pow_zero, Nat.mul_one]

end Double

namespace Decimal

open Double (limit)

theorem lt_ten_pow_length (n : Nat) : n < 10 ^ (Nat.toDigits 10 n).length :=
  (Nat.length_toDigits_le_iff (by decide) Nat.length_toDigits_pos).mp (Nat.le_refl _)

theorem ten_pow_le_of_lt_length {n k : Nat} (hn : n ≠ 0) (h : k < (Nat.toDigits 10 n).length) :
    10 ^ k ≤ n := by
  by_cases hk : k = 0
  · rw [hk]
    exact Nat.pos_of_ne_zero hn
  · refine Nat.not_lt.mp fun hlt => Nat.not_le.mpr h ?_
    exact (Nat.length_toDigits_le_iff (by decide) (Nat.pos_of_ne_zero hk)).mpr hlt

theorem isFinite_signed (negative : Bool) (x : Float) :
    (if negative then -x else x).isFinite = x.isFinite := by
  cases negative with
  | true => exact Double.isFinite_neg x
  | false => rfl

theorem isFinite_zero : (0.0 : Float).isFinite = true :=
  Double.isFinite_ofScientific_of_short true (by decide) (by decide)

theorem isFinite_one_div_zero : ¬ (1.0 / 0.0 : Float).isFinite = true := by
  decide +kernel

theorem isFinite_toFloat_iff_limit (d : Decimal) :
    d.toFloat.isFinite = true ↔
      d.coefficient * 10 ^ d.exponent.toNat < limit * 10 ^ (-d.exponent).toNat := by
  obtain ⟨negative, coefficient, exponent⟩ := d
  have hdigits := lt_ten_pow_length coefficient
  unfold toFloat
  dsimp only
  rw [isFinite_signed]
  split
  · next hsmall =>
    rw [Bool.or_eq_true, decide_eq_true_eq, decide_eq_true_eq] at hsmall
    refine iff_of_true isFinite_zero ?_
    rcases hsmall with hzero | hsize
    · rw [hzero, Nat.zero_mul]
      exact Nat.mul_pos Double.limit_pos (Nat.pow_pos (by decide))
    · rw [Double.ten_pow_toNat_of_nonpos (by omega), Nat.mul_one]
      calc coefficient < 10 ^ (Nat.toDigits 10 coefficient).length := hdigits
        _ ≤ 10 ^ (-exponent).toNat := Nat.pow_le_pow_right (by decide) (by omega)
        _ ≤ limit * 10 ^ (-exponent).toNat := Nat.le_mul_of_pos_left _ Double.limit_pos
  · next hlarge =>
    rw [Bool.or_eq_true, decide_eq_true_eq, decide_eq_true_eq, not_or] at hlarge
    split
    · next hsize =>
      refine iff_of_false isFinite_one_div_zero (Nat.not_lt.mpr ?_)
      have hlength := ten_pow_le_of_lt_length hlarge.1
        (Nat.sub_one_lt_of_lt (Nat.length_toDigits_pos (b := 10) (n := coefficient)))
      generalize (Nat.toDigits 10 coefficient).length = length at hsize hlength
      calc limit * 10 ^ (-exponent).toNat
          ≤ 10 ^ (length - 1 + exponent.toNat - (-exponent).toNat) * 10 ^ (-exponent).toNat :=
            Nat.mul_le_mul_right _ (Double.limit_le_ten_pow (by omega))
        _ = 10 ^ (length - 1 + exponent.toNat) := by
            rw [← Nat.pow_add, Nat.sub_add_cancel (by omega)]
        _ = 10 ^ (length - 1) * 10 ^ exponent.toNat := Nat.pow_add 10 _ _
        _ ≤ coefficient * 10 ^ exponent.toNat := Nat.mul_le_mul_right _ hlength
    · rw [Double.isFinite_ofScientific_iff]
      by_cases hexponent : exponent < 0
      · have habs : exponent.natAbs = (-exponent).toNat := by omega
        rw [if_pos (decide_eq_true hexponent), habs,
          Double.ten_pow_toNat_of_nonpos (e := exponent) (by omega), Nat.mul_one]
      · have habs : exponent.natAbs = exponent.toNat := by omega
        rw [if_neg (decide_eq_true_iff.not.mpr hexponent), habs,
          Double.ten_pow_toNat_of_nonpos (e := -exponent) (by omega), Nat.mul_one]

/-- The magnitude of a decimal number. -/
def magnitude (d : Decimal) : ℚ :=
  d.coefficient * 10 ^ d.exponent

/-- The double nearest to a number is finite exactly if the number lies less than half a unit past
the greatest double. -/
theorem isFinite_toFloat_iff (d : Decimal) :
    d.toFloat.isFinite = true ↔ d.magnitude < 2 ^ 1024 - 2 ^ 970 := by
  have hexponent : d.exponent = (d.exponent.toNat : Int) - ((-d.exponent).toNat : Int) := by omega
  have hmagnitude : d.magnitude =
      (d.coefficient * 10 ^ d.exponent.toNat : ℕ) / (10 ^ (-d.exponent).toNat : ℕ) := by
    rw [magnitude, Nat.cast_mul, Nat.cast_pow, Nat.cast_pow, mul_div_assoc, Nat.cast_ofNat,
      ← zpow_natCast, ← zpow_natCast, ← zpow_sub₀ (by decide), ← hexponent]
  rw [isFinite_toFloat_iff_limit, ← Double.limit_eq, hmagnitude, div_lt_iff₀ (by positivity),
    ← Nat.cast_mul, Nat.cast_lt]

/-! ## What is read -/

/-- Whether a text reports what no finite double is near to: a number past all of them, or no number
but a name. -/
def IsUnbounded (s : List Char) : Prop :=
  ReportsName s ∨ ∃ d, Reports s d ∧ 2 ^ 1024 - 2 ^ 970 ≤ d.magnitude

theorem isFinite_of_named? {name : List Char} {x : Float} (h : named? name = some x) :
    x.isFinite = false := by
  unfold named? at h
  dsimp only at h
  split at h
  · cases h
    exact Bool.eq_false_iff.mpr isFinite_one_div_zero
  · split at h
    · cases h
      decide +kernel
    · cases h

theorem IsUnbounded.isFinite_eq_false {s : List Char} {x : Float} (h : IsUnbounded s)
    (hx : readFloat? s = some x) : x.isFinite = false := by
  rcases h with hname | ⟨d, hd, hpast⟩
  · obtain ⟨negative, name, magnitude, hmagnitude, heq⟩ := hname.readFloat?_eq
    rw [heq] at hx
    cases hx
    rw [isFinite_signed, isFinite_of_named? hmagnitude]
  · rw [hd.readFloat?_eq] at hx
    cases hx
    exact Bool.eq_false_iff.mpr fun hfinite =>
      absurd ((isFinite_toFloat_iff d).mp hfinite) (not_lt.mpr hpast)

/-- What is read is finite unless the text reports what no finite double is near to. -/
theorem isFinite_readFloat?_iff {s : List Char} {x : Float} (hx : readFloat? s = some x) :
    x.isFinite = true ↔ ¬ IsUnbounded s := by
  refine ⟨fun hfinite h => ?_, fun h => ?_⟩
  · exact Bool.eq_false_iff.mp (h.isFinite_eq_false hx) hfinite
  · by_cases hnumber : ∃ d, Reports s d
    · obtain ⟨d, hd⟩ := hnumber
      rw [hd.readFloat?_eq] at hx
      cases hx
      exact (isFinite_toFloat_iff d).mpr (lt_of_not_ge fun hpast => h (.inr ⟨d, hd, hpast⟩))
    · have hnone := readFloat?_eq_none_iff.mpr
        ⟨not_exists.mp hnumber, fun hname => h (.inl hname)⟩
      rw [hnone] at hx
      cases hx

theorem IsUnbounded.exists_readFloat? {s : List Char} (h : IsUnbounded s) :
    ∃ x, readFloat? s = some x := by
  rcases h with hname | ⟨d, hd, -⟩
  · obtain ⟨negative, name, x, -, hx⟩ := hname.readFloat?_eq
    exact ⟨_, hx⟩
  · exact ⟨_, hd.readFloat?_eq⟩

end Decimal
end GpuInventory
