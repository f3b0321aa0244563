import GpuInventory.Metrics

/-!
How many durations are in the buckets.

A duration is put into one bucket if it is a number at all, since the last bound is infinite.  What
is not a number does not stay below any bound and is put into none, although the sum takes it in, so
the number of durations in the buckets is the number of those that were numbers.

The difference of two finite numbers is a number, if perhaps an infinite one, so on a clock that
shows finite times every duration is one.  For this the arithmetic of floating-point numbers is
opened: no finite operands give what is not a number, and packing the result into bits does not make
it one.
-/

namespace GpuInventory

/-! ## Numbers -/

section Numbers

open Float.Model (Format UnpackedFloat)

theorem isNaN_dite {c : Prop} [Decidable c] {t : c → UnpackedFloat} {e : ¬ c → UnpackedFloat}
    (ht : ∀ h, (t h).isNaN = false) (he : ∀ h, (e h).isNaN = false) : (dite c t e).isNaN = false := by
  by_cases h : c
  · rw [dif_pos h]
    exact ht h
  · rw [dif_neg h]
    exact he h

theorem isNaN_round (spec : Format) (sign : UnpackedFloat.Sign) (mantissa : Nat) (exponent : Int) :
    (UnpackedFloat.round spec sign mantissa exponent).isNaN = false := by
  unfold UnpackedFloat.round UnpackedFloat.roundWithAccuracy
  dsimp only
  exact isNaN_dite (fun _ => rfl) fun _ => rfl

theorem isNaN_normalize (spec : Format) (mantissa exponent : Int) (sign : UnpackedFloat.Sign) :
    (UnpackedFloat.normalize spec mantissa exponent sign).isNaN = false := by
  unfold UnpackedFloat.normalize
  split
  · exact isNaN_round spec _ _ _
  · rfl
  · exact isNaN_round spec _ _ _

theorem isNaN_unpacked_sub (spec : Format) {a b : UnpackedFloat} (ha : a.isFinite = true)
    (hb : b.isFinite = true) : (UnpackedFloat.sub spec a b).isNaN = false := by
  cases a with
  | notANumber => cases ha
  | infinity sign => cases ha
  | zero sign =>
    cases b with
    | notANumber => cases hb
    | infinity other => cases hb
    | zero other =>
      unfold UnpackedFloat.sub
      dsimp only
      split <;> rfl
    | finite other mantissa exponent hpos => rfl
  | finite sign mantissa exponent hpos =>
    cases b with
    | notANumber => cases hb
    | infinity other => cases hb
    | zero other => rfl
    | finite other mantissa' exponent' hpos' => exact isNaN_normalize spec _ _ _

theorem unpackMantissa_packedInfinity (spec : Format) (sign : UnpackedFloat.Sign) :
    UnpackedFloat.unpackMantissa (UnpackedFloat.packedInfinity spec sign) = 0#_ :=
  UnpackedFloat.unpackMantissa_packComponents

/-- The bits of a number have the greatest exponent only if it is infinite, and then the mantissa is
zero. -/
theorem unpackMantissa_pack (spec : Format) {u : UnpackedFloat} (h : u.isNaN = false)
    (he : UnpackedFloat.unpackExponent (UnpackedFloat.pack spec u) = -1#_) :
    UnpackedFloat.unpackMantissa (UnpackedFloat.pack spec u) = 0#_ := by
  cases u with
  | notANumber => cases h
  | infinity sign => exact unpackMantissa_packedInfinity spec sign
  | zero sign => exact UnpackedFloat.unpackMantissa_packComponents
  | finite sign mantissa exponent hpos =>
    have hpack : ∀ biased,
        biased = (exponent + spec.exponentBias + spec.mantissaBitsWithoutImplicit).toNat →
        UnpackedFloat.pack spec (.finite sign mantissa exponent hpos) =
          if 2 ^ spec.exponentBits ≤ biased + 1 then UnpackedFloat.packedInfinity spec sign
          else if mantissa.log2 + 1 = spec.mantissaBits then
            UnpackedFloat.packComponents spec sign (BitVec.ofNat _ biased) (BitVec.ofNat _ mantissa)
          else UnpackedFloat.packComponents spec sign 0#_ (BitVec.ofNat _ mantissa) := by
      rintro _ rfl
      rfl
    rw [hpack _ rfl] at he ⊢
    by_cases hbig : 2 ^ spec.exponentBits ≤
        (exponent + spec.exponentBias + spec.mantissaBitsWithoutImplicit).toNat + 1
    · rw [if_pos hbig]
      exact unpackMantissa_packedInfinity spec sign
    · -- the exponent that is packed is too small
      exfalso
      rw [if_neg hbig] at he
      have hpow : 1 < 2 ^ spec.exponentBits := Nat.one_lt_two_pow (Nat.ne_of_gt spec.he)
      by_cases hnormal : mantissa.log2 + 1 = spec.mantissaBits
      · rw [if_pos hnormal, UnpackedFloat.unpackExponent_packComponents] at he
        have hvalue := congrArg BitVec.toNat he
        rw [BitVec.neg_one_eq_allOnes, BitVec.toNat_allOnes, BitVec.toNat_ofNat,
          Nat.mod_eq_of_lt (by omega)] at hvalue
        omega
      · rw [if_neg hnormal, UnpackedFloat.unpackExponent_packComponents] at he
        have hvalue := congrArg BitVec.toNat he
        rw [BitVec.neg_one_eq_allOnes, BitVec.toNat_allOnes, BitVec.toNat_ofNat,
          Nat.zero_mod] at hvalue
        omega

theorem isNaN_unpack_pack (spec : Format) {u : UnpackedFloat} (h : u.isNaN = false) :
    (UnpackedFloat.unpack spec (UnpackedFloat.pack spec u)).isNaN = false := by
  have hmantissa := unpackMantissa_pack spec h
  generalize UnpackedFloat.pack spec u = bits at hmantissa ⊢
  unfold UnpackedFloat.unpack
  dsimp only
  by_cases hgreatest : UnpackedFloat.unpackExponent bits = -1#_
  · rw [if_pos hgreatest, if_pos (hmantissa hgreatest)]
    rfl
  · rw [if_neg hgreatest]
    by_cases hleast : UnpackedFloat.unpackExponent bits = 0#_
    · rw [if_pos hleast]
      exact isNaN_dite (fun _ => rfl) fun _ => rfl
    · rw [if_neg hleast]
      rfl

theorem isNaN_sub {x y : Float} (hx : x.isFinite = true) (hy : y.isFinite = true) :
    (x - y).isNaN = false :=
  isNaN_unpack_pack Format.binary64 (isNaN_unpacked_sub Format.binary64 hx hy)

theorem le_infinity {x : Float} (h : x.isNaN = false) : x ≤ 1.0 / 0.0 := by
  have hinfinity : (1.0 / 0.0 : Float).toModel.unpack = .infinity .positive := rfl
  have hx : x.toModel.unpack.isNaN = false := h
  show decide (x.toModel.unpack.le (1.0 / 0.0 : Float).toModel.unpack = true) = true
  rw [hinfinity]
  cases hu : x.toModel.unpack with
  | notANumber =>
    rw [hu] at hx
    cases hx
  | infinity sign => cases sign <;> rfl
  | zero sign => rfl
  | finite sign mantissa exponent hpos => rfl

theorem not_le_of_isNaN {x : Float} (h : x.isNaN = true) (bound : Float) : ¬ x ≤ bound := by
  have hx : x.toModel.unpack = .notANumber := by
    have hu : x.toModel.unpack.isNaN = true := h
    cases hv : x.toModel.unpack with
    | notANumber => rfl
    | _ =>
      rw [hv] at hu
      cases hu
  show ¬ decide (x.toModel.unpack.le bound.toModel.unpack = true) = true
  rw [hx]
  exact Bool.false_ne_true

end Numbers

/-! ## Buckets -/

namespace Durations

theorem length_increment (i : Nat) (counts : List Nat) :
    (increment i counts).length = counts.length := by
  induction counts generalizing i with
  | nil => cases i <;> rfl
  | cons n rest ih =>
    cases i with
    | zero => rfl
    | succ i => exact congrArg (· + 1) (ih i)

/-- What stands in a bucket is added up from the left, so the claim is made for every start. -/
theorem foldl_increment (i start : Nat) (counts : List Nat) :
    (increment i counts).foldl (· + ·) start =
      counts.foldl (· + ·) start + if i < counts.length then 1 else 0 := by
  induction counts generalizing i start with
  | nil => cases i <;> rfl
  | cons n rest ih =>
    cases i with
    | zero =>
      show rest.foldl (· + ·) (start + n + 1) = rest.foldl (· + ·) (start + n) + 1
      rw [Nat.add_comm (start + n) 1, List.foldl_assoc, Nat.add_comm]
    | succ i =>
      show (increment i rest).foldl (· + ·) (start + n) = _
      rw [ih, List.foldl_cons, List.length_cons]
      simp only [Nat.add_lt_add_iff_right]

theorem findIdx_bound_lt_iff (seconds : Float) :
    durationBounds.findIdx (fun bound => seconds ≤ bound) < durationBounds.length ↔
      seconds.isNaN = false := by
  rw [List.findIdx_lt_length]
  constructor
  · rintro ⟨bound, -, hle⟩
    cases h : seconds.isNaN with
    | false => rfl
    | true => exact absurd (of_decide_eq_true hle) (not_le_of_isNaN h bound)
  · intro h
    exact ⟨1.0 / 0.0, List.mem_of_getLast? rfl, decide_eq_true (le_infinity h)⟩

theorem count_observe {d : Durations} (h : d.counts.length = durationBounds.length)
    (seconds : Float) :
    (d.observe seconds).count = d.count + if seconds.isNaN then 0 else 1 := by
  unfold count
  rw [observe]
  dsimp only
  rw [foldl_increment, h]
  cases hn : seconds.isNaN with
  | false =>
    rw [if_pos ((findIdx_bound_lt_iff seconds).mpr hn)]
    rfl
  | true =>
    have hnone :
        ¬ durationBounds.findIdx (fun bound => seconds ≤ bound) < durationBounds.length := by
      rw [findIdx_bound_lt_iff, hn]
      decide
    rw [if_neg hnone]
    rfl

/-- The buckets hold the durations that are numbers. -/
theorem count_foldl_observe {d : Durations} (h : d.counts.length = durationBounds.length)
    (times : List Float) :
    (times.foldl observe d).count = d.count + times.countP fun t => !t.isNaN := by
  induction times generalizing d with
  | nil => rfl
  | cons t rest ih =>
    have hlength : (d.observe t).counts.length = durationBounds.length :=
      (length_increment _ d.counts).trans h
    rw [List.foldl_cons, ih hlength, count_observe h, List.countP_cons]
    cases t.isNaN with
    | false =>
      show d.count + 1 + rest.countP _ = d.count + (rest.countP _ + 1)
      omega
    | true => rfl

end Durations
end GpuInventory
