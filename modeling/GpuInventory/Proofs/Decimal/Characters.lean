import GpuInventory.Decimal.Writing
import GpuInventory.Text.Blank

/-!
The characters in which a double is written.

The shortest text of a double is made of digits, and of a point, a sign, a mark for the power of ten
and the letters, small or capital, that stand for what is not finite.  Each step of the writing adds
no others: the digits are those of a natural number, and the layouts put a point, zeros and a power
of ten to them.
-/

namespace GpuInventory
namespace Decimal

/-- The characters other than digits that may stand in the text of a double. -/
def numberMarks : List Char :=
  ['.', 'e', '+', '-', 'i', 'n', 'f', 'a', 'I', 'N']

/-- Whether a character may stand in the text of a double. -/
def isNumberChar (c : Char) : Bool :=
  c.isDigit || numberMarks.contains c

/-- Whether a text has no characters but those that may stand in the text of a double. -/
def IsNumberText (s : List Char) : Prop :=
  ∀ c ∈ s, isNumberChar c = true

theorem isNumberText_of_all {s : List Char} (h : s.all isNumberChar = true) : IsNumberText s :=
  List.all_eq_true.mp h

@[simp] theorem isNumberText_nil : IsNumberText [] :=
  fun _ h => absurd h List.not_mem_nil

@[simp] theorem isNumberText_cons_iff {c : Char} {s : List Char} :
    IsNumberText (c :: s) ↔ isNumberChar c = true ∧ IsNumberText s :=
  List.forall_mem_cons

@[simp] theorem isNumberText_append_iff {s t : List Char} :
    IsNumberText (s ++ t) ↔ IsNumberText s ∧ IsNumberText t :=
  List.forall_mem_append

theorem IsNumberText.mono {s t : List Char} (h : IsNumberText t) (hst : s ⊆ t) : IsNumberText s :=
  fun c hc => h c (hst hc)

theorem IsNumberText.trimmed {s : List Char} (h : IsNumberText s) (p : Char → Bool) :
    IsNumberText (s.reverse.dropWhile p).reverse :=
  h.mono fun _ hc =>
    List.mem_reverse.mp ((List.dropWhile_sublist p).subset (List.mem_reverse.mp hc))

@[simp] theorem isNumberText_replicate_zero (n : Nat) : IsNumberText (List.replicate n '0') := by
  intro c hc
  rw [List.eq_of_mem_replicate hc]
  decide

@[simp] theorem isNumberText_toDigits (n : Nat) : IsNumberText (Nat.toDigits 10 n) := by
  intro c hc
  rw [isNumberChar, Nat.isDigit_of_mem_toDigits (by decide) (by decide) hc, Bool.true_or]

theorem isLineEnd_of_isNumberChar {c : Char} (h : isNumberChar c = true) :
    Text.isLineEnd c = false := by
  rw [isNumberChar, Bool.or_eq_true, List.contains_iff_mem] at h
  rcases h with hd | hm
  · have hlow : 48 ≤ c.toNat := (Char.isDigit_iff_toNat.mp hd).1
    have hhigh : c.toNat ≤ 57 := (Char.isDigit_iff_toNat.mp hd).2
    simp [Text.isLineEnd]
    omega
  · have hmarks : numberMarks.all (fun d => !Text.isLineEnd d) = true := by decide
    have hc := List.all_eq_true.mp hmarks c hm
    rwa [Bool.not_eq_true'] at hc

/-! ## Digits -/

theorem isNumberText_ofGrid (n : Nat) (unit : Int) :
    IsNumberText (Scientific.ofGrid n unit).digits :=
  (isNumberText_toDigits n).trimmed _

theorem isNumberText_of_gridNeighbour? {b : Binary} {unit : Int} {s : Scientific}
    (h : gridNeighbour? b unit = some s) : IsNumberText s.digits := by
  unfold gridNeighbour? at h
  dsimp only at h
  split at h
  · rw [← Option.some.inj h]
    exact isNumberText_ofGrid _ _
  · rw [Option.ite_none_right_eq_some] at h
    rw [← Option.some.inj h.2]
    exact isNumberText_ofGrid _ _

theorem isNumberText_shortest (b : Binary) : IsNumberText (shortest b).digits := by
  unfold shortest
  dsimp only
  split
  · next s hs =>
    obtain ⟨unit, -, hunit⟩ := List.exists_of_findSome?_eq_some hs
    exact isNumberText_of_gridNeighbour? hunit
  · exact isNumberText_ofGrid _ _

/-! ## Layouts -/

theorem isNumberText_exponentText (e : Int) : IsNumberText (exponentText e) := by
  have hsign : isNumberChar (if e < 0 then '-' else '+') = true := by split <;> decide
  unfold exponentText
  dsimp only
  rw [isNumberText_cons_iff, isNumberText_cons_iff]
  refine ⟨by decide, hsign, ?_⟩
  split
  · exact isNumberText_cons_iff.mpr ⟨by decide, isNumberText_toDigits _⟩
  · exact isNumberText_toDigits _

theorem isNumberText_exponentialLayout (barePoint : Bool) {s : Scientific}
    (h : IsNumberText s.digits) : IsNumberText (exponentialLayout barePoint s) := by
  unfold exponentialLayout
  split
  · exact isNumberText_nil
  · next d rest hd =>
    rw [hd, isNumberText_cons_iff] at h
    rw [List.cons_append, isNumberText_cons_iff, isNumberText_append_iff]
    refine ⟨h.1, ?_, isNumberText_exponentText _⟩
    split
    · exact isNumberText_nil
    · exact isNumberText_cons_iff.mpr ⟨by decide, h.2⟩

theorem isNumberText_positionalLayout {wholeMark : List Char} (hmark : IsNumberText wholeMark)
    {s : Scientific} (h : IsNumberText s.digits) :
    IsNumberText (positionalLayout wholeMark s) := by
  have hpoint : isNumberChar '.' = true := by decide
  have hzero : isNumberChar '0' = true := by decide
  unfold positionalLayout
  dsimp only
  split
  · simp [hzero, hpoint, h]
  · split
    · simp [hmark, h]
    · simp [hpoint, h.mono (List.take_subset _ _), h.mono (List.drop_subset _ _)]

theorem isNumberText_shortestForm (magnitude : Option Binary) :
    IsNumberText (shortestForm magnitude) := by
  have hzero : IsNumberText "0.0".toList := isNumberText_of_all (by decide)
  have hmark : IsNumberText ['.', '0'] := isNumberText_of_all (by decide)
  cases magnitude with
  | none => exact hzero
  | some b =>
    unfold shortestForm
    dsimp only
    split
    · exact isNumberText_exponentialLayout false (isNumberText_shortest b)
    · exact isNumberText_positionalLayout hmark (isNumberText_shortest b)

theorem isNumberText_shortestText (x : Float) : IsNumberText (shortestText x).toList := by
  have hnan : IsNumberText "nan".toList := isNumberText_of_all (by decide)
  have hinf : IsNumberText "inf".toList := isNumberText_of_all (by decide)
  have hparts : IsNumberText (parts shortestForm x).2 := by
    unfold parts
    split
    · exact hnan
    · exact hinf
    · exact isNumberText_shortestForm none
    · exact isNumberText_shortestForm (some _)
  unfold shortestText
  dsimp only
  rw [String.toList_ofList, signed]
  split
  · exact isNumberText_cons_iff.mpr ⟨by decide, hparts⟩
  · exact hparts

end Decimal
end GpuInventory
