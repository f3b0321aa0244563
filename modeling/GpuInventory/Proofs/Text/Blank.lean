import GpuInventory.Text.Blank

/-!
Trimming takes the blanks off both ends of a text, and nothing else.

A text without blanks is left as it is, with blanks around it or without them, and every text is
what trimming leaves of it between two runs of blanks.

Splitting a text into words goes by the same blanks, so that a text of which trimming leaves
something has a first word.
-/

namespace GpuInventory
namespace Text

theorem trim_eq_self {s : List Char} (h : ∀ c ∈ s, isBlank c = false) : trim s = s := by
  have hkeep : ∀ t : List Char, (∀ c ∈ t, isBlank c = false) → t.dropWhile isBlank = t := by
    intro t ht
    cases t with
    | nil => rfl
    | cons c rest => rw [List.dropWhile_cons, ht c List.mem_cons_self, if_neg Bool.false_ne_true]
  rw [trim, hkeep s h, trimEnd, hkeep s.reverse fun c hc => h c (List.mem_reverse.mp hc),
    List.reverse_reverse]

theorem mem_dropWhile_isBlank {s : List Char} {c : Char} (hc : c ∈ s) (hb : isBlank c = false) :
    c ∈ s.dropWhile isBlank := by
  induction s with
  | nil => cases hc
  | cons d rest ih =>
    rw [List.dropWhile_cons]
    split
    · next hd =>
      rcases List.mem_cons.mp hc with rfl | hc
      · exact absurd hd (by rw [hb]; exact Bool.false_ne_true)
      · exact ih hc
    · exact hc

/-- Trimming takes nothing away but blanks. -/
theorem mem_trim {s : List Char} {c : Char} (hc : c ∈ s) (hb : isBlank c = false) : c ∈ trim s := by
  rw [trim, trimEnd, List.mem_reverse]
  exact mem_dropWhile_isBlank (List.mem_reverse.mpr (mem_dropWhile_isBlank hc hb)) hb

theorem exists_blank_ends (s : List Char) :
    ∃ before after, s = before ++ trim s ++ after ∧
      (∀ c ∈ before, isBlank c = true) ∧ ∀ c ∈ after, isBlank c = true := by
  have hend : ∀ t : List Char, t = trimEnd t ++ (t.reverse.takeWhile isBlank).reverse := by
    intro t
    have hreverse : t.reverse = t.reverse.takeWhile isBlank ++ t.reverse.dropWhile isBlank :=
      List.takeWhile_append_dropWhile.symm
    rw [trimEnd, ← List.reverse_append, ← hreverse, List.reverse_reverse]
  refine ⟨s.takeWhile isBlank, ((s.dropWhile isBlank).reverse.takeWhile isBlank).reverse,
    ?_, ?_, ?_⟩
  · rw [trim, List.append_assoc, ← hend, List.takeWhile_append_dropWhile]
  · exact fun c hc => List.all_eq_true.mp List.all_takeWhile c hc
  · exact fun c hc => List.all_eq_true.mp List.all_takeWhile c (List.mem_reverse.mp hc)

/-- Blanks around a text without blanks are trimmed off, and nothing else is. -/
theorem trim_append {before core after : List Char} (hbefore : ∀ c ∈ before, isBlank c = true)
    (hcore : ∀ c ∈ core, isBlank c = false) (hafter : ∀ c ∈ after, isBlank c = true) :
    trim (before ++ core ++ after) = core := by
  have hkept : trim core = core := trim_eq_self hcore
  have hend : ∀ t : List Char, trimEnd (t ++ after) = trimEnd t := by
    intro t
    have hblank : ∀ c ∈ after.reverse, isBlank c = true :=
      fun c hc => hafter c (List.mem_reverse.mp hc)
    rw [trimEnd, List.reverse_append, List.dropWhile_append_of_pos hblank, ← trimEnd]
  rw [trim, List.append_assoc, List.dropWhile_append_of_pos hbefore]
  cases core with
  | nil =>
    have hnone : (after ++ []).dropWhile isBlank = [].dropWhile isBlank :=
      List.dropWhile_append_of_pos hafter
    rw [List.append_nil] at hnone
    rw [List.nil_append, hnone]
    rfl
  | cons c rest =>
    have hc : isBlank c = false := hcore c List.mem_cons_self
    have hstop : ∀ t : List Char, (c :: t).dropWhile isBlank = c :: t := by
      intro t
      rw [List.dropWhile_cons, hc, if_neg Bool.false_ne_true]
    rw [trim, hstop] at hkept
    rw [List.cons_append, hstop, ← List.cons_append, hend, hkept]

theorem trim_eq_nil_iff {s : List Char} : trim s = [] ↔ ∀ c ∈ s, isBlank c = true := by
  constructor
  · intro h
    obtain ⟨before, after, hs, hbefore, hafter⟩ := exists_blank_ends s
    rw [h, List.append_nil] at hs
    intro c hc
    rw [hs] at hc
    exact (List.mem_append.mp hc).elim (hbefore c) (hafter c)
  · intro h
    have hempty : trim (s ++ [] ++ []) = [] :=
      trim_append h (fun _ hc => absurd hc List.not_mem_nil) fun _ hc => absurd hc List.not_mem_nil
    rwa [List.append_nil, List.append_nil] at hempty

/-- What trimming leaves is not blank. -/
theorem trim_trim_ne_nil {s : List Char} (h : trim s ≠ []) : trim (trim s) ≠ [] := by
  intro hnil
  refine h (trim_eq_nil_iff.mpr fun c hc => ?_)
  cases hb : isBlank c with
  | true => rfl
  | false => exact hb.symm.trans (trim_eq_nil_iff.mp hnil c (mem_trim hc hb))

/-! ## Words -/

/-- The words of a text: its pieces between single blanks, without the empty ones. -/
def words (s : List Char) : List (List Char) :=
  (s.splitOnP isBlank).filter fun piece => !piece.isEmpty

theorem words_cons_of_blank {c : Char} (hc : isBlank c = true) (s : List Char) :
    words (c :: s) = words s := by
  rw [words, List.splitOnP_cons_eq_if_modifyHead, if_pos hc, List.filter_cons_of_neg (by simp)]
  rfl

theorem splitOnP_isBlank_eq_cons (s : List Char) :
    ∃ pieces, s.splitOnP isBlank = s.takeWhile (fun c => !isBlank c) :: pieces := by
  induction s with
  | nil => exact ⟨[], rfl⟩
  | cons c s ih =>
    obtain ⟨pieces, hpieces⟩ := ih
    rw [List.splitOnP_cons_eq_if_modifyHead, List.takeWhile_cons]
    cases hc : isBlank c with
    | true => exact ⟨s.splitOnP isBlank, rfl⟩
    | false => exact ⟨pieces, by rw [if_neg Bool.false_ne_true, hpieces]; rfl⟩

/-- A text that is not blank has words, and the first of them is the one that is read. -/
theorem words_eq_firstWord_cons {s : List Char} (h : trim s ≠ []) :
    ∃ more, words s = firstWord s :: more := by
  induction s with
  | nil => exact absurd trim_nil h
  | cons c s ih =>
    cases hc : isBlank c with
    | true =>
      have hrest : trim s ≠ [] := by rwa [trim, List.dropWhile_cons_of_pos hc] at h
      obtain ⟨more, hmore⟩ := ih hrest
      refine ⟨more, ?_⟩
      rw [words_cons_of_blank hc, hmore, firstWord, firstWord, List.dropWhile_cons_of_pos hc]
    | false =>
      obtain ⟨pieces, hpieces⟩ := splitOnP_isBlank_eq_cons (c :: s)
      have hfirst : firstWord (c :: s) = (c :: s).takeWhile (fun c => !isBlank c) := by
        rw [firstWord, List.dropWhile_cons_of_neg (by rw [hc]; exact Bool.false_ne_true)]
      refine ⟨pieces.filter fun piece => !piece.isEmpty, ?_⟩
      rw [words, hpieces, hfirst, List.filter_cons_of_pos]
      simp [hc]

end Text
end GpuInventory
