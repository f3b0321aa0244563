import GpuInventory.Text.LowerCase

/-!
Lower case and the underscore.

An underscore has no case and is not passed over, so it ends every word: what stands before it and
what stands after it go into lower case apart from each other, the two forms of the sigma included.
And no character but the underscore itself becomes one, so the pieces of a text between underscores
stay pieces.
-/

namespace GpuInventory
namespace Text

/-! ## Characters -/

theorem ofNat_ne_underscore {n : Nat} (h : n ≠ 0x5F) : Char.ofNat n ≠ '_' := by
  intro heq
  by_cases hn : n.isValidChar
  · have hto : (Char.ofNat n).toNat = n := by
      rw [Char.ofNat, dif_pos hn]
      rfl
    rw [heq] at hto
    exact h hto.symm
  · rw [Char.ofNat, dif_neg hn] at heq
    exact absurd heq (by decide)

theorem toLower_ne_underscore {c : Char} (h : c ≠ '_') : c.toLower ≠ '_' := by
  unfold Char.toLower
  split
  · next hcapital =>
    intro heq
    have hfirst : 65 ≤ c.val.toNat := UInt32.le_iff_toNat_le.mp hcapital.1
    have hlast : c.val.toNat ≤ 90 := UInt32.le_iff_toNat_le.mp hcapital.2
    have hsum : (c.val.toNat + 32) % 2 ^ 32 = 95 := congrArg Char.toNat heq
    omega
  · exact h

theorem underscore_lt_small : ∀ run ∈ capitalRuns, 0x5F < run.2.2.2 := by
  decide +kernel

theorem lowerChar_ne_nil (c : Char) : lowerChar c ≠ [] := by
  unfold lowerChar
  split
  · exact List.cons_ne_nil _ _
  · split
    · exact List.cons_ne_nil _ _
    · split <;> exact List.cons_ne_nil _ _

theorem underscore_not_mem_lowerChar {c : Char} (h : c ≠ '_') : '_' ∉ lowerChar c := by
  unfold lowerChar
  split
  · exact fun hmem => toLower_ne_underscore h (List.mem_singleton.mp hmem).symm
  · split
    · decide
    · split
      · next first last distance small hfind =>
        intro hmem
        have hsmall : 0x5F < small := underscore_lt_small _ (List.mem_of_find?_eq_some hfind)
        exact ofNat_ne_underscore (by omega) (List.mem_singleton.mp hmem).symm
      · exact fun hmem => h (List.mem_singleton.mp hmem).symm

def lowerAt (before : List Char) (c : Char) (rest : List Char) : List Char :=
  if c = 'Σ' then [if closesWord before rest then 'ς' else 'σ'] else lowerChar c

theorem lowerAfter_cons (before : List Char) (c : Char) (rest : List Char) :
    lowerAfter before (c :: rest) = lowerAt before c rest ++ lowerAfter (c :: before) rest := rfl

theorem lowerAt_underscore (before rest : List Char) : lowerAt before '_' rest = ['_'] := rfl

theorem lowerAt_ne_nil (before : List Char) (c : Char) (rest : List Char) :
    lowerAt before c rest ≠ [] := by
  unfold lowerAt
  split
  · exact List.cons_ne_nil _ _
  · exact lowerChar_ne_nil c

theorem underscore_not_mem_lowerAt {c : Char} (h : c ≠ '_') (before rest : List Char) :
    '_' ∉ lowerAt before c rest := by
  unfold lowerAt
  split
  · split <;> decide
  · exact underscore_not_mem_lowerChar h

/-! ## Underscores end words -/

theorem goesOn_underscore (t : List Char) : goesOn ('_' :: t) = false := by
  have hpassed : inRanges passedRanges '_'.toNat = false := by decide +kernel
  have hcased : inRanges casedRanges '_'.toNat = false := by decide +kernel
  rw [goesOn, List.dropWhile_cons, hpassed]
  exact hcased

theorem goesOn_append_underscore (s t : List Char) : goesOn (s ++ '_' :: t) = goesOn s := by
  induction s with
  | nil => exact goesOn_underscore t
  | cons c rest ih =>
    cases hpassed : inRanges passedRanges c.toNat with
    | true => rw [List.cons_append, goesOn_cons hpassed, goesOn_cons hpassed, ih]
    | false => simp [goesOn, hpassed]

theorem lowerAt_append_underscore (before : List Char) (c : Char) (s t : List Char) :
    lowerAt before c (s ++ '_' :: t) = lowerAt before c s := by
  unfold lowerAt closesWord
  rw [goesOn_append_underscore]

/-- Nothing before an underscore matters to what stands after it. -/
theorem lowerAfter_before_underscore (near far s : List Char) :
    lowerAfter (near ++ '_' :: far) s = lowerAfter near s := by
  induction s generalizing near with
  | nil => rfl
  | cons c rest ih =>
    have hat : lowerAt (near ++ '_' :: far) c rest = lowerAt near c rest := by
      unfold lowerAt closesWord
      rw [goesOn_append_underscore]
    rw [lowerAfter_cons, lowerAfter_cons, hat]
    exact congrArg _ (ih (c :: near))

theorem lowerAfter_underscore (before s : List Char) :
    lowerAfter ('_' :: before) s = lowerAfter [] s :=
  lowerAfter_before_underscore [] before s

/-- What stands before an underscore and what stands after it go into lower case apart. -/
theorem lowerAfter_append_underscore (before s t : List Char) :
    lowerAfter before (s ++ '_' :: t) = lowerAfter before s ++ '_' :: lowerAfter [] t := by
  induction s generalizing before with
  | nil =>
    rw [List.nil_append, lowerAfter_cons, lowerAt_underscore, lowerAfter_underscore]
    rfl
  | cons c rest ih =>
    rw [List.cons_append, lowerAfter_cons, lowerAt_append_underscore, ih, lowerAfter_cons,
      List.append_assoc]

/-! ## Underscores stay -/

theorem underscore_prefix_of_lowerAfter {before s : List Char}
    (h : ['_'] <+: lowerAfter before s) : ['_'] <+: s := by
  cases s with
  | nil => exact h
  | cons c rest =>
    by_cases hc : c = '_'
    · rw [hc]
      exact ⟨rest, rfl⟩
    · obtain ⟨d, more, hat⟩ := List.exists_cons_of_ne_nil (lowerAt_ne_nil before c rest)
      rw [lowerAfter_cons, hat, List.cons_append, List.cons_prefix_cons] at h
      exact absurd (hat ▸ h.1 ▸ List.mem_cons_self) (underscore_not_mem_lowerAt hc before rest)

/-- Two underscores next to each other in what follows some other characters. -/
theorem underscores_infix_append {s t : List Char} (h : '_' ∉ s) :
    ['_', '_'] <:+: s ++ t ↔ ['_', '_'] <:+: t := by
  induction s with
  | nil => rfl
  | cons c rest ih =>
    obtain ⟨hc, hrest⟩ := not_or.mp (mt List.mem_cons.mpr h)
    rw [List.cons_append, List.infix_cons_iff, ih hrest, List.cons_prefix_cons]
    exact or_iff_right fun hp => hc hp.1

/-- Lower case puts no two underscores next to each other. -/
theorem underscores_infix_of_lowerAfter {before s : List Char}
    (h : ['_', '_'] <:+: lowerAfter before s) : ['_', '_'] <:+: s := by
  induction s generalizing before with
  | nil => exact h
  | cons c rest ih =>
    rw [lowerAfter_cons] at h
    by_cases hc : c = '_'
    · rw [hc, lowerAt_underscore, List.singleton_append, List.infix_cons_iff,
        List.cons_prefix_cons] at h
      rw [hc]
      rcases h with ⟨-, hfirst⟩ | hlater
      · have hnext : ['_'] <+: rest := underscore_prefix_of_lowerAfter hfirst
        exact (List.cons_prefix_cons.mpr ⟨rfl, hnext⟩).isInfix
      · exact List.infix_cons (ih hlater)
    · rw [underscores_infix_append (underscore_not_mem_lowerAt hc before rest)] at h
      exact List.infix_cons (ih h)

end Text
end GpuInventory
