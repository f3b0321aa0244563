import GpuInventory.Text.Separated

/-!
Taking a text apart at a separator: the parts hold no separator, stand in the text, and are together
all of it.
-/

namespace GpuInventory
namespace Text

theorem joined_parts (sep : Char) (s : List Char) : joined [sep] (parts sep s) = s := by
  induction s with
  | nil => rfl
  | cons c rest ih =>
    obtain ⟨p, ps, hp⟩ := List.exists_cons_of_ne_nil (parts_ne_nil sep rest)
    rw [hp] at ih
    by_cases hc : c = sep
    · have hparts : parts sep (c :: rest) = [] :: p :: ps := by rw [parts, if_pos hc, hp]
      rw [hparts, joined, ih, hc]
      rfl
    · have hparts : parts sep (c :: rest) = (c :: p) :: ps := by rw [parts, if_neg hc, hp]
      rw [hparts, ← ih]
      cases ps <;> rfl

theorem not_mem_of_mem_parts {sep : Char} {s part : List Char} (h : part ∈ parts sep s) :
    sep ∉ part := by
  induction s generalizing part with
  | nil =>
    cases List.mem_singleton.mp h
    exact List.not_mem_nil
  | cons c rest ih =>
    obtain ⟨p, ps, hp⟩ := List.exists_cons_of_ne_nil (parts_ne_nil sep rest)
    rw [parts] at h
    by_cases hc : c = sep
    · rw [if_pos hc] at h
      rcases List.mem_cons.mp h with rfl | h
      · exact List.not_mem_nil
      · exact ih h
    · rw [if_neg hc, hp] at h
      rw [hp] at ih
      rcases List.mem_cons.mp h with rfl | h
      · have hfirst : sep ∉ p := ih List.mem_cons_self
        rw [List.mem_cons, not_or]
        exact ⟨Ne.symm hc, hfirst⟩
      · exact ih (List.mem_cons_of_mem p h)

theorem isPrefix_of_parts_eq_cons {sep : Char} {s first : List Char} {others : List (List Char)}
    (h : parts sep s = first :: others) : first <+: s := by
  induction s generalizing first others with
  | nil =>
    cases h
    exact List.nil_prefix
  | cons c rest ih =>
    rw [parts] at h
    by_cases hc : c = sep
    · rw [if_pos hc] at h
      cases h
      exact List.nil_prefix
    · rw [if_neg hc] at h
      cases hp : parts sep rest with
      | nil => exact absurd hp (parts_ne_nil sep rest)
      | cons p ps =>
        rw [hp] at h
        cases h
        exact List.cons_prefix_cons.mpr ⟨rfl, ih hp⟩

theorem isInfix_of_mem_parts {sep : Char} {s part : List Char} (h : part ∈ parts sep s) :
    part <:+: s := by
  induction s with
  | nil =>
    cases List.mem_singleton.mp h
    exact List.infix_rfl
  | cons c rest ih =>
    rw [parts] at h
    by_cases hc : c = sep
    · rw [if_pos hc] at h
      rcases List.mem_cons.mp h with rfl | h
      · exact List.nil_infix
      · exact List.infix_cons (ih h)
    · rw [if_neg hc] at h
      cases hp : parts sep rest with
      | nil => exact absurd hp (parts_ne_nil sep rest)
      | cons p ps =>
        rw [hp] at h ih
        rcases List.mem_cons.mp h with rfl | h
        · -- the first part has grown by one character
          exact (List.cons_prefix_cons.mpr ⟨rfl, isPrefix_of_parts_eq_cons hp⟩).isInfix
        · exact List.infix_cons (ih (List.mem_cons_of_mem p h))

/-- A text has two parts if the separator stands in it once. -/
theorem parts_eq_pair_iff {sep : Char} {s left right : List Char} :
    parts sep s = [left, right] ↔ s = left ++ sep :: right ∧ sep ∉ left ∧ sep ∉ right := by
  constructor
  · intro h
    have hs : joined [sep] [left, right] = s := by rw [← h, joined_parts]
    have hleft : sep ∉ left := not_mem_of_mem_parts (s := s) (by rw [h]; simp)
    have hright : sep ∉ right := not_mem_of_mem_parts (s := s) (by rw [h]; simp)
    refine ⟨?_, hleft, hright⟩
    rw [← hs, joined, joined]
    simp
  · rintro ⟨rfl, hleft, hright⟩
    rw [parts_append_cons hleft, parts_of_not_mem hright]

/-- Taking two texts with a separator between them apart is taking each of them apart. -/
theorem parts_append (sep : Char) (s t : List Char) :
    parts sep (s ++ sep :: t) = parts sep s ++ parts sep t := by
  induction s with
  | nil => exact if_pos rfl
  | cons c rest ih =>
    obtain ⟨p, ps, hp⟩ := List.exists_cons_of_ne_nil (parts_ne_nil sep rest)
    rw [hp] at ih
    rw [List.cons_append, parts, parts, ih, hp]
    by_cases hc : c = sep
    · rw [if_pos hc, if_pos hc]
      rfl
    · rw [if_neg hc, if_neg hc]
      rfl

end Text
end GpuInventory
