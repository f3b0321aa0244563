/-!
Texts whose parts stand between separators: `parts` takes such a text apart and `joined` writes
one, and each undoes the other as long as no part holds the separator.
-/

namespace GpuInventory
namespace Text

/-- The parts of a text between the separators: one more than there are separators. -/
def parts (sep : Char) : List Char → List (List Char)
  | [] => [[]]
  | c :: rest =>
    if c = sep then [] :: parts sep rest
    else match parts sep rest with
      | [] => [[c]]
      | p :: ps => (c :: p) :: ps

/-- The texts one after another, with `sep` between each two. -/
def joined (sep : List Char) : List (List Char) → List Char
  | [] => []
  | [p] => p
  | p :: q :: ps => p ++ sep ++ joined sep (q :: ps)

/-- The texts one after another, with a comma and a space between each two. -/
def listed (texts : List String) : String :=
  String.ofList (joined [',', ' '] (texts.map String.toList))

theorem parts_ne_nil (sep : Char) (s : List Char) : parts sep s ≠ [] := by
  cases s with
  | nil => simp [parts]
  | cons c rest =>
    unfold parts
    split
    · simp
    · split <;> simp

theorem parts_of_not_mem {sep : Char} {s : List Char} (h : sep ∉ s) : parts sep s = [s] := by
  induction s with
  | nil => rfl
  | cons c rest ih =>
    have hc : c ≠ sep := fun e => h (by simp [e])
    have hr : sep ∉ rest := fun m => h (List.mem_cons_of_mem _ m)
    simp [parts, hc, ih hr]

theorem parts_append_cons {sep : Char} {s : List Char} (h : sep ∉ s) (t : List Char) :
    parts sep (s ++ sep :: t) = s :: parts sep t := by
  induction s with
  | nil => simp [parts]
  | cons c rest ih =>
    have hc : c ≠ sep := fun e => h (by simp [e])
    have hr : sep ∉ rest := fun m => h (List.mem_cons_of_mem _ m)
    simp [parts, hc, ih hr]

/-- Taking a joined text apart gives its parts back, if none of them holds the separator. -/
theorem parts_joined {sep : Char} {ps : List (List Char)} (hne : ps ≠ [])
    (h : ∀ p ∈ ps, sep ∉ p) : parts sep (joined [sep] ps) = ps := by
  induction ps with
  | nil => exact absurd rfl hne
  | cons p rest ih =>
    have hp : sep ∉ p := h p List.mem_cons_self
    cases rest with
    | nil => simpa [joined] using parts_of_not_mem hp
    | cons q qs =>
      have hq := ih (by simp) (fun r hr => h r (List.mem_cons_of_mem _ hr))
      simp only [joined, List.append_assoc, List.cons_append, List.nil_append]
      rw [parts_append_cons hp, hq]

end Text
end GpuInventory
