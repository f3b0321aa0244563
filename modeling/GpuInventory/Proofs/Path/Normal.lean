import GpuInventory.FileTree
import GpuInventory.Proofs.Text.Separated

/-!
What the absolute form of a path spells out.

`Spells` relates a normal path to the names in it: one slash or two, and then proper names with one
slash between each two.  Making a path absolute is textual.  It takes the names between the slashes
one after another, and the place that they lead to is found by the steps that walking a tree takes,
as `resolve_eq_foldl` says; no more than that is needed to compare the two.

Names are followed from the working directory unless the path is absolute.  `foldl_names_join` is
the reason that this comes to the same as following the joined path from the root.
-/

namespace GpuInventory
namespace Path

open FileTree (step)

/-- Whether a text is a proper name: it leads down from a directory, and by one step. -/
def IsName (name : List Char) : Prop :=
  name ≠ [] ∧ name ≠ ['.'] ∧ name ≠ ['.', '.'] ∧ '/' ∉ name

instance (name : List Char) : Decidable (IsName name) :=
  inferInstanceAs (Decidable (_ ∧ _))

/-- Whether a path is in normal form and holds the names on the way to a node. -/
def Spells (path : List Char) (node : Node) : Prop :=
  (∀ name ∈ node, IsName name) ∧
    ∃ slashes, (slashes = ['/'] ∨ slashes = ['/', '/']) ∧ path = slashes ++ Text.joined ['/'] node

/-! ## Steps -/

theorem step_of_isName {name : List Char} (h : IsName name) (node : Node) :
    step node name = node ++ [name] := by
  obtain ⟨hne, hdot, hdots, -⟩ := h
  rw [step, if_neg (not_or.mpr ⟨hne, hdot⟩), if_neg hdots]

theorem isName_of_mem_step {node : Node} {name : List Char} (hnode : ∀ n ∈ node, IsName n)
    (hslash : '/' ∉ name) : ∀ n ∈ step node name, IsName n := by
  intro n hn
  unfold step at hn
  split at hn
  · exact hnode n hn
  · next hproper =>
    split at hn
    · exact hnode n (List.dropLast_subset node hn)
    · next hdots =>
      rcases List.mem_append.mp hn with hn | hn
      · exact hnode n hn
      · cases List.mem_singleton.mp hn
        exact ⟨fun h => hproper (.inl h), fun h => hproper (.inr h), hdots, hslash⟩

theorem isName_of_mem_foldl_step {names : List (List Char)} {node : Node}
    (hnode : ∀ n ∈ node, IsName n) (hnames : ∀ name ∈ names, '/' ∉ name) :
    ∀ n ∈ names.foldl step node, IsName n := by
  induction names generalizing node with
  | nil => exact hnode
  | cons name rest ih =>
    have hfirst : ∀ n ∈ step node name, IsName n :=
      isName_of_mem_step hnode (hnames name List.mem_cons_self)
    exact ih hfirst fun n hn => hnames n (List.mem_cons_of_mem name hn)

theorem reverse_descend (above : List (List Char)) (name : List Char) :
    (descend above name).reverse = step above.reverse name := by
  unfold descend step
  split
  · rfl
  · split
    · exact List.dropLast_reverse.symm
    · exact List.reverse_cons

theorem resolve_eq_foldl (names : List (List Char)) : resolve names = names.foldl step [] := by
  have hfold : ∀ above : List (List Char),
      (names.foldl descend above).reverse = names.foldl step above.reverse := by
    induction names with
    | nil => exact fun _ => rfl
    | cons name rest ih =>
      intro above
      rw [List.foldl_cons, List.foldl_cons, ih, reverse_descend]
  exact hfold []

/-! ## Joined paths -/

theorem isAbsolute_cons (c : Char) (s t : List Char) : isAbsolute (c :: s) = isAbsolute (c :: t) := by
  by_cases h : c = '/'
  · subst h
    rfl
  · simp [isAbsolute, h]

theorem isAbsolute_join {directory path : List Char} (hdir : directory ≠ [])
    (hpath : isAbsolute path = false) :
    isAbsolute (join directory path) = isAbsolute directory := by
  obtain ⟨c, rest, rfl⟩ := List.exists_cons_of_ne_nil hdir
  unfold join
  rw [hpath, if_neg Bool.false_ne_true]
  split
  · exact isAbsolute_cons c _ _
  · exact isAbsolute_cons c _ _

/-- The names of a joined path lead where those of its two parts lead one after the other. -/
theorem foldl_names_join {directory path : List Char} (h : isAbsolute path = false) (node : Node) :
    (names (join directory path)).foldl step node =
      (names path).foldl step ((names directory).foldl step node) := by
  have hjoin : ∀ front : List Char, (names (front ++ '/' :: path)).foldl step node =
      (names path).foldl step ((names front).foldl step node) := by
    intro front
    rw [names, Text.parts_append, List.foldl_append]
    rfl
  unfold join
  rw [h, if_neg Bool.false_ne_true]
  by_cases hempty : directory = []
  · subst hempty
    rfl
  by_cases hlast : directory.getLast? = some '/'
  · -- the slash at the end of the directory is the one between the two, and no name follows it
    obtain ⟨front, rfl⟩ := List.getLast?_eq_some_iff.mp hlast
    have hfront : (names (front ++ ['/'])).foldl step node = (names front).foldl step node := by
      rw [names, Text.parts_append, List.foldl_append]
      rfl
    rw [if_pos (by simp), hfront, ← hjoin, List.append_assoc]
    rfl
  · rw [if_neg (by simp [hempty, hlast]), hjoin]

theorem resolve_join (directory path : List Char) :
    resolve (names (join directory path)) =
      (names path).foldl step (if isAbsolute path then [] else resolve (names directory)) := by
  rw [resolve_eq_foldl, resolve_eq_foldl]
  by_cases h : isAbsolute path = true
  · rw [join_of_isAbsolute h, if_pos h]
  · rw [if_neg h, foldl_names_join (Bool.not_eq_true _ ▸ h)]

/-! ## Normal forms -/

theorem spells_normalize (path : List Char) : Spells (normalize path) (resolve (names path)) := by
  refine ⟨?_, leadingSlashes path, ?_, rfl⟩
  · rw [resolve_eq_foldl]
    exact isName_of_mem_foldl_step (fun _ h => absurd h List.not_mem_nil)
      fun name hname => Text.not_mem_of_mem_parts hname
  · unfold leadingSlashes
    split
    · exact .inl rfl
    · exact .inr rfl
    · exact .inl rfl

theorem spells_absolute (directory path : List Char) :
    Spells (absolute directory path)
      ((names path).foldl step (if isAbsolute path then [] else resolve (names directory))) := by
  rw [← resolve_join]
  exact spells_normalize (join directory path)

/-- The slashes in front are an empty name each, but no name stands after those of the root. -/
theorem names_of_spells {path : List Char} {node : Node} (h : Spells path node) :
    isAbsolute path = true ∧
      (names path = [] :: Text.parts '/' (Text.joined ['/'] node) ∨
        names path = [] :: [] :: Text.parts '/' (Text.joined ['/'] node)) := by
  obtain ⟨-, slashes, rfl | rfl, rfl⟩ := h
  · exact ⟨rfl, .inl rfl⟩
  · exact ⟨rfl, .inr rfl⟩

end Path
end GpuInventory
