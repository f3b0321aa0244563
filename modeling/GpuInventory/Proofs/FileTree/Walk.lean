import GpuInventory.Proofs.Path.Normal

/-!
Walking a path and reading it textually lead to the same node.

A walk that comes to a node has taken the steps that the names of the path say, so the node is the
one that the absolute form of the path spells out: the tree decides whether the walk comes to an
end, but not where it ends.  Conversely a normal path is walked to the end if its node is there,
because everything above a node is a directory.  Together the two say that the absolute form of a
path that denotes a node denotes it as well, dots, doubled slashes and all.
-/

namespace GpuInventory

namespace FileTree

variable {t : FileTree} {node : Node}

theorem isDirectory_nil (t : FileTree) : t.isDirectory [] = true := rfl

/-- Everything above a node is a directory. -/
theorem isDirectory_of_hasNode_append {below : Node} (hne : below ≠ [])
    (h : t.hasNode (node ++ below) = true) : t.isDirectory node = true := by
  have hprefix : ∀ {other : Node}, node ++ below <+: other → node <+: other :=
    fun hp => (List.prefix_append node below).trans hp
  have hpos : 0 < below.length := List.length_pos_iff.mpr hne
  simp only [hasNode, isDirectory, Bool.or_eq_true, List.any_eq_true, Bool.and_eq_true,
    decide_eq_true_eq, List.isPrefixOf_iff_prefix, List.contains_iff_mem, List.length_append] at h ⊢
  rcases h with ((hempty | ⟨d, hd, hp⟩) | ⟨f, hf, hp, hlt⟩) | hf
  · rw [List.isEmpty_iff, List.append_eq_nil_iff] at hempty
    exact absurd hempty.2 hne
  · exact .inl (.inr ⟨d, hd, hprefix hp⟩)
  · exact .inr ⟨f, hf, hprefix hp, by omega⟩
  · exact .inr ⟨_, hf, List.prefix_append node below, by rw [List.length_append]; omega⟩

/-- A walk ends where its names lead, and there is a node there. -/
theorem eq_of_walkFrom {names : List (List Char)} {reached : Node}
    (h : t.walkFrom node names = some reached) :
    reached = names.foldl step node ∧ (names ≠ [] → t.hasNode reached = true) := by
  fun_induction walkFrom t node names with
  | case1 node =>
    cases h
    exact ⟨rfl, fun hne => absurd rfl hne⟩
  | case2 node name hnode =>
    cases h
    exact ⟨rfl, fun _ => hnode⟩
  | case3 node name hnode => cases h
  | case4 node name rest hrest hdir ih =>
    obtain ⟨hreached, hnode⟩ := ih h
    exact ⟨hreached, fun _ => hnode hrest⟩
  | case5 node name rest hrest hdir => cases h

/-- Proper names are walked to the end if there is a node there. -/
theorem walkFrom_of_hasNode {names : List (List Char)} (hne : names ≠ [])
    (hnames : ∀ name ∈ names, Path.IsName name) (h : t.hasNode (node ++ names) = true) :
    t.walkFrom node names = some (node ++ names) := by
  induction names generalizing node with
  | nil => exact absurd rfl hne
  | cons name rest ih =>
    have hstep : step node name = node ++ [name] :=
      Path.step_of_isName (hnames name List.mem_cons_self) node
    have hsplit : node ++ name :: rest = step node name ++ rest := by
      rw [hstep, List.append_assoc]
      rfl
    rw [hsplit] at h ⊢
    cases rest with
    | nil =>
      rw [List.append_nil] at h ⊢
      rw [walkFrom, if_pos h]
    | cons next rest =>
      have hdir : t.isDirectory (step node name) = true :=
        isDirectory_of_hasNode_append (List.cons_ne_nil next rest) h
      rw [walkFrom, if_pos hdir]
      · exact ih (List.cons_ne_nil next rest)
          (fun n hn => hnames n (List.mem_cons_of_mem name hn)) h
      · exact List.cons_ne_nil next rest

theorem walkFrom_root (t : FileTree) {names : List (List Char)} (hne : names ≠ []) :
    t.walkFrom [] ([] :: names) = t.walkFrom [] names := by
  obtain ⟨name, rest, rfl⟩ := List.exists_cons_of_ne_nil hne
  exact if_pos t.isDirectory_nil

end FileTree

namespace Place

variable {p : Place} {path : List Char} {node : Node}

/-- Where a path leads that denotes a node. -/
theorem eq_of_walk (h : p.walk path = some node) :
    node = (Path.names path).foldl FileTree.step (if Path.isAbsolute path then [] else p.home) ∧
      p.tree.hasNode node = true := by
  unfold walk at h
  split at h
  · cases h
  · obtain ⟨hnode, hthere⟩ := FileTree.eq_of_walkFrom h
    exact ⟨hnode, hthere (Text.parts_ne_nil '/' path)⟩

theorem ne_nil_of_walk (h : p.walk path = some node) : path ≠ [] := by
  rintro rfl
  cases h

/-- A normal path denotes the node that it spells out, if that is there. -/
theorem walk_of_spells (hspells : Path.Spells path node) (h : p.tree.hasNode node = true) :
    p.walk path = some node := by
  have hroot : p.tree.walkFrom [] (Text.parts '/' (Text.joined ['/'] node)) = some node := by
    cases node with
    | nil => rfl
    | cons name rest =>
      have hslash : ∀ n ∈ name :: rest, '/' ∉ n := fun n hn => (hspells.1 n hn).2.2.2
      rw [Text.parts_joined (List.cons_ne_nil name rest) hslash]
      exact FileTree.walkFrom_of_hasNode (List.cons_ne_nil name rest) hspells.1 h
  have hparts : Text.parts '/' (Text.joined ['/'] node) ≠ [] := Text.parts_ne_nil '/' _
  obtain ⟨habsolute, hnames⟩ := Path.names_of_spells hspells
  have hne : path.isEmpty = false := by
    rw [List.isEmpty_eq_false_iff]
    rintro rfl
    cases habsolute
  rw [walk, hne, if_neg Bool.false_ne_true, if_pos habsolute]
  rcases hnames with hnames | hnames
  · rw [hnames, FileTree.walkFrom_root _ hparts, hroot]
  · rw [hnames, FileTree.walkFrom_root _ (List.cons_ne_nil _ _), FileTree.walkFrom_root _ hparts,
      hroot]

/-- The absolute form of a path that denotes a node spells out the node. -/
theorem spells_of_walk (h : p.walk path = some node) : Path.Spells (p.absolute path) node := by
  rw [(eq_of_walk h).1]
  exact Path.spells_absolute p.directory path

/-- The absolute form of a path denotes what the path denotes. -/
theorem walk_absolute (h : p.walk path = some node) : p.walk (p.absolute path) = some node :=
  walk_of_spells (spells_of_walk h) (eq_of_walk h).2

/-- A proper name below a path that denotes a directory spells out the child of that name. -/
theorem spells_join_of_walk {name : List Char} (hname : Path.IsName name)
    (h : p.walk path = some node) :
    Path.Spells (p.absolute (Path.join path name)) (node ++ [name]) := by
  have hrelative : Path.isAbsolute name = false := by
    unfold Path.isAbsolute
    split
    · exact absurd List.mem_cons_self hname.2.2.2
    · rfl
  have hspells := Path.spells_absolute p.directory (Path.join path name)
  rw [Path.isAbsolute_join (ne_nil_of_walk h) hrelative, Path.foldl_names_join hrelative,
    ← home, ← (eq_of_walk h).1, Path.names, Text.parts_of_not_mem hname.2.2.2] at hspells
  rwa [List.foldl_cons, List.foldl_nil, Path.step_of_isName hname] at hspells

end Place
end GpuInventory
