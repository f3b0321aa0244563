import GpuInventory.Locator
import GpuInventory.Proofs.FileTree.Walk

/-!
Where the locator finds the tool.

`Leads` says which node the search is after: the file that the configured path denotes, the child of
the directory that it denotes, or what the first of the other candidates denotes that denotes
anything.  It speaks of walks alone.  The theorem says that there is an answer exactly if there is
such a node, and that the answer is the normal path of it, although the locator makes paths absolute
by their text and never looks at the tree to do so.
-/

namespace GpuInventory
namespace Locator

open GpuInventory.Path (IsName Spells)

/-- Whether a search leads to a node. -/
inductive Leads (place : Place) (search : Search) (configured : String) : Node → Prop where
  | file {node : Node} (h : place.walk (search.first configured) = some node)
    (hfile : place.tree.isDirectory node = false) : Leads place search configured node
  | inDirectory {node : Node} (h : place.walk (search.first configured) = some node)
    (hdir : place.tree.isDirectory node = true) :
    Leads place search configured (node ++ [search.name.toList])
  | searched {before : List String} {directory : String} {after : List String} {node : Node}
    (hfirst : place.walk (search.first configured) = none)
    (hsearch : search.directories = before ++ directory :: after)
    (hbefore : ∀ d ∈ before, place.walk (Path.join d.toList search.name.toList) = none)
    (h : place.walk (Path.join directory.toList search.name.toList) = some node) :
    Leads place search configured node

/-! ## The ways of the locator -/

theorem pathExists_iff {place : Place} {path : List Char} :
    place.pathExists path = true ↔ ∃ node, place.walk path = some node :=
  Option.isSome_iff_exists

theorem not_pathExists_iff {place : Place} {path : List Char} :
    ¬ place.pathExists path = true ↔ place.walk path = none :=
  Option.not_isSome_iff_eq_none

theorem locate_of_first {place : Place} {search : Search} {configured : String} {node : Node}
    (h : place.walk (search.first configured) = some node) :
    (locate place search configured).value =
      some (String.ofList (place.absolute
        (if place.tree.isDirectory node then
          Path.join (search.first configured) search.name.toList
        else search.first configured))) := by
  have hdir : place.isDirectory (search.first configured) = place.tree.isDirectory node := by
    rw [Place.isDirectory, h]
    rfl
  unfold locate
  dsimp only
  rw [if_pos (pathExists_iff.mpr ⟨node, h⟩), hdir]
  split <;> rfl

theorem locate_of_missing {place : Place} {search : Search} {configured : String}
    (h : place.walk (search.first configured) = none) :
    (locate place search configured).value =
      (search.candidates.find? place.pathExists).map fun candidate =>
        String.ofList (place.absolute candidate) := by
  unfold locate
  dsimp only
  rw [if_neg (not_pathExists_iff.mpr h)]
  split <;> next hfound => rw [hfound]; rfl

theorem find?_candidates_eq_none_iff {place : Place} {search : Search} :
    search.candidates.find? place.pathExists = none ↔
      ∀ d ∈ search.directories, place.walk (Path.join d.toList search.name.toList) = none := by
  rw [Search.candidates, List.find?_map, Option.map_eq_none_iff, List.find?_eq_none]
  exact forall₂_congr fun d _ => not_pathExists_iff

/-- The candidate that is found belongs to the first directory in which there is one. -/
theorem of_find?_candidates {place : Place} {search : Search} {candidate : List Char}
    (h : search.candidates.find? place.pathExists = some candidate) :
    ∃ before directory after, search.directories = before ++ directory :: after ∧
      (∀ d ∈ before, place.walk (Path.join d.toList search.name.toList) = none) ∧
      candidate = Path.join directory.toList search.name.toList ∧
      ∃ node, place.walk candidate = some node := by
  rw [Search.candidates, List.find?_map, Option.map_eq_some_iff] at h
  obtain ⟨directory, hfound, rfl⟩ := h
  obtain ⟨hthere, before, after, hsplit, hbefore⟩ := List.find?_eq_some_iff_append.mp hfound
  refine ⟨before, directory, after, hsplit, fun d hd => ?_, rfl, pathExists_iff.mp hthere⟩
  have hmissing : ¬ place.pathExists (Path.join d.toList search.name.toList) = true := by
    simpa using hbefore d hd
  exact not_pathExists_iff.mp hmissing

/-! ## The answer -/

/-- What the locator answers, in every tree, from every directory and for every configured path, if
the tool has a proper name.

There is no answer exactly if neither the first path nor any of the candidates denotes anything.
The answer is the normal path of the node that the search leads to.  It denotes the node if that is
there, which can only fail if the first path is a directory.  None of this depends on how a path is
written: the absolute form of any path that denotes a node denotes the same node. -/
theorem locate_spells_place (place : Place) {search : Search} (hname : IsName search.name.toList)
    (configured : String) :
    ((locate place search configured).value = none ↔
        place.walk (search.first configured) = none ∧
          ∀ d ∈ search.directories, place.walk (Path.join d.toList search.name.toList) = none) ∧
      (∀ found, (locate place search configured).value = some found →
        ∃ node, Leads place search configured node ∧ Spells found.toList node ∧
          (place.tree.hasNode node = true ∨ place.isDirectory (search.first configured) = true) ∧
          (place.tree.hasNode node = true → place.walk found.toList = some node)) ∧
      ∀ path node, place.walk path = some node → place.walk (place.absolute path) = some node := by
  refine ⟨?_, ?_, fun path node h => Place.walk_absolute h⟩
  · cases hfirst : place.walk (search.first configured) with
    | some node => simp [locate_of_first hfirst]
    | none =>
      rw [locate_of_missing hfirst, Option.map_eq_none_iff, find?_candidates_eq_none_iff]
      simp
  · intro found hfound
    suffices hnode : ∃ node, Leads place search configured node ∧ Spells found.toList node ∧
        (place.tree.hasNode node = true ∨ place.isDirectory (search.first configured) = true) by
      obtain ⟨node, hleads, hspells, hthere⟩ := hnode
      exact ⟨node, hleads, hspells, hthere, Place.walk_of_spells hspells⟩
    cases hfirst : place.walk (search.first configured) with
    | some node =>
      rw [locate_of_first hfirst] at hfound
      cases hfound
      rw [String.toList_ofList]
      by_cases hdir : place.tree.isDirectory node = true
      · rw [if_pos hdir]
        refine ⟨_, .inDirectory hfirst hdir, Place.spells_join_of_walk hname hfirst, .inr ?_⟩
        rw [Place.isDirectory, hfirst]
        exact hdir
      · rw [if_neg hdir]
        exact ⟨node, .file hfirst (Bool.not_eq_true _ ▸ hdir), Place.spells_of_walk hfirst,
          .inl (Place.eq_of_walk hfirst).2⟩
    | none =>
      rw [locate_of_missing hfirst, Option.map_eq_some_iff] at hfound
      obtain ⟨candidate, hcandidate, rfl⟩ := hfound
      obtain ⟨before, directory, after, hsplit, hbefore, rfl, node, hnode⟩ :=
        of_find?_candidates hcandidate
      rw [String.toList_ofList]
      exact ⟨node, .searched hfirst hsplit hbefore hnode, Place.spells_of_walk hnode,
        .inl (Place.eq_of_walk hnode).2⟩

/-- A directory that is left and entered again on the way, and a tool that is not in it. -/
theorem tool_spelled_below_directory :
    let place : Place := .ofPaths "/work" ["/opt/tools/notes"] []
    let found := "/opt/tools/nvidia-smi"
    IsName ({} : Search).name.toList ∧
      (locate place {} "..//opt/tools/../tools/.").value = some found ∧
      ∃ node, Leads place {} "..//opt/tools/../tools/." node ∧ Spells found.toList node ∧
        (place.tree.hasNode node = true ∨ place.isDirectory "..//opt/tools/../tools/.".toList = true) ∧
        (place.tree.hasNode node = true → place.walk found.toList = some node) := by
  intro place found
  have hname : IsName ({} : Search).name.toList := by decide
  have hfound : (locate place {} "..//opt/tools/../tools/.").value = some found := by
    decide +kernel
  exact ⟨hname, hfound, (locate_spells_place place hname _).2.1 found hfound⟩

end Locator
end GpuInventory
