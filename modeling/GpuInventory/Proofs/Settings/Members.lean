import GpuInventory.Settings.Variables

/-!
Members of objects, told apart by a property of their names.

The settings of a group come together member by member: variables put members into an object,
objects are laid over each other, and names are written as they should be.  The lemmas below say
what each of these does to the members whose names have a property.  It leaves them alone if it is
about other names, and it brings in the one member that has the property if none was there before.
-/

namespace GpuInventory

theorem filter_cons_eq_nil_iff {α : Type} {q : α → Bool} {a : α} {l : List α} :
    (a :: l).filter q = [] ↔ q a = false ∧ l.filter q = [] := by
  rw [List.filter_eq_nil_iff, List.forall_mem_cons, List.filter_eq_nil_iff, Bool.not_eq_true]

namespace Json

variable {p : String → Bool} {name : String} {members : List (String × Json)}

theorem get?_eq_head?_filter (name : String) (members : List (String × Json)) :
    get? name (.object members) = (members.filter fun m => m.1 == name).head?.map (·.2) := by
  rw [List.head?_filter]
  rfl

theorem get?_eq_none_of_filter (hp : p name = true) (h : members.filter (fun m => p m.1) = []) :
    get? name (.object members) = none := by
  have hnone : members.find? (fun m => m.1 == name) = none := by
    refine List.find?_eq_none.mpr fun m hm hname => ?_
    exact List.filter_eq_nil_iff.mp h m hm (eq_of_beq hname ▸ hp)
  exact congrArg (Option.map _) hnone

theorem filter_member_of_false (hp : p name = false) (value : Json)
    (members : List (String × Json)) :
    (member name value members).filter (fun m => p m.1) = members.filter fun m => p m.1 := by
  induction members with
  | nil => simp [member, hp]
  | cons m rest ih =>
    obtain ⟨n, v⟩ := m
    by_cases hn : n = name
    · simp [member, hn, hp]
    · simp [member, hn, List.filter_cons, ih]

theorem filter_member_of_nil (hp : p name = true) (value : Json)
    (h : members.filter (fun m => p m.1) = []) :
    (member name value members).filter (fun m => p m.1) = [(name, value)] := by
  induction members with
  | nil => simp [member, hp]
  | cons m rest ih =>
    obtain ⟨n, v⟩ := m
    obtain ⟨hfirst, hrest⟩ := filter_cons_eq_nil_iff.mp h
    have hn : n ≠ name := fun heq => by
      rw [heq, hp] at hfirst
      cases hfirst
    rw [member, if_neg hn, List.filter_cons_of_neg (by simp [hfirst]), ih hrest]

end Json

namespace Settings

variable {p : String → Bool} {name : String} {members : List (String × Json)}

/-! ## Putting a value at a path -/

theorem filter_put_of_false (hp : p name = false) (value : Json) (path : List String)
    (members : List (String × Json)) :
    (put value (name :: path) members).filter (fun m => p m.1) =
      members.filter fun m => p m.1 := by
  cases path with
  | nil => exact Json.filter_member_of_false hp value members
  | cons next rest =>
    rw [put]
    · split
      · exact Json.filter_member_of_false hp _ members
      · exact Json.filter_member_of_false hp _ members
      · rfl
    · exact List.cons_ne_nil next rest

/-- What is put into an object at a name that has the property is all that it then has of it. -/
theorem filter_put_of_nil (hp : p name = true) (value : Json) (path : List String)
    (h : members.filter (fun m => p m.1) = []) :
    (put value (name :: path) members).filter (fun m => p m.1) = put value (name :: path) [] := by
  cases path with
  | nil => exact Json.filter_member_of_nil hp value h
  | cons next rest =>
    rw [put, Json.get?_eq_none_of_filter hp h]
    · exact Json.filter_member_of_nil hp _ h
    · exact List.cons_ne_nil next rest

/-! ## Laying objects over each other -/

section Merge

variable {lower upper : List (String × Json)}

theorem mergeMembers_cons (name : String) (value : Json) (lower upper : List (String × Json)) :
    ∃ merged, mergeMembers lower ((name, value) :: upper) =
        mergeMembers (Json.member name merged lower) upper ∧
      (Json.get? name (.object lower) = none → merged = value) := by
  rw [mergeMembers]
  cases Json.get? name (.object lower) with
  | none => exact ⟨value, rfl, fun _ => rfl⟩
  | some below => exact ⟨mergeValue below value, rfl, nofun⟩

theorem filter_mergeMembers_of_nil (h : upper.filter (fun m => p m.1) = []) :
    (mergeMembers lower upper).filter (fun m => p m.1) = lower.filter fun m => p m.1 := by
  induction upper generalizing lower with
  | nil => rw [mergeMembers]
  | cons m rest ih =>
    obtain ⟨name, value⟩ := m
    obtain ⟨hname, hrest⟩ := filter_cons_eq_nil_iff.mp h
    obtain ⟨merged, heq, -⟩ := mergeMembers_cons name value lower rest
    rw [heq, ih hrest, Json.filter_member_of_false hname]

/-- A member that only the upper object has comes through as it is. -/
theorem filter_mergeMembers_of_singleton {m : String × Json}
    (hlower : lower.filter (fun m => p m.1) = []) (hupper : upper.filter (fun m => p m.1) = [m]) :
    (mergeMembers lower upper).filter (fun m => p m.1) = [m] := by
  induction upper generalizing lower with
  | nil => cases hupper
  | cons first rest ih =>
    obtain ⟨name, value⟩ := first
    obtain ⟨merged, heq, hkept⟩ := mergeMembers_cons name value lower rest
    rw [heq]
    cases hp : p name with
    | true =>
      obtain ⟨rfl, hrest⟩ : (name, value) = m ∧ rest.filter (fun m => p m.1) = [] := by
        simpa [List.filter_cons, hp] using hupper
      rw [filter_mergeMembers_of_nil hrest, hkept (Json.get?_eq_none_of_filter hp hlower)]
      exact Json.filter_member_of_nil hp value hlower
    | false =>
      rw [List.filter_cons_of_neg (by simp [hp])] at hupper
      exact ih ((Json.filter_member_of_false hp merged lower).trans hlower) hupper

end Merge

/-! ## Writing names as they should be -/

/-- A name as it should be written: the one of these that it is in lower case, if there is one. -/
def properName (names : List String) (name : String) : String :=
  (names.find? fun n => n == Text.lower name).getD name

theorem withNames_object (names : List String) (members : List (String × Json)) :
    withNames names (.object members) =
      .object (members.foldl (fun named m => Json.member (properName names m.1) m.2 named) []) :=
  rfl

theorem properName_eq_iff {names : List String} {key : String} (hkey : key ∈ names)
    (hlower : Text.lower key = key) (name : String) :
    properName names name = key ↔ Text.lower name = key := by
  unfold properName
  cases hfind : names.find? fun n => n == Text.lower name with
  | some found =>
    have hfound : found = Text.lower name :=
      eq_of_beq (List.find?_some (p := fun n => n == Text.lower name) hfind)
    rw [Option.getD_some, hfound]
  | none =>
    have habsent : Text.lower name ≠ key := fun heq =>
      List.find?_eq_none.mp hfind key hkey (beq_iff_eq.mpr heq.symm)
    rw [Option.getD_none]
    exact iff_of_false (fun heq => habsent (heq ▸ hlower)) habsent

section Rename

variable {f : String → String} {key : String}

theorem filter_foldl_member_of_nil (h : members.filter (fun m => f m.1 == key) = [])
    (named : List (String × Json)) :
    (members.foldl (fun named m => Json.member (f m.1) m.2 named) named).filter
        (fun m => m.1 == key) = named.filter fun m => m.1 == key := by
  induction members generalizing named with
  | nil => rfl
  | cons m rest ih =>
    obtain ⟨hname, hrest⟩ := filter_cons_eq_nil_iff.mp h
    rw [List.foldl_cons, ih hrest]
    exact Json.filter_member_of_false (p := (· == key)) hname m.2 named

/-- Of members that get new names, the one that gets the name `key` is found under it. -/
theorem filter_foldl_member_of_singleton {named : List (String × Json)} {m : String × Json}
    (hnamed : named.filter (fun m => m.1 == key) = [])
    (h : members.filter (fun m => f m.1 == key) = [m]) :
    (members.foldl (fun named m => Json.member (f m.1) m.2 named) named).filter
      (fun m => m.1 == key) = [(key, m.2)] := by
  induction members generalizing named with
  | nil => cases h
  | cons first rest ih =>
    rw [List.foldl_cons]
    cases hp : f first.1 == key with
    | true =>
      obtain ⟨rfl, hrest⟩ : first = m ∧ rest.filter (fun m => f m.1 == key) = [] := by
        simpa [List.filter_cons, hp] using h
      rw [filter_foldl_member_of_nil hrest, eq_of_beq hp]
      exact Json.filter_member_of_nil (p := (· == key)) (beq_self_eq_true key) first.2 hnamed
    | false =>
      rw [List.filter_cons_of_neg (by simp [hp])] at h
      exact ih ((Json.filter_member_of_false (p := (· == key)) hp first.2 named).trans hnamed) h

end Rename

/-- The one member whose name is a proper one in lower case is found under the proper name. -/
theorem get?_withNames {names : List String} {key : String} {m : String × Json}
    (hkey : key ∈ names) (hlower : Text.lower key = key)
    (h : members.filter (fun m => Text.lower m.1 == key) = [m]) :
    Json.get? key (withNames names (.object members)) = some m.2 := by
  have hsame : members.filter (fun m => properName names m.1 == key) = [m] := by
    rw [← h]
    refine List.filter_congr fun m _ => ?_
    rw [Bool.eq_iff_iff, beq_iff_eq, beq_iff_eq]
    exact properName_eq_iff hkey hlower m.1
  rw [withNames_object, Json.get?_eq_head?_filter,
    filter_foldl_member_of_singleton (f := properName names) rfl hsame]
  rfl

end Settings
end GpuInventory
