/-!
Environments: the variables that a process sees, each name once.

One environment can be laid over another; the value of a name is then that of the upper one if it
has the name, and that of the lower one otherwise.
-/

namespace GpuInventory

structure Environment where
  pairs : List (String × String) := []
  nodup_names : (pairs.map Prod.fst).Nodup := by exact List.nodup_nil
deriving DecidableEq, Repr

namespace Environment

def get? (e : Environment) (name : String) : Option String :=
  (e.pairs.find? fun v => v.1 == name).map (·.2)

/-- The variables with one of them given a value: in its place if it is there, and at the end
otherwise. -/
def setIn (name value : String) : List (String × String) → List (String × String)
  | [] => [(name, value)]
  | (n, v) :: rest => if n = name then (n, value) :: rest else (n, v) :: setIn name value rest

theorem mem_names_setIn {name value other : String} {pairs : List (String × String)}
    (h : other ∈ (setIn name value pairs).map Prod.fst) :
    other = name ∨ other ∈ pairs.map Prod.fst := by
  induction pairs with
  | nil => simpa [setIn] using h
  | cons v rest ih =>
    obtain ⟨n, w⟩ := v
    by_cases hn : n = name
    · exact .inr (by simpa [setIn, hn] using h)
    · simp only [setIn, hn, if_false, List.map_cons, List.mem_cons] at h
      rcases h with rfl | h
      · exact .inr List.mem_cons_self
      · exact (ih h).imp_right (List.mem_cons_of_mem n)

theorem nodup_setIn (name value : String) {pairs : List (String × String)}
    (h : (pairs.map Prod.fst).Nodup) : ((setIn name value pairs).map Prod.fst).Nodup := by
  induction pairs with
  | nil => simp [setIn]
  | cons v rest ih =>
    obtain ⟨n, w⟩ := v
    obtain ⟨hnew, hrest⟩ := List.nodup_cons.mp h
    by_cases hn : n = name
    · simpa [setIn, hn] using h
    · rw [setIn, if_neg hn, List.map_cons]
      refine List.nodup_cons.mpr ⟨fun hmem => ?_, ih hrest⟩
      exact (mem_names_setIn hmem).elim hn hnew

def set (e : Environment) (name value : String) : Environment :=
  { pairs := setIn name value e.pairs, nodup_names := nodup_setIn name value e.nodup_names }

def setAll (e : Environment) (pairs : List (String × String)) : Environment :=
  pairs.foldl (fun e v => e.set v.1 v.2) e

/-- An environment under another one. -/
def overlay (lower upper : Environment) : Environment :=
  lower.setAll upper.pairs

/-- The environment of some variables, the last value of a name counting. -/
def ofList (pairs : List (String × String)) : Environment :=
  ({} : Environment).setAll pairs

theorem get?_set_self (e : Environment) (name value : String) :
    (e.set name value).get? name = some value := by
  unfold set get?
  dsimp only
  induction e.pairs with
  | nil => simp [setIn]
  | cons v rest ih =>
    obtain ⟨n, w⟩ := v
    by_cases h : n = name
    · simp [setIn, h]
    · simpa [setIn, h, List.find?_cons] using ih

theorem get?_set_of_ne (e : Environment) {name other : String} (value : String)
    (h : other ≠ name) : (e.set name value).get? other = e.get? other := by
  unfold set get?
  dsimp only
  induction e.pairs with
  | nil => simp [setIn, Ne.symm h]
  | cons v rest ih =>
    obtain ⟨n, w⟩ := v
    by_cases hn : n = name
    · have : ¬ name = other := fun e => h e.symm
      simp [setIn, hn, this]
    · by_cases ho : n = other
      · subst ho
        simp [setIn, h]
      · simpa [setIn, hn, List.find?_cons, ho] using ih

/-- Of variables with different names the one that is asked for counts, wherever it stands. -/
theorem get?_setAll (e : Environment) {pairs : List (String × String)}
    (h : (pairs.map Prod.fst).Nodup) (name : String) :
    (e.setAll pairs).get? name =
      ((pairs.find? fun v => v.1 == name).map (·.2)).or (e.get? name) := by
  induction pairs generalizing e with
  | nil => rfl
  | cons v rest ih =>
    obtain ⟨n, w⟩ := v
    obtain ⟨hnew, hrest⟩ := List.nodup_cons.mp h
    show ((e.set n w).setAll rest).get? name = _
    rw [ih (e.set n w) hrest]
    by_cases hn : n = name
    · subst hn
      have hnone : rest.find? (fun v => v.1 == n) = none := by
        refine List.find?_eq_none.mpr fun v hv hv' => hnew ?_
        exact List.mem_map.mpr ⟨v, hv, eq_of_beq hv'⟩
      simp [hnone, get?_set_self]
    · simp [hn, get?_set_of_ne e w (Ne.symm hn)]

theorem get?_overlay (lower upper : Environment) (name : String) :
    (lower.overlay upper).get? name = (upper.get? name).or (lower.get? name) :=
  get?_setAll lower upper.nodup_names name

end Environment
end GpuInventory
