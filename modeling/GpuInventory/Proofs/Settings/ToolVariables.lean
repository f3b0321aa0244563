import GpuInventory.Proofs.Settings.Members
import GpuInventory.Proofs.Text.LowerCase

/-!
Variables for the tool, as settings.

The environment of the tool is a setting of the group for discovery.  It can be given in three ways:
as a member of the JSON for the whole group, as JSON of its own, or one variable at a time, with the
name of the variable for the tool at the end of the name.  If one variable alone speaks of it, then
what that variable holds at its path is the whole setting.

The third way goes through the names of settings, which are taken in lower case, and so is the name
of the variable for the tool.  In the second way the names are those of members of JSON, which are
kept as they are.
-/

namespace GpuInventory

theorem exists_of_bind_eq_ok {ε α β : Type} {x : Except ε α} {f : α → Except ε β} {b : β}
    (h : x >>= f = .ok b) : ∃ a, x = .ok a ∧ f a = .ok b := by
  cases x with
  | error e => cases h
  | ok a => exact ⟨a, rfl, h⟩

namespace Environment

theorem mem_setIn {name value : String} {pairs : List (String × String)} {v : String × String}
    (h : v ∈ setIn name value pairs) : v = (name, value) ∨ v ∈ pairs := by
  induction pairs with
  | nil => exact .inl (List.mem_singleton.mp h)
  | cons w rest ih =>
    obtain ⟨n, old⟩ := w
    rw [setIn] at h
    split at h
    · next hn =>
      rcases List.mem_cons.mp h with hfirst | hrest
      · exact .inl (hn ▸ hfirst)
      · exact .inr (List.mem_cons_of_mem _ hrest)
    · rcases List.mem_cons.mp h with hfirst | hrest
      · exact .inr (List.mem_cons.mpr (.inl hfirst))
      · exact (ih hrest).imp_right (List.mem_cons_of_mem _)

theorem mem_setAll {e : Environment} {pairs : List (String × String)} {v : String × String}
    (h : v ∈ (e.setAll pairs).pairs) : v ∈ e.pairs ∨ v ∈ pairs := by
  induction pairs generalizing e with
  | nil => exact .inl h
  | cons w rest ih =>
    rcases ih (e := e.set w.1 w.2) h with hset | hrest
    · rcases mem_setIn hset with hw | hold
      · exact .inr (List.mem_cons.mpr (.inl hw))
      · exact .inl hold
    · exact .inr (List.mem_cons_of_mem w hrest)

theorem mem_of_get? {e : Environment} {name value : String} (h : e.get? name = some value) :
    (name, value) ∈ e.pairs := by
  obtain ⟨⟨n, v⟩, hfind, rfl⟩ := Option.map_eq_some_iff.mp h
  have hname : n = name :=
    eq_of_beq (List.find?_some (p := fun v : String × String => v.1 == name) hfind)
  exact hname ▸ List.mem_of_find?_eq_some hfind

theorem get?_setAll_of_not_mem {e : Environment} {name : String} {pairs : List (String × String)}
    (h : ∀ v ∈ pairs, v.1 ≠ name) : (e.setAll pairs).get? name = e.get? name := by
  induction pairs generalizing e with
  | nil => rfl
  | cons w rest ih =>
    obtain ⟨hfirst, hrest⟩ := List.forall_mem_cons.mp h
    show ((e.set w.1 w.2).setAll rest).get? name = _
    rw [ih hrest, get?_set_of_ne e w.2 (Ne.symm hfirst)]

/-- The last variable of a name is kept. -/
theorem mem_ofList {v : String × String} {before after : List (String × String)}
    (h : ∀ w ∈ after, w.1 ≠ v.1) : v ∈ (ofList (before ++ v :: after)).pairs := by
  apply mem_of_get?
  have hsplit : ofList (before ++ v :: after) = ((ofList before).set v.1 v.2).setAll after :=
    List.foldl_append
  rw [hsplit, get?_setAll_of_not_mem h, get?_set_self]

/-- If one variable alone has a property, and no other one could take its place, then it is also
the only one with the property in the environment. -/
theorem exists_split_ofList {q : String × String → Bool} {v : String × String}
    {pairs : List (String × String)} (h : pairs.filter q = [v])
    (hname : ∀ w : String × String, w.1 = v.1 → q w = true) :
    ∃ before after, (ofList pairs).pairs = before ++ v :: after ∧
      (∀ w ∈ before, q w = false) ∧ ∀ w ∈ after, q w = false := by
  obtain ⟨first, last, rfl, -, -, hlast⟩ := List.filter_eq_cons_iff.mp h
  have hkept : v ∈ (ofList (first ++ v :: last)).pairs := by
    refine mem_ofList fun w hw heq => ?_
    exact List.filter_eq_nil_iff.mp hlast w hw (hname w heq)
  obtain ⟨before, after, hpairs⟩ := List.append_of_mem hkept
  -- Each name stands there once, so whatever else has the property would have to be `v` itself.
  have hnew : v.1 ∉ (before ++ after).map Prod.fst := by
    have hnodup := (ofList (first ++ v :: last)).nodup_names
    rw [hpairs, (List.perm_middle.map Prod.fst).nodup_iff, List.map_cons] at hnodup
    exact (List.nodup_cons.mp hnodup).1
  have honly : ∀ w ∈ before ++ after, q w = false := by
    intro w hw
    have hgiven : w ∈ first ++ v :: last := by
      have hmem : w ∈ (ofList (first ++ v :: last)).pairs := by
        rw [hpairs]
        exact List.perm_middle.mem_iff.mpr (List.mem_cons_of_mem v hw)
      exact (mem_setAll hmem).resolve_left List.not_mem_nil
    rw [← Bool.not_eq_true]
    intro hq
    have hfiltered : w ∈ (first ++ v :: last).filter q := List.mem_filter.mpr ⟨hgiven, hq⟩
    rw [h, List.mem_singleton] at hfiltered
    exact hnew (List.mem_map.mpr ⟨w, hw, congrArg Prod.fst hfiltered⟩)
  exact ⟨before, after, hpairs, fun w hw => honly w (List.mem_append_left _ hw),
    fun w hw => honly w (List.mem_append_right _ hw)⟩

end Environment

namespace Settings

/-! ## What speaks of the environment of the tool -/

/-- Whether a name is, in lower case, that of the setting for the environment of the tool. -/
def isToolEnvironment (name : String) : Bool :=
  Text.lower name == "environment"

/-- Whether the JSON of the whole group speaks of the environment of the tool.  A null does, since
then nothing is left of the group. -/
def groupSpeaks : Option Json → Bool
  | some (.object members) => members.any fun m => isToolEnvironment m.1
  | some .null => true
  | _ => false

/-- Whether a variable speaks of the environment of the tool, if its name is in lower case. -/
def speaks (v : String × String) : Bool :=
  (v.1 == variableStart ++ "discovery" && groupSpeaks (Json.parse? v.2)) ||
    ((pathIn? "discovery" v.1).bind List.head?).any isToolEnvironment

def lowered (v : String × String) : String × String :=
  (Text.lower v.1, v.2)

/-- Whether a variable speaks of the environment of the tool. -/
def addressesTool (v : String × String) : Bool :=
  speaks (lowered v)

theorem lower_environment : Text.lower "environment" = "environment" := by
  decide +kernel

theorem isToolEnvironment_environment : isToolEnvironment "environment" = true :=
  beq_iff_eq.mpr lower_environment

theorem pathIn?_group : pathIn? "discovery" (variableStart ++ "discovery") = none := by
  decide +kernel

theorem speaks_of_path {v : String × String} {rest : List String}
    (h : pathIn? "discovery" v.1 = some ("environment" :: rest)) : speaks v = true := by
  rw [speaks, h, Bool.or_eq_true]
  exact .inr isToolEnvironment_environment

/-! ## The members of the group -/

/-- What a variable does to the members of a group. -/
def putVariable (group : String) (members : List (String × Json)) (v : String × String) :
    Option (List (String × Json)) :=
  match pathIn? group v.1 with
  | none => some members
  | some path => (held? group path v.2).map fun json => put json path members

theorem ownMembers?_eq_foldlM (group : String) (given : List (String × String)) :
    ownMembers? group given = given.foldlM (putVariable group) [] := rfl

/-- What a path leads to, where there was nothing before. -/
def atPath (value : Json) : List String → Json
  | [] => value
  | name :: path => .object [(name, atPath value path)]

theorem put_nil (value : Json) (name : String) (path : List String) :
    put value (name :: path) [] = [(name, atPath value path)] := by
  induction path generalizing name with
  | nil => rfl
  | cons next rest ih =>
    rw [put, atPath, ← ih next]
    · rfl
    · exact List.cons_ne_nil next rest

/-- Of some variables one alone speaks, and what it speaks of is this part of the setting. -/
structure SpeaksAlone (before : List (String × String)) (v : String × String)
    (after : List (String × String)) (rest : List String) : Prop where
  before : ∀ w ∈ before, speaks w = false
  after : ∀ w ∈ after, speaks w = false
  path : pathIn? "discovery" v.1 = some ("environment" :: rest)

section Members

variable {before after : List (String × String)} {v : String × String} {rest : List String}
  {json : Json}

theorem filter_putVariable {members next : List (String × Json)} (hv : speaks v = false)
    (h : putVariable "discovery" members v = some next) :
    next.filter (fun m => isToolEnvironment m.1) =
      members.filter fun m => isToolEnvironment m.1 := by
  rw [speaks, Bool.or_eq_false_iff] at hv
  rw [putVariable] at h
  cases hpath : pathIn? "discovery" v.1 with
  | none =>
    rw [hpath] at h
    cases h
    rfl
  | some path =>
    rw [hpath] at h hv
    obtain ⟨json, -, rfl⟩ := Option.map_eq_some_iff.mp h
    cases path with
    | nil => rfl
    | cons head rest => exact filter_put_of_false hv.2 json rest members

theorem filter_foldlM_putVariable {given : List (String × String)}
    (hsilent : ∀ v ∈ given, speaks v = false) {members next : List (String × Json)}
    (h : given.foldlM (putVariable "discovery") members = some next) :
    next.filter (fun m => isToolEnvironment m.1) =
      members.filter fun m => isToolEnvironment m.1 := by
  induction given generalizing members with
  | nil =>
    cases h
    rfl
  | cons v rest ih =>
    obtain ⟨hv, hrest⟩ := List.forall_mem_cons.mp hsilent
    rw [List.foldlM_cons] at h
    obtain ⟨middle, hfirst, hlast⟩ := Option.bind_eq_some_iff.mp h
    rw [ih hrest hlast, filter_putVariable hv hfirst]

theorem filter_ownMembers (hv : SpeaksAlone before v after rest)
    (hheld : held? "discovery" ("environment" :: rest) v.2 = some json)
    {own : List (String × Json)} (h : ownMembers? "discovery" (before ++ v :: after) = some own) :
    own.filter (fun m => isToolEnvironment m.1) = [("environment", atPath json rest)] := by
  rw [ownMembers?_eq_foldlM, List.foldlM_append] at h
  obtain ⟨first, hfirst, hmore⟩ := Option.bind_eq_some_iff.mp h
  rw [List.foldlM_cons] at hmore
  obtain ⟨second, hsecond, hlast⟩ := Option.bind_eq_some_iff.mp hmore
  have hnone : first.filter (fun m => isToolEnvironment m.1) = [] :=
    filter_foldlM_putVariable hv.before hfirst
  have hput : second = put json ("environment" :: rest) first := by
    rw [putVariable, hv.path] at hsecond
    dsimp only at hsecond
    rw [hheld] at hsecond
    exact (Option.some.inj hsecond).symm
  rw [filter_foldlM_putVariable hv.after hlast, hput,
    filter_put_of_nil isToolEnvironment_environment json rest hnone, put_nil]

/-- The variable of the whole group does not speak either: its name is too short to be the one. -/
theorem groupSpeaks_of_lookup (hv : SpeaksAlone before v after rest) {text : String}
    (h : (before ++ v :: after).lookup (variableStart ++ "discovery") = some text) :
    groupSpeaks (Json.parse? text) = false := by
  obtain ⟨front, back, hsplit, -⟩ := List.lookup_eq_some_iff.mp h
  have hmem : (variableStart ++ "discovery", text) ∈ before ++ v :: after := by
    rw [hsplit]
    exact List.mem_append_right _ List.mem_cons_self
  have hsilent : speaks (variableStart ++ "discovery", text) = false := by
    rcases List.mem_append.mp hmem with hm | hm
    · exact hv.before _ hm
    · rcases List.mem_cons.mp hm with rfl | hm
      · have hpath := hv.path
        rw [pathIn?_group] at hpath
        cases hpath
      · exact hv.after _ hm
  rw [speaks, Bool.or_eq_false_iff, beq_self_eq_true, Bool.true_and] at hsilent
  exact hsilent.1

/-- What is read for the group, if one variable alone speaks of the environment of the tool: if it
is an object, that is what the variable holds. -/
theorem groupValue?_discovery (hv : SpeaksAlone before v after rest)
    (hheld : held? "discovery" ("environment" :: rest) v.2 = some json) {value : Option Json}
    (h : groupValue? "discovery" (before ++ v :: after) = .ok value) :
    ∃ read, value = some read ∧ ∀ members, read = .object members →
      members.filter (fun m => isToolEnvironment m.1) = [("environment", atPath json rest)] := by
  have hown : ∀ own, ownMembers? "discovery" (before ++ v :: after) = some own →
      own.filter (fun m => isToolEnvironment m.1) = [("environment", atPath json rest)] :=
    fun own => filter_ownMembers hv hheld
  unfold groupValue? at h
  cases hlookup : (before ++ v :: after).lookup (variableStart ++ "discovery") with
  | none =>
    rw [hlookup] at h
    cases ho : ownMembers? "discovery" (before ++ v :: after) with
    | none =>
      rw [ho] at h
      cases h
    | some own =>
      have hmember := hown own ho
      rw [ho] at h
      cases own with
      | nil => cases hmember
      | cons m more =>
        cases h
        refine ⟨_, rfl, fun members heq => ?_⟩
        cases heq
        exact hmember
  | some text =>
    rw [hlookup] at h
    dsimp only at h
    have hgroup := groupSpeaks_of_lookup hv hlookup
    cases hparse : Json.parse? text with
    | none =>
      rw [hparse] at h
      cases h
    | some whole =>
      rw [hparse] at h hgroup
      cases whole with
      | null => cases hgroup
      | object members =>
        have hnone : members.filter (fun m => isToolEnvironment m.1) = [] := by
          simpa [groupSpeaks] using hgroup
        cases ho : ownMembers? "discovery" (before ++ v :: after) with
        | none =>
          rw [ho] at h
          cases h
        | some own =>
          rw [ho] at h
          cases h
          refine ⟨_, rfl, fun merged heq => ?_⟩
          cases heq
          exact filter_mergeMembers_of_singleton (p := isToolEnvironment) hnone (hown own ho)
      | _ =>
        cases h
        exact ⟨_, rfl, nofun⟩

end Members

/-! ## Reading the settings -/

theorem result_eq_ok_iff {α : Type} {c : Checked α} {value : α} :
    c.result = .ok value ↔ c.problems = [] ∧ c.value = value := by
  unfold Checked.result
  cases c.problems with
  | nil => simp
  | cons p more => simp

theorem read_eq_ok {given : List (String × String)} {settings : Settings}
    (h : read given = .ok settings) :
    ∃ values, groupValues (Environment.ofList (given.map lowered)).pairs groups = .ok values ∧
      (check (.object values)).result = .ok settings := by
  obtain ⟨values, hvalues, hchecked⟩ := exists_of_bind_eq_ok h
  refine ⟨values, hvalues, ?_⟩
  cases hr : (check (.object values)).result with
  | ok found =>
    rw [hr] at hchecked
    cases hchecked
    rfl
  | error problems =>
    rw [hr] at hchecked
    cases hchecked

theorem groupValues_cons_eq_ok {given : List (String × String)} {group : String}
    {names : List String} {rest : List (String × List String)} {values : List (String × Json)}
    (h : groupValues given ((group, names) :: rest) = .ok values) :
    ∃ value others, groupValue? group given = .ok value ∧
      values = (value.map fun v => (group, withNames names v)).toList ++ others := by
  rw [groupValues] at h
  obtain ⟨value, hvalue, h⟩ := exists_of_bind_eq_ok h
  obtain ⟨others, -, h⟩ := exists_of_bind_eq_ok h
  refine ⟨value, others, hvalue, ?_⟩
  cases value with
  | none =>
    cases h
    rfl
  | some v =>
    cases h
    rfl

theorem group_eq_object {α : Type} {name : String} {default : α}
    {check : List String → Json → Checked α} {value : Json}
    (h : (group name default check (some value)).problems = []) :
    ∃ members, value = .object members := by
  cases value with
  | object members => exact ⟨members, rfl⟩
  | _ => cases h

theorem withNames_eq_object {names : List String} {value : Json} {named : List (String × Json)}
    (h : withNames names value = .object named) : ∃ members, value = .object members := by
  cases value with
  | object members => exact ⟨members, rfl⟩
  | _ => cases h

theorem check_discovery (value : Json) (others : List (String × Json)) :
    (check (.object (("discovery", value) :: others))).value.discovery =
        (group "discovery" {} checkDiscovery (some value)).value ∧
      ((check (.object (("discovery", value) :: others))).problems = [] →
        (group "discovery" {} checkDiscovery (some value)).problems = []) := by
  have hget : Json.get? "discovery" (.object (("discovery", value) :: others)) = some value := by
    simp [Json.get?]
  unfold check
  dsimp only
  rw [hget]
  exact ⟨rfl, fun h => (List.append_eq_nil_iff.mp (List.append_eq_nil_iff.mp h).1).1⟩

/-- If one variable alone speaks of the environment of the tool, then what it holds at its path is
the whole setting. -/
theorem environment_of_read {given : List (String × String)} {settings : Settings}
    {v : String × String} {rest : List String} {json : Json}
    (hread : read given = .ok settings) (hone : given.filter addressesTool = [v])
    (hpath : pathIn? "discovery" (Text.lower v.1) = some ("environment" :: rest))
    (hheld : held? "discovery" ("environment" :: rest) v.2 = some json) :
    settings.discovery.environment =
      (environment ["discovery", "environment"] (some (atPath json rest))).value := by
  obtain ⟨values, hvalues, hresult⟩ := read_eq_ok hread
  obtain ⟨hproblems, rfl⟩ := result_eq_ok_iff.mp hresult
  have honly : (given.map lowered).filter speaks = [lowered v] := by
    rw [List.filter_map]
    exact congrArg (List.map lowered) hone
  have hname : ∀ w : String × String, w.1 = (lowered v).1 → speaks w = true := by
    intro w hw
    have hw' : pathIn? "discovery" w.1 = some ("environment" :: rest) := by
      rw [hw]
      exact hpath
    exact speaks_of_path hw'
  obtain ⟨before, after, hpairs, hbefore, hafter⟩ :=
    Environment.exists_split_ofList honly hname
  rw [hpairs, groups] at hvalues
  obtain ⟨value, others, hgroup, rfl⟩ := groupValues_cons_eq_ok hvalues
  have halone : SpeaksAlone before (lowered v) after rest := ⟨hbefore, hafter, hpath⟩
  obtain ⟨whole, rfl, hmembers⟩ := groupValue?_discovery halone hheld hgroup
  obtain ⟨hdiscovery, hnone⟩ := check_discovery
    (withNames ["path_to_executable", "allowed_devices", "environment"] whole) others
  -- What is read for the group has to be an object, or there would be a problem with it.
  obtain ⟨named, hnamed⟩ := group_eq_object (hnone hproblems)
  obtain ⟨members, rfl⟩ := withNames_eq_object hnamed
  have hfound : Json.get? "environment" (.object named) = some (atPath json rest) := by
    rw [← hnamed]
    exact get?_withNames (by decide) lower_environment (hmembers members rfl)
  refine (congrArg Discovery.environment hdiscovery).trans ?_
  rw [hnamed]
  show (environment _ (Json.get? "environment" (.object named))).value = _
  rw [hfound]
  rfl

/-! ## Variables one by one, and as JSON -/

def toolVariableStart : String := "GPU_DISCOVERY_DISCOVERY__ENVIRONMENT__"

theorem lower_toolVariable (n : String) :
    Text.lower (toolVariableStart ++ n) =
      "gpu_discovery_discovery__environment__" ++ Text.lower n := by
  have hsplit : toolVariableStart.toList =
      "GPU_DISCOVERY_DISCOVERY__ENVIRONMENT_".toList ++ ['_'] := by
    decide +kernel
  have hstart : Text.lowerAfter [] "GPU_DISCOVERY_DISCOVERY__ENVIRONMENT_".toList ++ ['_'] =
      "gpu_discovery_discovery__environment__".toList := by
    decide +kernel
  rw [Text.lower, Text.lower, String.toList_append, hsplit, List.append_assoc,
    List.singleton_append, Text.lowerAfter_append_underscore, List.append_cons, hstart,
    String.ofList_append, String.ofList_toList]

theorem nameParts_eq_singleton {part s : List Char} (h : ¬ ['_', '_'] <:+: s) :
    nameParts part s = [String.ofList (part.reverse ++ s)] := by
  induction s generalizing part with
  | nil => rw [nameParts, List.append_nil]
  | cons c rest ih =>
    rw [List.infix_cons_iff, not_or] at h
    rw [nameParts, ih h.2, List.reverse_cons, List.append_assoc, List.singleton_append]
    rintro more rfl rfl
    exact h.1 ⟨more, rfl⟩

theorem nameParts_toList {s : String} (h : ¬ ['_', '_'] <:+: s.toList) :
    nameParts [] s.toList = [s] := by
  rw [nameParts_eq_singleton h, List.reverse_nil, List.nil_append, String.ofList_toList]

theorem pathIn?_append (group rest : String) :
    pathIn? group (variableStart ++ group ++ partSeparator ++ rest) =
      some (nameParts [] rest.toList) := by
  rw [pathIn?, String.toList_append]
  simp

theorem pathIn?_toolVariable {n : String} (h : ¬ partSeparator.toList <:+: n.toList) :
    pathIn? "discovery" (Text.lower (toolVariableStart ++ n)) =
      some ["environment", Text.lower n] := by
  have hstart : "gpu_discovery_discovery__environment__" =
      variableStart ++ "discovery" ++ partSeparator ++ "environment__" := by
    decide +kernel
  have hsetting : "environment__".toList =
      ['e', 'n', 'v', 'i', 'r', 'o', 'n', 'm', 'e', 'n', 't', '_', '_'] := by
    decide +kernel
  have hlower : ¬ ['_', '_'] <:+: (Text.lower n).toList := by
    rw [Text.lower, String.toList_ofList]
    exact fun hinfix => h (Text.underscores_infix_of_lowerAfter hinfix)
  rw [lower_toolVariable, hstart, String.append_assoc, pathIn?_append, String.toList_append]
  simp [hsetting, nameParts, nameParts_toList hlower]

/-- A variable for the tool that is given by a variable of its own has its name in lower case. -/
theorem environment_of_toolVariable {given : List (String × String)} {settings : Settings}
    {n value : String} (hread : read given = .ok settings)
    (hn : ¬ partSeparator.toList <:+: n.toList)
    (hone : given.filter addressesTool = [(toolVariableStart ++ n, value)]) :
    settings.discovery.environment = .ofList [(Text.lower n, value)] := by
  have hheld : held? "discovery" ["environment", Text.lower n] value = some (.string value) := rfl
  rw [environment_of_read hread hone (pathIn?_toolVariable hn) hheld]
  rfl

theorem parse?_empty : Json.parse? "" = none := by
  simp [Json.parse?, Json.read?, Json.skip, Json.readValue, Json.readPlain]

theorem held?_environment {value : String} {json : Json} (h : Json.parse? value = some json) :
    held? "discovery" ["environment"] value = some json := by
  have hvalue : value.isEmpty = false := by
    rw [← Bool.not_eq_true, String.isEmpty_iff]
    rintro rfl
    rw [parse?_empty] at h
    cases h
  simp [held?, holdsJson, hvalue, h]

theorem environment_object (path : List String) (pairs : List (String × String)) :
    (environment path (some (.object (pairs.map fun v => (v.1, .string v.2))))).value =
      .ofList pairs := by
  show Environment.ofList (List.filterMap _ _) = _
  rw [List.filterMap_map]
  exact congrArg _ (List.filterMap_some)

/-- Variables for the tool that are given as JSON have their names as they are. -/
theorem environment_of_json {given : List (String × String)} {settings : Settings}
    {name value : String} {pairs : List (String × String)} (hread : read given = .ok settings)
    (hname : Text.lower name = "gpu_discovery_discovery__environment")
    (hvalue : Json.parse? value = some (.object (pairs.map fun v => (v.1, .string v.2))))
    (hone : given.filter addressesTool = [(name, value)]) :
    settings.discovery.environment = .ofList pairs := by
  have hstart : "gpu_discovery_discovery__environment" =
      variableStart ++ "discovery" ++ partSeparator ++ "environment" := by
    decide +kernel
  have hpath : pathIn? "discovery" (Text.lower name) = some ["environment"] := by
    rw [hname, hstart, pathIn?_append, nameParts_toList (by decide +kernel)]
  rw [environment_of_read hread hone hpath (held?_environment hvalue)]
  exact environment_object _ pairs

end Settings
end GpuInventory
