import GpuInventory.Report
import Mathlib.Logic.Relation

/-!
What a report may hold beside what it is read for.

The tool says more with every release, and the reader passes over what it does not know.  `Edit` is
a change of that kind, anywhere in a document: an element with an unknown tag comes or goes,
whatever is in it, the text after an element is another one, or so is an attribute that is never
asked for.

No such change is seen.  The reason is that a report is read off a part of the document, `prune`,
which is left as it is: every element that a path of known tags leads to is found in that part too,
in the same place, and says the same there.
-/

namespace GpuInventory
namespace Report

open Xml (Element)

/-- The tags below the root that a report is read by. -/
def knownTags : List String :=
  ["driver_version", "gpu", "minor_number", "product_name", "uuid", "fb_memory_usage", "total",
    "used", "temperature", "gpu_temp", "utilization", "gpu_util", "power_readings",
    "gpu_power_readings", "power_draw"]

/-- One change to what a report is not read for. -/
inductive Edit : Element → Element → Prop where
  /-- An element with an unknown tag is put between two children. -/
  | insert (e : Element) (before : List Element) (child : Element) (after : List Element)
    (h : child.tag ∉ knownTags) :
    Edit { e with children := before ++ after } { e with children := before ++ child :: after }
  /-- A child with an unknown tag is taken out. -/
  | delete (e : Element) (before : List Element) (child : Element) (after : List Element)
    (h : child.tag ∉ knownTags) :
    Edit { e with children := before ++ child :: after } { e with children := before ++ after }
  /-- Another text follows the element. -/
  | tail (e : Element) (text : String) : Edit e { e with tail := text }
  | addAttribute (e : Element) (before : List (String × String)) (name value : String)
    (after : List (String × String)) (h : name ≠ "id") :
    Edit { e with attributes := before ++ after }
      { e with attributes := before ++ (name, value) :: after }
  | changeAttribute (e : Element) (before : List (String × String)) (name value value' : String)
    (after : List (String × String)) (h : name ≠ "id") :
    Edit { e with attributes := before ++ (name, value) :: after }
      { e with attributes := before ++ (name, value') :: after }
  | removeAttribute (e : Element) (before : List (String × String)) (name value : String)
    (after : List (String × String)) (h : name ≠ "id") :
    Edit { e with attributes := before ++ (name, value) :: after }
      { e with attributes := before ++ after }
  /-- The change is made in a child, whatever its tag. -/
  | within (e : Element) (before : List Element) {child child' : Element}
    (after : List Element) (h : Edit child child') :
    Edit { e with children := before ++ child :: after }
      { e with children := before ++ child' :: after }

/-! ## The part that is read -/

mutual

/-- What is left of an element without the elements, attributes and texts that are not read. -/
def prune : Element → Element
  | ⟨tag, attributes, text, children, _⟩ =>
    ⟨tag, attributes.filter fun a => a.1 == "id", text, pruneAll children, ""⟩

/-- What is left of the elements that are read. -/
def pruneAll : List Element → List Element
  | [] => []
  | e :: rest => if e.tag ∈ knownTags then prune e :: pruneAll rest else pruneAll rest

end

theorem prune_eq (e : Element) :
    prune e =
      { tag := e.tag
        attributes := e.attributes.filter fun a => a.1 == "id"
        text := e.text
        children := pruneAll e.children
        tail := "" } := by
  cases e
  rw [prune]

theorem pruneAll_eq (elements : List Element) :
    pruneAll elements = (elements.filter fun e => e.tag ∈ knownTags).map prune := by
  induction elements with
  | nil => rw [pruneAll]; rfl
  | cons e rest ih =>
    rw [pruneAll, ih]
    by_cases h : e.tag ∈ knownTags
    · rw [if_pos h, List.filter_cons_of_pos (by simpa using h), List.map_cons]
    · rw [if_neg h, List.filter_cons_of_neg (by simpa using h)]

theorem pruneAll_append (before after : List Element) :
    pruneAll (before ++ after) = pruneAll before ++ pruneAll after := by
  rw [pruneAll_eq, pruneAll_eq, pruneAll_eq, List.filter_append, List.map_append]

theorem pruneAll_cons_of_unknown {e : Element} (h : e.tag ∉ knownTags) (rest : List Element) :
    pruneAll (e :: rest) = pruneAll rest := by
  rw [pruneAll, if_neg h]

/-! ## A change leaves it as it is -/

theorem Edit.tag_eq {e e' : Element} (h : Edit e e') : e.tag = e'.tag := by
  cases h <;> rfl

theorem filter_id_cons {name : String} (h : name ≠ "id") (value : String)
    (before after : List (String × String)) :
    (before ++ (name, value) :: after).filter (fun a => a.1 == "id") =
      (before ++ after).filter fun a => a.1 == "id" := by
  rw [List.filter_append, List.filter_append, List.filter_cons_of_neg (by simpa using h)]

theorem Edit.prune_eq_prune {e e' : Element} (h : Edit e e') : prune e = prune e' := by
  induction h with
  | insert e before child after h =>
    rw [prune_eq, prune_eq, pruneAll_append, pruneAll_append, pruneAll_cons_of_unknown h]
  | delete e before child after h =>
    rw [prune_eq, prune_eq, pruneAll_append, pruneAll_append, pruneAll_cons_of_unknown h]
  | tail e text => rw [prune_eq, prune_eq]
  | addAttribute e before name value after h =>
    rw [prune_eq, prune_eq, filter_id_cons h]
  | changeAttribute e before name value value' after h =>
    rw [prune_eq, prune_eq, filter_id_cons h, filter_id_cons h]
  | removeAttribute e before name value after h =>
    rw [prune_eq, prune_eq, filter_id_cons h]
  | within e before after h ih =>
    -- The tag stays, so the child is kept on both sides or on neither.
    rw [prune_eq, prune_eq, pruneAll_append, pruneAll_append, pruneAll, pruneAll, h.tag_eq, ih]

/-! ## The report is read off it -/

@[simp] theorem tag_prune (e : Element) : (prune e).tag = e.tag := by
  rw [prune_eq]

@[simp] theorem saying?_prune (e : Element) : saying? (prune e) = saying? e := by
  rw [prune_eq, saying?, saying?]

theorem filter_children_prune {tag : String} (h : tag ∈ knownTags) (e : Element) :
    (prune e).children.filter (fun child => child.tag == tag) =
      (e.children.filter fun child => child.tag == tag).map prune := by
  have hknown : ∀ child : Element,
      ((child.tag == tag) && decide (child.tag ∈ knownTags)) = (child.tag == tag) := by
    intro child
    by_cases htag : child.tag = tag
    · simp [htag, h]
    · simp [htag]
  rw [prune_eq, pruneAll_eq, List.filter_map, List.filter_filter]
  simp only [Function.comp_apply, tag_prune, hknown]

/-- A path of known tags leads to the same elements, in the same order. -/
theorem elementsAt_prune {path : List String} (h : ∀ tag ∈ path, tag ∈ knownTags) (e : Element) :
    elementsAt path (prune e) = (elementsAt path e).map prune := by
  induction path generalizing e with
  | nil => rfl
  | cons tag path ih =>
    obtain ⟨htag, hpath⟩ := List.forall_mem_cons.mp h
    rw [elementsAt, elementsAt, filter_children_prune htag, List.flatMap_map, List.map_flatMap]
    simp only [ih hpath]

theorem textAt_prune {path : List String} (h : ∀ tag ∈ path, tag ∈ knownTags) (e : Element) :
    textAt path (prune e) = textAt path e := by
  rw [textAt, textAt, elementsAt_prune h, List.head?_map]
  cases (elementsAt path e).head? with
  | none => rfl
  | some found => exact saying?_prune found

theorem lookup_filter_id (attributes : List (String × String)) :
    (attributes.filter fun a => a.1 == "id").lookup "id" = attributes.lookup "id" := by
  induction attributes with
  | nil => rfl
  | cons a rest ih =>
    obtain ⟨name, value⟩ := a
    by_cases h : name = "id"
    · subst h
      rfl
    · have hid : ("id" == name) = false := by simpa using Ne.symm h
      rw [List.filter_cons_of_neg (by simpa using h), ih, List.lookup_cons, hid]

theorem busId?_prune (e : Element) : busId? (prune e) = busId? e := by
  rw [busId?, busId?, prune_eq, lookup_filter_id]

theorem minorNumber_prune (position : Nat) (e : Element) :
    minorNumber position (prune e) = minorNumber position e := by
  rw [minorNumber, minorNumber, textAt_prune (by decide)]

theorem gpuOf_prune (n : Int) (e : Element) : gpuOf n (prune e) = gpuOf n e := by
  simp (disch := decide) only [gpuOf, nameAt, powerText, textAt_prune, busId?_prune]

theorem gpusFrom_map_prune (position : Nat) (elements : List Element) :
    gpusFrom position (elements.map prune) = gpusFrom position elements := by
  induction elements generalizing position with
  | nil => rfl
  | cons e rest ih =>
    rw [List.map_cons, gpusFrom, gpusFrom, minorNumber_prune, ih]
    simp only [gpuOf_prune]

/-- A report gives the same inventory, or is refused for the same reason, if nothing is left of it
but what it is read for. -/
theorem ofElement_prune (root : Element) : ofElement (prune root) = ofElement root := by
  simp (disch := decide) only [ofElement, nameAt, tag_prune, elementsAt_prune, textAt_prune,
    gpusFrom_map_prune]

theorem ofElement_eq_of_edits {root root' : Element} (h : Relation.ReflTransGen Edit root root') :
    ofElement root = ofElement root' := by
  induction h with
  | refl => rfl
  | @tail edited edited' _ hedit ih =>
    calc ofElement root = ofElement edited := ih
      _ = ofElement (prune edited) := (ofElement_prune edited).symm
      _ = ofElement (prune edited') := by rw [hedit.prune_eq_prune]
      _ = ofElement edited' := ofElement_prune edited'

/-- What is unknown to the reader is not seen.

Documents that differ by changes to what a report is not read for, one or many and anywhere in them,
give the same inventory or are refused for the same reason, and so do texts of such documents. -/
theorem unknown_not_seen {root root' : Element} (h : Relation.ReflTransGen Edit root root') :
    ofElement root = ofElement root' ∧
      ∀ text text' describe, Xml.readDocument text = some root →
        Xml.readDocument text' = some root' → read text describe = read text' describe := by
  refine ⟨ofElement_eq_of_edits h, fun text text' describe hroot hroot' => ?_⟩
  rw [read, read, hroot, hroot']
  exact ofElement_eq_of_edits h

/-- A GPU within an unknown element is not taken for one of the machine, wherever that element
stands, and its minor number is not asked for. -/
theorem nested_gpu_not_seen :
    let minor : Element := ⟨"minor_number", [], "3 ", [], ""⟩
    let nested : Element := ⟨"mig_devices", [], "", [⟨"gpu", [], "", [], ""⟩], "7"⟩
    let root : Element := ⟨"nvidia_smi_log", [], "", [⟨"gpu", [("id", "0")], "", [minor], ""⟩], ""⟩
    let root' : Element :=
      ⟨"nvidia_smi_log", [], "", [nested, ⟨"gpu", [("id", "0")], "", [nested, minor], ""⟩], ""⟩
    Relation.ReflTransGen Edit root root' ∧
      (ofElement root').toOption.map (fun i => i.gpus.map Gpu.minorNumber) = some [3] := by
  intro minor nested root root'
  have hedits : Relation.ReflTransGen Edit root root' := by
    refine .tail (.single (.insert root [] nested root.children (by decide))) ?_
    exact .within root' [nested] [] (.insert ⟨"gpu", [("id", "0")], "", [], ""⟩ [] nested [minor]
      (by decide))
  refine ⟨hedits, ?_⟩
  rw [← (unknown_not_seen hedits).1]
  dsimp only [root, minor]
  decide

end Report
end GpuInventory
