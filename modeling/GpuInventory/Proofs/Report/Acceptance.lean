import GpuInventory.Proofs.Inventory.Devices
import GpuInventory.Proofs.Numeral.Tolerant
import GpuInventory.Proofs.Text.Blank
import Mathlib.Data.List.Forall2

/-!
Which reports are accepted.

A report stands or falls with its root and with the minor numbers of its GPUs.  `HasMinorNumber`
says in terms of the document what it takes for a GPU: its first child of that name says something,
and what it says reports an integer.  A report in which every GPU has a minor number gives an
inventory, and any other one is blamed on the first GPU that has none.

No other element is asked before the answer is given, and none has a reading that could fail: a
reading that makes no sense is missing.
-/

namespace GpuInventory
namespace Report

open Xml (Element)

/-! ## What a document says -/

/-- The GPUs of a document: the children of its root that have this name. -/
def gpuElements (root : Element) : List Element :=
  root.children.filter fun child => child.tag == "gpu"

/-- Whether the first child with a tag says a text: its leading text without the blanks at the ends,
if that is not empty and not the mark of a value that is not available. -/
def Says (tag : String) (e : Element) (text : List Char) : Prop :=
  ∃ child, e.children.find? (fun child => child.tag == tag) = some child ∧
    text = Text.trim child.text.toList ∧ text ≠ [] ∧ text ≠ "N/A".toList

/-- Whether a GPU has a minor number. -/
def HasMinorNumber (gpu : Element) (n : Int) : Prop :=
  ∃ text, Says "minor_number" gpu text ∧ Numeral.Reports text n

/-- What is wrong with the GPU at a position. -/
inductive Blames (position : Nat) (gpu : Element) : Fault → Prop where
  | missing (h : ∀ text, ¬ Says "minor_number" gpu text) :
    Blames position gpu (.noMinorNumber position)
  | unreadable {text : List Char} (h : Says "minor_number" gpu text)
    (hn : ∀ n, ¬ Numeral.Reports text n) :
    Blames position gpu (.invalidMinorNumber position (String.ofList text))

theorem elementsAt_singleton (tag : String) (e : Element) :
    elementsAt [tag] e = e.children.filter fun child => child.tag == tag := by
  rw [elementsAt]
  exact List.flatMap_singleton' _

theorem saying?_eq_some_iff {e : Element} {text : List Char} :
    saying? e = some text ↔
      text = Text.trim e.text.toList ∧ text ≠ [] ∧ text ≠ "N/A".toList := by
  unfold saying?
  dsimp only
  split
  · next hnothing =>
    rw [Bool.or_eq_true, List.isEmpty_iff, beq_iff_eq] at hnothing
    constructor
    · intro h
      cases h
    · rintro ⟨rfl, hne, hmark⟩
      exact absurd hnothing (not_or.mpr ⟨hne, hmark⟩)
  · next hsaid =>
    rw [Bool.or_eq_true, List.isEmpty_iff, beq_iff_eq, not_or] at hsaid
    constructor
    · intro h
      cases h
      exact ⟨rfl, hsaid⟩
    · rintro ⟨rfl, -⟩
      rfl

theorem textAt_singleton_eq_some_iff {tag : String} {e : Element} {text : List Char} :
    textAt [tag] e = some text ↔ Says tag e text := by
  rw [textAt, elementsAt_singleton, List.head?_filter, Option.bind_eq_some_iff]
  simp only [saying?_eq_some_iff]
  rfl

theorem textAt_singleton_eq_none_iff {tag : String} {e : Element} :
    textAt [tag] e = none ↔ ∀ text, ¬ Says tag e text := by
  rw [Option.eq_none_iff_forall_ne_some]
  exact forall_congr' fun _ => not_congr textAt_singleton_eq_some_iff

/-- Whatever is read, at a path of any length, has a first word: the number in front of a unit is
looked for in a text that holds something. -/
theorem words_of_textAt {path : List String} {e : Element} {text : List Char}
    (h : textAt path e = some text) : ∃ more, Text.words text = Text.firstWord text :: more := by
  obtain ⟨found, -, hsaid⟩ := Option.bind_eq_some_iff.mp h
  obtain ⟨rfl, hne, -⟩ := saying?_eq_some_iff.mp hsaid
  exact Text.words_eq_firstWord_cons (Text.trim_trim_ne_nil hne)

/-! ## One GPU -/

theorem minorNumber_eq_ok_iff {position : Nat} {gpu : Element} {n : Int} :
    minorNumber position gpu = .ok n ↔ HasMinorNumber gpu n := by
  simp only [HasMinorNumber, ← textAt_singleton_eq_some_iff, ← Numeral.readInt?_eq_some_iff]
  unfold minorNumber
  cases textAt ["minor_number"] gpu with
  | none => simp
  | some text =>
    dsimp only
    cases hn : Numeral.readInt? text <;> simp [hn]

theorem minorNumber_eq_error_iff {position : Nat} {gpu : Element} {fault : Fault} :
    minorNumber position gpu = .error fault ↔ Blames position gpu fault := by
  constructor
  · intro h
    unfold minorNumber at h
    split at h
    · next hnone =>
      cases h
      exact .missing (textAt_singleton_eq_none_iff.mp hnone)
    · next text htext =>
      split at h
      · next hnone =>
        cases h
        exact .unreadable (textAt_singleton_eq_some_iff.mp htext)
          (Numeral.readInt?_eq_none_iff.mp hnone)
      · cases h
  · intro h
    unfold minorNumber
    cases h with
    | missing h => rw [textAt_singleton_eq_none_iff.mpr h]
    | unreadable h hn =>
      rw [textAt_singleton_eq_some_iff.mpr h]
      dsimp only
      rw [Numeral.readInt?_eq_none_iff.mpr hn]

/-! ## All GPUs -/

theorem gpusFrom_eq_ok_iff {position : Nat} {elements : List Element} {gpus : List Gpu} :
    gpusFrom position elements = .ok gpus ↔
      List.Forall₂ (fun e g => HasMinorNumber e g.minorNumber ∧ g = gpuOf g.minorNumber e)
        elements gpus := by
  induction elements generalizing position gpus with
  | nil =>
    rw [gpusFrom, List.forall₂_nil_left_iff]
    exact ⟨fun h => (Except.ok.inj h).symm, fun h => by rw [h]⟩
  | cons e rest ih =>
    rw [List.forall₂_cons_left_iff]
    constructor
    · intro h
      obtain ⟨n, tail, hn, htail, rfl⟩ := gpusFrom_cons_eq_ok h
      exact ⟨gpuOf n e, tail, ⟨minorNumber_eq_ok_iff.mp hn, rfl⟩, ih.mp htail, rfl⟩
    · rintro ⟨g, tail, ⟨hn, hg⟩, htail, rfl⟩
      rw [gpusFrom, minorNumber_eq_ok_iff.mpr hn, ih.mpr htail]
      dsimp only
      rw [← hg]

theorem gpusFrom_cons_eq_error_iff {position : Nat} {e : Element} {rest : List Element}
    {fault : Fault} :
    gpusFrom position (e :: rest) = .error fault ↔
      Blames position e fault ∨
        ∃ n, HasMinorNumber e n ∧ gpusFrom (position + 1) rest = .error fault := by
  simp only [← minorNumber_eq_error_iff, ← @minorNumber_eq_ok_iff position]
  rw [gpusFrom]
  cases minorNumber position e with
  | error own => simp
  | ok n => cases gpusFrom (position + 1) rest <;> simp

/-- The first GPU without a minor number is blamed, with its place among the GPUs. -/
theorem gpusFrom_eq_error_iff {position : Nat} {elements : List Element} {fault : Fault} :
    gpusFrom position elements = .error fault ↔
      ∃ before gpu after, elements = before ++ gpu :: after ∧
        (∀ e ∈ before, ∃ n, HasMinorNumber e n) ∧ Blames (position + before.length) gpu fault := by
  induction elements generalizing position with
  | nil =>
    constructor
    · intro h
      cases h
    · rintro ⟨before, gpu, after, h, -⟩
      simp at h
  | cons e rest ih =>
    -- The places of the others are counted from the next one on.
    have hshift : ∀ before : List Element,
        position + 1 + before.length = position + (e :: before).length := by
      intro before
      rw [List.length_cons]
      omega
    rw [gpusFrom_cons_eq_error_iff, ih]
    constructor
    · rintro (hblames | ⟨n, hn, before, gpu, after, rfl, hbefore, hgpu⟩)
      · exact ⟨[], e, rest, rfl, List.forall_mem_nil _, hblames⟩
      · rw [hshift] at hgpu
        exact ⟨e :: before, gpu, after, rfl, List.forall_mem_cons.mpr ⟨⟨n, hn⟩, hbefore⟩, hgpu⟩
    · rintro ⟨before, gpu, after, hsplit, hbefore, hgpu⟩
      cases before with
      | nil =>
        cases hsplit
        exact .inl hgpu
      | cons first before =>
        cases hsplit
        obtain ⟨⟨n, hn⟩, hbefore⟩ := List.forall_mem_cons.mp hbefore
        rw [← hshift] at hgpu
        exact .inr ⟨n, hn, before, gpu, after, rfl, hbefore, hgpu⟩

theorem exists_gpusFrom_eq_ok_iff {position : Nat} {elements : List Element} :
    (∃ gpus, gpusFrom position elements = .ok gpus) ↔
      ∀ e ∈ elements, ∃ n, HasMinorNumber e n := by
  induction elements generalizing position with
  | nil => exact ⟨fun _ => List.forall_mem_nil _, fun _ => ⟨[], rfl⟩⟩
  | cons e rest ih =>
    rw [List.forall_mem_cons, ← @ih (position + 1)]
    constructor
    · rintro ⟨gpus, h⟩
      obtain ⟨n, tail, hn, htail, -⟩ := gpusFrom_cons_eq_ok h
      exact ⟨⟨n, minorNumber_eq_ok_iff.mp hn⟩, tail, htail⟩
    · rintro ⟨⟨n, hn⟩, tail, htail⟩
      exact ⟨gpuOf n e :: tail, by rw [gpusFrom, minorNumber_eq_ok_iff.mpr hn, htail]⟩

/-! ## The whole report -/

theorem ofElement_eq_ok_iff {root : Element} {inventory : Inventory} :
    ofElement root = .ok inventory ↔
      root.tag = rootTag ∧ gpusFrom 0 (gpuElements root) = .ok inventory.gpus ∧
        inventory.driverVersion = nameAt ["driver_version"] root := by
  rw [ofElement, elementsAt_singleton, ← gpuElements]
  by_cases htag : root.tag = rootTag
  · rw [if_neg (not_not_intro htag)]
    cases gpusFrom 0 (gpuElements root) with
    | error fault => simp
    | ok gpus =>
      constructor
      · intro h
        cases h
        exact ⟨htag, rfl, rfl⟩
      · rintro ⟨-, hgpus, hversion⟩
        cases hgpus
        rw [← hversion]
  · rw [if_pos htag]
    simp [htag]

theorem ofElement_eq_error_iff {root : Element} {fault : Fault} :
    ofElement root = .error fault ↔
      (root.tag ≠ rootTag ∧ fault = .unexpectedRoot root.tag) ∨
        (root.tag = rootTag ∧ gpusFrom 0 (gpuElements root) = .error fault) := by
  rw [ofElement, elementsAt_singleton, ← gpuElements]
  by_cases htag : root.tag = rootTag
  · rw [if_neg (not_not_intro htag)]
    cases gpusFrom 0 (gpuElements root) <;> simp [htag]
  · rw [if_pos htag]
    simp [htag, eq_comm]

/-- Whether two elements say the same for their minor number, or both say nothing; in all else they
may differ. -/
def SameMinorNumber (e e' : Element) : Prop :=
  ∀ text, Says "minor_number" e text ↔ Says "minor_number" e' text

theorem SameMinorNumber.minorNumber_eq {e e' : Element} (h : SameMinorNumber e e')
    (position : Nat) : minorNumber position e = minorNumber position e' := by
  have htext : textAt ["minor_number"] e = textAt ["minor_number"] e' := by
    refine Option.ext fun text => ?_
    rw [textAt_singleton_eq_some_iff, textAt_singleton_eq_some_iff]
    exact h text
  rw [minorNumber, minorNumber, htext]

theorem gpusFrom_eq_error_iff_of_same {elements elements' : List Element}
    (h : List.Forall₂ SameMinorNumber elements elements') {position : Nat} {fault : Fault} :
    gpusFrom position elements = .error fault ↔ gpusFrom position elements' = .error fault := by
  induction h generalizing position with
  | nil => exact Iff.rfl
  | cons he _ ih =>
    rw [gpusFrom_cons_eq_error_iff, gpusFrom_cons_eq_error_iff, ih]
    simp only [← minorNumber_eq_error_iff, ← @minorNumber_eq_ok_iff position,
      he.minorNumber_eq position]

theorem ofElement_eq_error_iff_of_same {root root' : Element} (htag : root.tag = root'.tag)
    (h : List.Forall₂ SameMinorNumber (gpuElements root) (gpuElements root')) {fault : Fault} :
    ofElement root = .error fault ↔ ofElement root' = .error fault := by
  rw [ofElement_eq_error_iff, ofElement_eq_error_iff, htag, gpusFrom_eq_error_iff_of_same h]

theorem exists_ofElement_eq_ok_iff {root : Element} :
    (∃ inventory, ofElement root = .ok inventory) ↔
      root.tag = rootTag ∧ ∀ gpu ∈ gpuElements root, ∃ n, HasMinorNumber gpu n := by
  rw [← @exists_gpusFrom_eq_ok_iff 0]
  simp only [ofElement_eq_ok_iff]
  constructor
  · rintro ⟨inventory, htag, hgpus, -⟩
    exact ⟨htag, inventory.gpus, hgpus⟩
  · rintro ⟨htag, gpus, hgpus⟩
    exact ⟨{ driverVersion := nameAt ["driver_version"] root, gpus }, htag, hgpus, rfl⟩

theorem read_cases (text : List Char) (describe : List Char → String) :
    (Xml.readDocument text = none ∧ read text describe = .error (.notXml (describe text))) ∨
      ∃ root, Xml.readDocument text = some root ∧ read text describe = ofElement root := by
  unfold read
  cases Xml.readDocument text with
  | none => exact .inl ⟨rfl, rfl⟩
  | some root => exact .inr ⟨root, rfl, rfl⟩

/-- Which reports are accepted, and what the others are told.

A document gives an inventory exactly if its root has the right name and every GPU in it has a minor
number; the inventory then has these GPUs, in the order of the document and with these numbers.  Of
the other documents, one with another root is blamed on its root, and any other one on the first GPU
without a minor number, which is counted from zero: as having none if nothing is said, or else as
having one that is no integer.

Nothing else in a document can make it fail.  Documents whose roots have one name and whose GPUs say
the same minor numbers are blamed alike, whatever else they hold, and where a number is looked for
in front of a unit there is a word to look at.  A text that is no document is called so. -/
theorem accepted_for_minor_numbers :
    (∀ root : Element,
      ((∃ inventory, ofElement root = .ok inventory) ↔
        root.tag = "nvidia_smi_log" ∧ ∀ gpu ∈ gpuElements root, ∃ n, HasMinorNumber gpu n) ∧
      (∀ inventory, ofElement root = .ok inventory ↔
        root.tag = "nvidia_smi_log" ∧
          List.Forall₂ (fun gpu g => HasMinorNumber gpu g.minorNumber ∧ g = gpuOf g.minorNumber gpu)
            (gpuElements root) inventory.gpus ∧
          inventory.driverVersion = nameAt ["driver_version"] root) ∧
      ∀ fault, ofElement root = .error fault ↔
        (root.tag ≠ "nvidia_smi_log" ∧ fault = .unexpectedRoot root.tag) ∨
          (root.tag = "nvidia_smi_log" ∧ ∃ before gpu after,
            gpuElements root = before ++ gpu :: after ∧
            (∀ earlier ∈ before, ∃ n, HasMinorNumber earlier n) ∧
            Blames before.length gpu fault)) ∧
    (∀ root root' : Element, root.tag = root'.tag →
      List.Forall₂ SameMinorNumber (gpuElements root) (gpuElements root') →
      ∀ fault, ofElement root = .error fault ↔ ofElement root' = .error fault) ∧
    (∀ path e text, textAt path e = some text →
      ∃ more, Text.words text = Text.firstWord text :: more) ∧
    (∀ position written,
      (Fault.noMinorNumber position).message =
        "GPU #" ++ Nat.repr position ++ " has no minor_number" ∧
      (Fault.invalidMinorNumber position written).message =
        "GPU #" ++ Nat.repr position ++ " has invalid minor_number " ++
          Text.quotedString written) ∧
    ∀ text describe,
      (Xml.readDocument text = none ∧ read text describe = .error (.notXml (describe text))) ∨
        ∃ root, Xml.readDocument text = some root ∧ read text describe = ofElement root := by
  refine ⟨fun root => ⟨exists_ofElement_eq_ok_iff, fun inventory => ?_, fun fault => ?_⟩,
    fun root root' htag hsame fault => ofElement_eq_error_iff_of_same htag hsame,
    fun path e text => words_of_textAt, fun position written => ⟨rfl, rfl⟩, read_cases⟩
  · rw [ofElement_eq_ok_iff, gpusFrom_eq_ok_iff, rootTag]
  · rw [ofElement_eq_error_iff, gpusFrom_eq_error_iff, rootTag]
    simp only [Nat.zero_add]

end Report
end GpuInventory
