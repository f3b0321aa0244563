import GpuInventory.Proofs.Xml.Continuation.Document
import GpuInventory.Proofs.Xml.Plain
import GpuInventory.Report

/-!
A report that was cut short is not taken for a smaller inventory.

What is a document up to some place has its element there already, and keeps it whatever follows.  A
report that ends with its element is therefore no report at any earlier place: the element is still
open there, or has not begun, even where an attribute value, a comment or an entity holds what looks
like its end tag.
-/

namespace GpuInventory
namespace Report

/-- Whether the element of a text ends where the text does. -/
def EndsWithElement (text : List Char) : Prop :=
  ∃ root volume, Xml.readElement text = some (root, volume, [])

section Cut

variable {text : List Char} {describe : List Char → String}

theorem read_eq_of_readDocument {root : Xml.Element} (h : Xml.readDocument text = some root) :
    read text describe = ofElement root := by
  rw [read, h]

theorem read_eq_notXml_of_readElement (h : Xml.readElement text = none) :
    read text describe = .error (.notXml (describe text)) := by
  rw [read, Xml.readDocument, h]
  rfl

theorem readDocument_of_read {inventory : Inventory} (h : read text describe = .ok inventory) :
    ∃ root, Xml.readDocument text = some root := by
  unfold read at h
  split at h
  · cases h
  · next root hroot => exact ⟨root, hroot⟩

/-- No beginning of a report is taken for another report.

It is no document, or it lacks nothing but what may follow the element and gives the same inventory.
If nothing follows the element of the report then every beginning but the whole is no document. -/
theorem truncated_not_smaller {cut : List Char} {inventory : Inventory}
    (hread : read text describe = .ok inventory) (hcut : cut <+: text) :
    (read cut describe = .error (.notXml (describe cut)) ∨ read cut describe = .ok inventory) ∧
      (EndsWithElement text → cut ≠ text →
        read cut describe = .error (.notXml (describe cut))) := by
  obtain ⟨root, hroot⟩ := readDocument_of_read hread
  constructor
  · cases hdocument : Xml.readDocument cut with
    | none => exact .inl (by rw [read, hdocument])
    | some root' =>
      obtain rfl := Xml.readDocument_eq_of_prefix hroot hdocument hcut
      rw [read_eq_of_readDocument hroot] at hread
      exact .inr ((read_eq_of_readDocument hdocument).trans hread)
  · rintro ⟨root', volume, hend⟩ hne
    exact read_eq_notXml_of_readElement (Xml.readElement_eq_none_of_prefix hend hcut hne)

end Cut

/-- A report that is cut behind what looks like its end. -/
theorem truncated_in_comment :
    let describe : List Char → String := fun _ => "unclosed token: line 1, column 16"
    read "<nvidia_smi_log><!--</nvidia_smi_log>--></nvidia_smi_log>".toList describe =
        .ok { driverVersion := "", gpus := [] } ∧
      read "<nvidia_smi_log><!--</nvidia_smi_log>".toList describe =
        .error (.notXml "unclosed token: line 1, column 16") := by
  intro describe
  let text := "<nvidia_smi_log><!--</nvidia_smi_log>--></nvidia_smi_log>".toList
  let root : Xml.Element := ⟨rootTag, [], "", [], ""⟩
  have helement : Xml.readElement text = some (root, (Xml.Volume.start text).upTo [], []) := by
    have htag : Xml.isPlainName rootTag.toList = true := by decide +kernel
    have hopening : text = '<' :: (rootTag.toList ++
      '>' :: "<!--</nvidia_smi_log>--></nvidia_smi_log>".toList) := by decide +kernel
    have hremark : Xml.readItem "<!--</nvidia_smi_log>--></nvidia_smi_log>".toList =
      some (.remark, '<' :: '/' :: (rootTag.toList ++ ['>'])) := by decide +kernel
    rw [hopening, Xml.readElement_of_startTag htag, Xml.readOn_of_item rfl hremark]
    exact Xml.readOn_endTag rfl htag "" [] []
  have hread : read text describe = .ok { driverVersion := "", gpus := [] } :=
    (read_eq_of_readDocument (Xml.readDocument_of_readElement helement rfl)).trans rfl
  have hcut : "<nvidia_smi_log><!--</nvidia_smi_log>".toList <+: text := by decide +kernel
  have hne : "<nvidia_smi_log><!--</nvidia_smi_log>".toList ≠ text := by decide +kernel
  exact ⟨hread, (truncated_not_smaller hread hcut).2 ⟨_, _, helement⟩ hne⟩

end Report
end GpuInventory
