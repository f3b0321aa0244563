import GpuInventory.Proofs.Numeral.Short
import GpuInventory.Report

/-!
The devices of an inventory.

They are numbered in the order of the GPUs, so no two of them are the same, whatever the minor
numbers are: a report may repeat them, and they may be negative.  A minor number comes from a reader
of numbers and is short for that reason; an index is short as long as there are not too many GPUs.
-/

namespace GpuInventory

namespace Report

/-! ## What it takes for a report to be accepted -/

theorem gpusFrom_cons_eq_ok {position : Nat} {e : Xml.Element} {rest : List Xml.Element}
    {gpus : List Gpu} (h : gpusFrom position (e :: rest) = .ok gpus) :
    ∃ n tail, minorNumber position e = .ok n ∧ gpusFrom (position + 1) rest = .ok tail ∧
      gpus = gpuOf n e :: tail := by
  rw [gpusFrom] at h
  split at h
  · cases h
  · next n hn =>
    split at h
    · cases h
    · next tail ht =>
      cases h
      exact ⟨n, tail, hn, ht, rfl⟩

theorem read_eq_ok {text : List Char} {describe : List Char → String} {inventory : Inventory}
    (h : read text describe = .ok inventory) :
    ∃ root, Xml.readDocument text = some root ∧ root.tag = rootTag ∧
      gpusFrom 0 (elementsAt ["gpu"] root) = .ok inventory.gpus := by
  unfold read at h
  split at h
  · cases h
  · next root hroot =>
    unfold ofElement at h
    split at h
    · cases h
    · next htag =>
      split at h
      · cases h
      · next gpus hgpus =>
        cases h
        exact ⟨root, hroot, Decidable.not_not.mp htag, hgpus⟩

/-! ## Its minor numbers -/

theorem isShort_of_minorNumber {position : Nat} {e : Xml.Element} {n : Int}
    (h : minorNumber position e = .ok n) : Numeral.IsShort n := by
  unfold minorNumber at h
  split at h
  · cases h
  · split at h
    · cases h
    · next i hi =>
      cases h
      exact Numeral.isShort_of_readInt? hi

theorem isShort_of_gpusFrom {position : Nat} {elements : List Xml.Element} {gpus : List Gpu}
    (h : gpusFrom position elements = .ok gpus) : ∀ g ∈ gpus, Numeral.IsShort g.minorNumber := by
  induction elements generalizing position gpus with
  | nil =>
    cases h
    simp
  | cons e rest ih =>
    obtain ⟨n, tail, hn, ht, rfl⟩ := gpusFrom_cons_eq_ok h
    intro g hmem
    rcases List.mem_cons.mp hmem with rfl | hmem
    · exact isShort_of_minorNumber hn
    · exact ih ht g hmem

theorem isShort_of_read {text : List Char} {describe : List Char → String} {inventory : Inventory}
    (h : read text describe = .ok inventory) :
    ∀ g ∈ inventory.gpus, Numeral.IsShort g.minorNumber := by
  obtain ⟨root, -, -, hgpus⟩ := read_eq_ok h
  exact isShort_of_gpusFrom hgpus

end Report

namespace Inventory

/-- The devices are the GPUs with their positions. -/
theorem mem_devicesFrom_iff {first : Nat} {gpus : List Gpu} {d : Device} :
    d ∈ devicesFrom first gpus ↔
      ∃ k g, gpus[k]? = some g ∧ d = ⟨(first + k : Nat), g.minorNumber⟩ := by
  induction gpus generalizing first with
  | nil => simp [devicesFrom]
  | cons g rest ih =>
    rw [devicesFrom, List.mem_cons, ih]
    constructor
    · rintro (rfl | ⟨k, other, hk, rfl⟩)
      · exact ⟨0, g, rfl, rfl⟩
      · refine ⟨k + 1, other, hk, ?_⟩
        rw [Nat.add_right_comm, Nat.add_assoc]
    · rintro ⟨k, other, hk, rfl⟩
      cases k with
      | zero =>
        cases hk
        exact .inl rfl
      | succ k =>
        refine .inr ⟨k, other, hk, ?_⟩
        rw [Nat.add_right_comm, Nat.add_assoc]

theorem getElem?_devicesFrom (first : Nat) (gpus : List Gpu) (k : Nat) :
    (devicesFrom first gpus)[k]? = gpus[k]?.map fun g => ⟨(first + k : Nat), g.minorNumber⟩ := by
  induction gpus generalizing first k with
  | nil => simp [devicesFrom]
  | cons g rest ih =>
    cases k with
    | zero => rfl
    | succ k =>
      rw [devicesFrom, List.getElem?_cons_succ, List.getElem?_cons_succ, ih, Nat.add_right_comm,
        Nat.add_assoc]

theorem nodup_devicesFrom (first : Nat) (gpus : List Gpu) : (devicesFrom first gpus).Nodup := by
  induction gpus generalizing first with
  | nil => exact List.nodup_nil
  | cons g rest ih =>
    refine List.nodup_cons.mpr ⟨fun h => ?_, ih (first + 1)⟩
    -- A later device has a greater index.
    obtain ⟨k, other, -, heq⟩ := mem_devicesFrom_iff.mp h
    have hindex : (first : Int) = (first + 1 + k : Nat) := congrArg Device.index heq
    omega

end Inventory
end GpuInventory
