import GpuInventory.Engine
import GpuInventory.Proofs.AllowList.Overlong
import GpuInventory.Proofs.Inventory.Devices

/-!
The devices that may be used, as they are listed by hand and as they are discovered.

An operator who writes down the discovered devices as an allow list gets the same usable devices as
without a list.  That rests on the round trip of allow lists: the devices of an inventory are
different from each other by their indices, and short, their minor numbers because they were read
from a report and their indices because there are not that many GPUs.
-/

namespace GpuInventory

/-- The devices of an accepted report can be written as long as the last index can. -/
theorem Inventory.isShort_devices_iff {inventory : Inventory}
    (h : ∀ g ∈ inventory.gpus, Numeral.IsShort g.minorNumber) :
    (∀ d ∈ inventory.devices, d.IsShort) ↔ inventory.count ≤ 10 ^ Numeral.maxDigits := by
  constructor
  · intro hshort
    cases hc : inventory.count with
    | zero => exact Nat.zero_le _
    | succ last =>
      -- The last device has the greatest index.
      have hlast : last < inventory.gpus.length := by
        show last < inventory.count
        omega
      have hmem : ⟨(0 + last : Nat), inventory.gpus[last].minorNumber⟩ ∈ inventory.devices :=
        mem_devicesFrom_iff.mpr ⟨last, _, List.getElem?_eq_getElem hlast, rfl⟩
      have hindex := (Numeral.isShort_iff _).mp (hshort _ hmem).1
      rw [Int.natAbs_natCast, Nat.zero_add] at hindex
      exact hindex
  · intro hcount d hd
    obtain ⟨k, g, hk, rfl⟩ := mem_devicesFrom_iff.mp hd
    obtain ⟨hlt, hg⟩ := List.getElem?_eq_some_iff.mp hk
    refine ⟨?_, h g (List.mem_of_getElem? hk)⟩
    rw [Numeral.isShort_iff, Int.natAbs_natCast, Nat.zero_add]
    exact Nat.lt_of_lt_of_le hlt hcount

namespace Engine

/-! ## The three ways to an answer -/

theorem usableDevices_of_not_initialized {engine : Engine} (h : engine.discovery = none) :
    engine.usableDevices.value = .error .notInitialized := by
  rw [usableDevices, h]
  rfl

theorem usableDevices_of_automatic {engine : Engine} {discovery : Discovery}
    (h : engine.discovery = some discovery) (ha : discovery.allowedDevices = automatic) :
    engine.usableDevices.value =
      match engine.inventory with
      | some inventory => .ok inventory.devices
      | none => .error .neverDiscovered := by
  rw [usableDevices, h]
  dsimp only
  rw [if_pos ha, discoveredDevices]
  cases engine.inventory <;> rfl

/-- What an allow list gives depends on nothing but the list. -/
theorem usableDevices_of_list {engine : Engine} {discovery : Discovery}
    (h : engine.discovery = some discovery) (hl : discovery.allowedDevices ≠ automatic) :
    engine.usableDevices.value =
      (AllowList.parse discovery.allowedDevices).mapError Failure.allowList := by
  rw [usableDevices, h]
  dsimp only
  rw [if_neg hl, listedDevices, AllowList.read]
  cases AllowList.parse discovery.allowedDevices <;> rfl

/-- That nothing was set up is told by nothing else: after a set-up every answer is another one. -/
theorem usableDevices_eq_notInitialized_iff (engine : Engine) :
    engine.usableDevices.value = .error .notInitialized ↔ engine.discovery = none := by
  refine ⟨fun hvalue => ?_, usableDevices_of_not_initialized⟩
  cases hd : engine.discovery with
  | none => rfl
  | some discovery =>
    by_cases ha : discovery.allowedDevices = automatic
    · rw [usableDevices_of_automatic hd ha] at hvalue
      split at hvalue <;> cases hvalue
    · rw [usableDevices_of_list hd ha] at hvalue
      cases hp : AllowList.parse discovery.allowedDevices <;> rw [hp] at hvalue <;> cases hvalue

/-- An overlong number in the allow list is the only reason for a failure that callers do not reckon
with. -/
theorem usableDevices_isExpected {engine : Engine}
    (h : ∀ discovery, engine.discovery = some discovery →
      ¬ AllowList.HoldsOverlong discovery.allowedDevices.toList)
    {failure : Failure} (hvalue : engine.usableDevices.value = .error failure) :
    failure.isExpected = true := by
  cases hd : engine.discovery with
  | none =>
    rw [usableDevices_of_not_initialized hd] at hvalue
    cases hvalue
    rfl
  | some discovery =>
    by_cases ha : discovery.allowedDevices = automatic
    · rw [usableDevices_of_automatic hd ha] at hvalue
      split at hvalue <;> cases hvalue
      rfl
    · rw [usableDevices_of_list hd ha] at hvalue
      cases hp : AllowList.parse discovery.allowedDevices with
      | ok devices =>
        rw [hp] at hvalue
        cases hvalue
      | error fault =>
        rw [hp] at hvalue
        cases hvalue
        cases fault with
        | overlong digits => exact absurd (AllowList.holdsOverlong_of_parse hp) (h discovery hd)
        | _ => rfl

/-! ## Lists against discovery -/

/-- The engine, had it been set up with this allow list. -/
def allowing (engine : Engine) (list : String) : Engine :=
  { engine with
    discovery := engine.discovery.map fun discovery => { discovery with allowedDevices := list } }

variable {engine : Engine}

theorem discovery_allowing (h : engine.isInitialized = true) (list : String) :
    ∃ discovery, (engine.allowing list).discovery = some discovery ∧
      discovery.allowedDevices = list := by
  obtain ⟨discovery, hd⟩ := Option.isSome_iff_exists.mp h
  refine ⟨{ discovery with allowedDevices := list }, ?_, rfl⟩
  rw [allowing, hd]
  rfl

theorem usableDevices_allowing_automatic (h : engine.isInitialized = true) {inventory : Inventory}
    (hi : engine.inventory = some inventory) :
    (engine.allowing automatic).usableDevices.value = .ok inventory.devices := by
  obtain ⟨discovery, hd, ha⟩ := discovery_allowing h automatic
  have hkept : (engine.allowing automatic).inventory = some inventory := hi
  rw [usableDevices_of_automatic hd ha, hkept]

theorem usableDevices_allowing_eq_ok_iff (h : engine.isInitialized = true) {list : String}
    (hlist : list ≠ automatic) (devices : List Device) :
    (engine.allowing list).usableDevices.value = .ok devices ↔
      AllowList.parse list = .ok devices := by
  obtain ⟨discovery, hd, rfl⟩ := discovery_allowing h list
  rw [usableDevices_of_list hd hlist]
  cases AllowList.parse discovery.allowedDevices with
  | error fault => constructor <;> intro hvalue <;> cases hvalue
  | ok found => constructor <;> intro hvalue <;> cases hvalue <;> rfl

/-- Listing devices by hand and discovering them agree.

A list of devices is read back from its text exactly if its devices are different and their numbers
have no more than `Numeral.maxDigits` digits, the sign not counted.  Hence whatever was read from an
allow list, and is not empty, is read again from its text.  And the devices of a report with a GPU,
written as an allow list, are the usable devices that go without a list; only of a report with more
than `10 ^ Numeral.maxDigits` GPUs, whose last index is too long, could they not be read. -/
theorem listed_and_discovered_agree :
    (∀ devices : List Device, devices ≠ [] →
        (AllowList.parse (AllowList.ofDevices devices) = .ok devices ↔
          devices.Nodup ∧ ∀ d ∈ devices, d.IsShort)) ∧
      (∀ (whole : String) (devices : List Device), devices ≠ [] →
        AllowList.parse whole = .ok devices →
          AllowList.parse (AllowList.ofDevices devices) = .ok devices) ∧
      ∀ (text : List Char) (describe : List Char → String) (inventory : Inventory)
        (engine : Engine),
        Report.read text describe = .ok inventory → inventory.gpus ≠ [] →
          engine.isInitialized = true → engine.inventory = some inventory →
            ((engine.allowing (AllowList.ofDevices inventory.devices)).usableDevices.value =
                (engine.allowing automatic).usableDevices.value ↔
              inventory.count ≤ 10 ^ Numeral.maxDigits) := by
  refine ⟨fun devices hne => AllowList.parse_ofDevices_iff hne,
    fun whole devices hne h => AllowList.parse_ofDevices_of_parse hne h, ?_⟩
  intro text describe inventory engine hread hgpus hinit hinventory
  have hne : inventory.devices ≠ [] := by
    intro h
    have hlength := inventory.length_devices
    rw [h] at hlength
    exact hgpus (List.length_eq_zero_iff.mp hlength.symm)
  rw [usableDevices_allowing_automatic hinit hinventory,
    usableDevices_allowing_eq_ok_iff hinit (AllowList.ofDevices_ne_automatic hne),
    AllowList.parse_ofDevices_iff hne,
    Inventory.isShort_devices_iff (Report.isShort_of_read hread)]
  exact and_iff_right (Inventory.nodup_devicesFrom 0 inventory.gpus)

/-- Negative and repeated minor numbers. -/
theorem negative_minor_numbers_agree :
    let devices : List Device := [⟨0, 4⟩, ⟨1, -1⟩, ⟨2, 4⟩]
    AllowList.ofDevices devices = "0:4,1:-1,2:4" ∧
      AllowList.parse "0:4,1:-1,2:4" = .ok devices := by
  intro devices
  have hnodup : devices.Nodup := by decide
  have hshort : ∀ d ∈ devices, d.IsShort := by decide +kernel
  have htext : AllowList.ofDevices devices = "0:4,1:-1,2:4" := by decide +kernel
  refine ⟨htext, ?_⟩
  rw [← htext]
  exact (listed_and_discovered_agree.1 devices (List.cons_ne_nil _ _)).mpr ⟨hnodup, hshort⟩

end Engine
end GpuInventory
