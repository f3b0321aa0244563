import GpuInventory.AllowList

/-!
The inventory: what one report of the tool says about the GPUs of the machine.

Of every GPU the minor number is known; the rest is what the report held, and a reading that it did
not hold is missing.  The devices that an inventory gives are its GPUs in the order of the report,
numbered from zero.
-/

namespace GpuInventory

/-- One GPU.  Memory is in mebibytes, temperature in degrees Celsius, power in watts. -/
structure Gpu where
  minorNumber : Int
  productName : String := ""
  uuid : String := ""
  busId : Option String := none
  memoryTotal : Option Int := none
  memoryUsed : Option Int := none
  temperature : Option Float := none
  utilization : Option Float := none
  powerDraw : Option Float := none
deriving BEq, Repr

namespace Gpu

def file (g : Gpu) : String :=
  deviceFile g.minorNumber

def label (g : Gpu) : String :=
  (if g.productName.isEmpty then "unknown" else g.productName) ++
    " (minor " ++ integerText g.minorNumber ++ ")"

end Gpu

structure Inventory where
  driverVersion : String := ""
  gpus : List Gpu := []
deriving BEq, Repr

namespace Inventory

def count (inventory : Inventory) : Nat :=
  inventory.gpus.length

def summary (inventory : Inventory) : String :=
  "GPUDeviceInformation(driver_version=" ++ Text.quotedString inventory.driverVersion ++
    ", gpus=[" ++ Text.listed (inventory.gpus.map Gpu.label) ++ "])"

/-- The devices of some GPUs, numbered from `first` on. -/
def devicesFrom (first : Nat) : List Gpu → List Device
  | [] => []
  | g :: rest => ⟨first, g.minorNumber⟩ :: devicesFrom (first + 1) rest

def devices (inventory : Inventory) : List Device :=
  devicesFrom 0 inventory.gpus

/-- The devices of an inventory, with a word to the log on their number. -/
def list (inventory : Inventory) : Logged (List Device) :=
  .saying .allowList .debug ("Found " ++ Nat.repr inventory.count ++ " GPU devices")
    inventory.devices

theorem length_devicesFrom (first : Nat) (gpus : List Gpu) :
    (devicesFrom first gpus).length = gpus.length := by
  induction gpus generalizing first with
  | nil => rfl
  | cons g rest ih => simp [devicesFrom, ih]

theorem length_devices (inventory : Inventory) : inventory.devices.length = inventory.count :=
  length_devicesFrom 0 inventory.gpus

end Inventory
end GpuInventory
