import GpuInventory.Http

/-!
What a client can read from an answer.

The readers below are written from the client's side: they look for members by their names, take
null for a reading that is missing, and check that the number of GPUs that is told is the number of
those that follow.  Reading what the service tells about an inventory gives the inventory back, all
of its GPUs in their order and every field of them, except that JSON has no infinite numbers: where
the report had one, nothing is told.
-/

namespace GpuInventory

namespace Json

def asInteger? : Json → Option Int
  | .integer value => some value
  | _ => none

def asNatural? : Json → Option Nat
  | .integer value => value.toNat?
  | _ => none

def asBool? : Json → Option Bool
  | .bool value => some value
  | _ => none

def asFloat? : Json → Option Float
  | .float value => some value
  | _ => none

def asString? : Json → Option String
  | .string value => some value
  | _ => none

def asArray? : Json → Option (List Json)
  | .array items => some items
  | _ => none

/-- Reads a value that may be missing. -/
def orNull? {α : Type} (read : Json → Option α) : Json → Option (Option α)
  | .null => some none
  | value => (read value).map some

/-- Reads a member of an object. -/
def readMember? {α : Type} (name : String) (read : Json → Option α) (value : Json) : Option α :=
  (value.get? name).bind read

@[simp] theorem orNull?_ofString? (s : Option String) :
    orNull? asString? (ofString? s) = some s := by
  cases s <;> rfl

@[simp] theorem orNull?_ofInt? (i : Option Int) : orNull? asInteger? (ofInt? i) = some i := by
  cases i <;> rfl

@[simp] theorem orNull?_ofInt?_natCast (n : Option Nat) :
    orNull? asNatural? (ofInt? (n.map fun (k : Nat) => (k : Int))) = some n := by
  cases n <;> rfl

/-- A number that is not finite is read as a missing one. -/
@[simp] theorem orNull?_ofFloat? (x : Option Float) :
    orNull? asFloat? (ofFloat? x) = some (x.filter Float.isFinite) := by
  cases x with
  | none => rfl
  | some x =>
    rw [ofFloat?, Option.filter_some]
    by_cases h : x.isFinite = true
    · rw [if_pos h, if_pos h]
      rfl
    · rw [if_neg h, if_neg h]
      rfl

end Json

/-- A GPU without the readings that are not finite. -/
def Gpu.finite (g : Gpu) : Gpu :=
  { g with
    temperature := g.temperature.filter Float.isFinite
    utilization := g.utilization.filter Float.isFinite
    powerDraw := g.powerDraw.filter Float.isFinite }

/-- An inventory without the readings that are not finite. -/
def Inventory.finite (inventory : Inventory) : Inventory :=
  { inventory with gpus := inventory.gpus.map Gpu.finite }

namespace Http

open Json

def readGpu? (value : Json) : Option Gpu := do
  let minorNumber ← value.readMember? "minor_number" asInteger?
  let productName ← value.readMember? "product_name" asString?
  let uuid ← value.readMember? "uuid" asString?
  let busId ← value.readMember? "bus_id" (orNull? asString?)
  let memoryTotal ← value.readMember? "memory_total_mib" (orNull? asInteger?)
  let memoryUsed ← value.readMember? "memory_used_mib" (orNull? asInteger?)
  let temperature ← value.readMember? "temperature_c" (orNull? asFloat?)
  let utilization ← value.readMember? "utilization_percent" (orNull? asFloat?)
  let powerDraw ← value.readMember? "power_draw_w" (orNull? asFloat?)
  some
    { minorNumber, productName, uuid, busId, memoryTotal, memoryUsed, temperature, utilization,
      powerDraw }

def readInventory? (value : Json) : Option Inventory := do
  let driverVersion ← value.readMember? "driver_version" asString?
  let count ← value.readMember? "gpu_count" asInteger?
  let items ← value.readMember? "gpus" asArray?
  let gpus ← items.mapM readGpu?
  if count = gpus.length then some { driverVersion, gpus } else none

def readDevice? (value : Json) : Option Device := do
  let index ← value.readMember? "index" asInteger?
  let minorNumber ← value.readMember? "minor_number" asInteger?
  some { index, minorNumber }

def readDevices? (value : Json) : Option (List Device) :=
  value.asArray?.bind fun items => items.mapM readDevice?

/-- Reads how well the monitor is, in a word, and what it tells about itself. -/
def readHealth? (value : Json) : Option (String × Monitor.Status) := do
  let word ← value.readMember? "status" asString?
  let isInitialized ← value.readMember? "initialized" asBool?
  let path ← value.readMember? "binary_path" (orNull? asString?)
  let allowedDevices ← value.readMember? "allowed_devices" asString?
  let failures ← value.readMember? "consecutive_failures" asNatural?
  let discovered ← value.readMember? "discovered_gpus" (orNull? asNatural?)
  some (word, { isInitialized, path, allowedDevices, failures, discovered })

theorem readGpu?_gpuBody (g : Gpu) : readGpu? (gpuBody g) = some g.finite := by
  simp [readGpu?, gpuBody, readMember?, get?, asInteger?, asString?, Gpu.finite]

theorem readDevice?_deviceBody (d : Device) : readDevice? (deviceBody d) = some d := by
  simp [readDevice?, deviceBody, readMember?, get?, asInteger?]

/-- A list is read item by item. -/
theorem mapM_map_eq_some {α β : Type} {write : α → Json} {read : Json → Option β} {f : α → β}
    (h : ∀ a, read (write a) = some (f a)) (items : List α) :
    (items.map write).mapM read = some (items.map f) := by
  induction items with
  | nil => rfl
  | cons a rest ih => simp [h, ih]

theorem readInventory?_inventoryBody (inventory : Inventory) :
    readInventory? (inventoryBody inventory) = some inventory.finite := by
  have hgpus := mapM_map_eq_some readGpu?_gpuBody inventory.gpus
  simp [readInventory?, inventoryBody, readMember?, get?, asInteger?, asString?, asArray?, hgpus,
    Inventory.count, Inventory.finite]

theorem readHealth?_healthBody (s : Monitor.Status) :
    readHealth? (healthBody s) = some (health s, s) := by
  simp [readHealth?, healthBody, readMember?, get?, asString?, asBool?, asNatural?, Int.toNat?]

theorem readDevices?_deviceBodies (devices : List Device) :
    readDevices? (.array (devices.map deviceBody)) = some devices := by
  rw [readDevices?, asArray?, Option.bind_some, mapM_map_eq_some readDevice?_deviceBody,
    List.map_id']

end Http
end GpuInventory
