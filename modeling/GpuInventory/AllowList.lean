import GpuInventory.Log
import GpuInventory.Numeral
import GpuInventory.Text.Blank
import GpuInventory.Text.Quoted
import GpuInventory.Text.Separated

/-!
Devices, and the allow list: the operator's own list of usable ones, such as `0:0,1:1`.

A device is what a scheduler is given: a position in the list of usable ones, and the minor number
of the device file behind it.  Two devices are the same if they agree in both.

The allow list is a list of entries between commas.  Blank entries are skipped; every other one is,
between blanks, an index and a minor number with a single colon between them, each a sign and ASCII
digits.  No device may be named twice, in whatever way its numbers are written.  The devices keep
the order of the entries.

A list that does not have this form is blamed on its first bad entry, which the message quotes as it
was written, blanks included, together with the whole list.  A number of too many digits is a fault
of its own: it has the form, but no value.
-/

namespace GpuInventory

/-! ## Devices -/

/-- A GPU that work may be scheduled on. -/
structure Device where
  index : Int
  minorNumber : Int
deriving DecidableEq, Repr

namespace Device

/-- How a device is written in an allow list: its index, a colon and its minor number. -/
def text (d : Device) : String :=
  integerText d.index ++ ":" ++ integerText d.minorNumber

def distinctCount (devices : List Device) : Nat :=
  (devices.foldl (fun seen d => if d ∈ seen then seen else d :: seen) []).length

end Device

def deviceFile (minorNumber : Int) : String :=
  "/dev/nvidia" ++ integerText minorNumber

/-! ## Allow lists -/

namespace AllowList

inductive Fault where
  /-- The list holds blanks only. -/
  | empty
  /-- An entry is not an index and a minor number. -/
  | malformed (entry whole : String)
  /-- An entry names a device that an earlier one names. -/
  | repeated (entry whole : String)
  /-- A number has more digits than can be read. -/
  | overlong (digits : Nat)
deriving DecidableEq, Repr

def Fault.message : Fault → String
  | .empty =>
    "Allowed GPU devices were specified with an empty value. " ++
      "Expected a comma-separated list of <index>:<minorNumber> entries."
  | .malformed entry whole =>
    "Illegal format of individual GPU device: " ++ Text.quotedString entry ++
      ". Expected <index>:<minorNumber>, allowed devices value was: " ++ Text.quotedString whole
  | .repeated entry whole =>
    "GPU device " ++ Text.quotedString entry ++
      " is specified more than once. Allowed devices value was: " ++ Text.quotedString whole
  | .overlong digits =>
    "Exceeds the limit (" ++ Nat.repr Numeral.maxDigits ++
      " digits) for integer string conversion: value has " ++ Nat.repr digits ++
      " digits; use sys.set_int_max_str_digits() to increase the limit"

def entryNumerals? (entry : List Char) : Option (Numeral × Numeral) :=
  match Text.parts ':' (Text.trim entry) with
  | [index, minorNumber] => do
    let index ← Numeral.ofChars? index
    let minorNumber ← Numeral.ofChars? minorNumber
    some (index, minorNumber)
  | _ => none

/-- The device that an entry names.  Of two numbers that are too long the index is blamed. -/
def entryDevice (whole : String) (entry : List Char) : Except Fault Device :=
  match entryNumerals? entry with
  | none => .error (.malformed (String.ofList entry) whole)
  | some (index, minorNumber) =>
    match index.value with
    | .error digits => .error (.overlong digits)
    | .ok index =>
      match minorNumber.value with
      | .error digits => .error (.overlong digits)
      | .ok minorNumber => .ok { index, minorNumber }

/-- The devices of a list of entries, none of which may be one of those seen before. -/
def devicesOf (whole : String) (seen : List Device) : List (List Char) → Except Fault (List Device)
  | [] => .ok []
  | entry :: rest =>
    if Text.trim entry = [] then devicesOf whole seen rest
    else match entryDevice whole entry with
      | .error fault => .error fault
      | .ok device =>
        if device ∈ seen then .error (.repeated (String.ofList entry) whole)
        else match devicesOf whole (device :: seen) rest with
          | .error fault => .error fault
          | .ok devices => .ok (device :: devices)

def parse (whole : String) : Except Fault (List Device) :=
  if Text.trim whole.toList = [] then .error .empty
  else devicesOf whole [] (Text.parts ',' whole.toList)

def ofDevices (devices : List Device) : String :=
  String.ofList (Text.joined [','] (devices.map fun d => d.text.toList))

def read (whole : String) : Logged (Except Fault (List Device)) :=
  match parse whole with
  | .error fault => .silent (.error fault)
  | .ok devices =>
    .saying .allowList .info ("Allowed GPU devices: " ++ Text.listed (devices.map Device.text))
      (.ok devices)

end AllowList
end GpuInventory
