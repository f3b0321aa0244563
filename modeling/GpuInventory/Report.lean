import GpuInventory.Decimal.Reading
import GpuInventory.Inventory
import GpuInventory.Xml.Document

/-!
The report of the tool, an XML document, and the inventory that it gives.

Every child `gpu` of the root is one GPU.  It has to have a minor number; all else may be missing,
or of a form that says nothing, and is then missing in the inventory too.  Elements that are not
named here are passed over, wherever they stand.
-/

namespace GpuInventory
namespace Report

open Xml (Element)

/-- Why a text gives no inventory. -/
inductive Fault where
  /-- The text is no document, for a reason that the library of XML gives. -/
  | notXml (detail : String)
  | unexpectedRoot (tag : String)
  | noMinorNumber (position : Nat)
  | invalidMinorNumber (position : Nat) (written : String)
deriving DecidableEq, Repr

def rootTag : String := "nvidia_smi_log"

def Fault.message : Fault → String
  | .notXml detail => "Invalid nvidia-smi XML output: " ++ detail
  | .unexpectedRoot tag => "Unexpected root element <" ++ tag ++ ">, expected <" ++ rootTag ++ ">"
  | .noMinorNumber position => "GPU #" ++ Nat.repr position ++ " has no minor_number"
  | .invalidMinorNumber position written =>
    "GPU #" ++ Nat.repr position ++ " has invalid minor_number " ++ Text.quotedString written

/-- The elements that a path of tags leads to, in the order of the document. -/
def elementsAt : List String → Element → List Element
  | [], e => [e]
  | tag :: path, e => (e.children.filter fun child => child.tag == tag).flatMap (elementsAt path)

/-- What an element says in its leading text: nothing if the text is blank, or the mark of a value
that is not available. -/
def saying? (e : Element) : Option (List Char) :=
  let text := Text.trim e.text.toList
  if text.isEmpty || text == "N/A".toList then none else some text

def textAt (path : List String) (e : Element) : Option (List Char) :=
  (elementsAt path e).head?.bind saying?

def nameAt (path : List String) (e : Element) : String :=
  ((textAt path e).map String.ofList).getD ""

def wholeNumber? (text : Option (List Char)) : Option Int :=
  text.bind fun text => Numeral.readInt? (Text.firstWord text)

def number? (text : Option (List Char)) : Option Float :=
  text.bind fun text => Decimal.readFloat? (Text.firstWord text)

def busId? (e : Element) : Option String :=
  ((e.attributes.lookup "id").filter fun id => !id.isEmpty)

/-- What a GPU draws; the tool has had two names for the element that says it. -/
def powerText (e : Element) : Option (List Char) :=
  (textAt ["power_readings", "power_draw"] e).orElse fun _ =>
    textAt ["gpu_power_readings", "power_draw"] e

def minorNumber (position : Nat) (e : Element) : Except Fault Int :=
  match textAt ["minor_number"] e with
  | none => .error (.noMinorNumber position)
  | some text =>
    match Numeral.readInt? text with
    | none => .error (.invalidMinorNumber position (String.ofList text))
    | some n => .ok n

def gpuOf (minorNumber : Int) (e : Element) : Gpu :=
  { minorNumber
    productName := nameAt ["product_name"] e
    uuid := nameAt ["uuid"] e
    busId := busId? e
    memoryTotal := wholeNumber? (textAt ["fb_memory_usage", "total"] e)
    memoryUsed := wholeNumber? (textAt ["fb_memory_usage", "used"] e)
    temperature := number? (textAt ["temperature", "gpu_temp"] e)
    utilization := number? (textAt ["utilization", "gpu_util"] e)
    powerDraw := number? (powerText e) }

/-- The GPUs of some elements, the first of which is at a position. -/
def gpusFrom (position : Nat) : List Element → Except Fault (List Gpu)
  | [] => .ok []
  | e :: rest =>
    match minorNumber position e with
    | .error fault => .error fault
    | .ok n =>
      match gpusFrom (position + 1) rest with
      | .error fault => .error fault
      | .ok gpus => .ok (gpuOf n e :: gpus)

def ofElement (root : Element) : Except Fault Inventory :=
  if root.tag ≠ rootTag then .error (.unexpectedRoot root.tag)
  else
    match gpusFrom 0 (elementsAt ["gpu"] root) with
    | .error fault => .error fault
    | .ok gpus => .ok { driverVersion := nameAt ["driver_version"] root, gpus }

/-- The inventory of a report; `describe` says what is wrong with a text that is no document. -/
def read (text : List Char) (describe : List Char → String := fun _ => "<detail>") :
    Except Fault Inventory :=
  match Xml.readDocument text with
  | none => .error (.notXml (describe text))
  | some root => ofElement root

end Report
end GpuInventory
