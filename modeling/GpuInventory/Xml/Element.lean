import GpuInventory.Xml.AttributeValue
import GpuInventory.Xml.Item
import GpuInventory.Xml.Namespace

/-!
Elements, and how the tag that opens one is understood.

The text of an element is what stands before its first child; the text that follows a child is kept
with the child.  Names are expanded names.  An attribute that is not written in the tag has its
default, if one is declared.  The attributes that bind qualifiers take effect for the whole tag and
are not kept.  No attribute may be given twice, under one written name or under two with the same
expanded name.
-/

namespace GpuInventory
namespace Xml

structure Element where
  tag : String
  attributes : List (String × String)
  text : String
  children : List Element
  /-- The text that follows it in its parent. -/
  tail : String
deriving Repr

structure OpenElement where
  name : QName
  scope : Scope
  tag : String
  attributes : List (String × String)
  text : String := ""
  /-- The latest child first. -/
  children : List Element := []
deriving Repr

/-- How much was read once a written value was looked over.  A value that does not stand as it is
counts once more, unless the tag closes its element at once.  The entities in `outer` are being read
around the tag. -/
def lookOver? (outer : List String) (closed : Bool) (volume : Volume) (text : List Char) :
    Option Volume :=
  if closed || AttributeValue.isSettled text then some volume
  else volume.revisit? (!outer.isEmpty) text

/-- The values of the attributes of a tag, and how much was read in the end. -/
def attributeValues? (dtd : Dtd) (element : String) (outer : List String) (closed : Bool) :
    Volume → List RawAttribute → Option (List (QName × String) × Volume)
  | volume, [] => some ([], volume)
  | volume, (name, text) :: rest => do
    let volume ← lookOver? outer closed volume text
    let (value, volume) ←
      AttributeValue.read? dtd (dtd.isTokenized element name) outer volume text
    let (values, volume) ← attributeValues? dtd element outer closed volume rest
    return ((name, String.ofList value) :: values, volume)

/-- The attributes that are declared for an element with a default, but not given. -/
def defaultAttributes (dtd : Dtd) (element : String) (given : List (QName × String)) :
    List (QName × String) :=
  (dtd.attributesOf element).filterMap fun a =>
    if a.name ∈ given.map (·.1) then none else a.value.map fun v => (a.name, String.ofList v)

namespace Scope

def bindAll? (scope : Scope) (attributes : List (QName × String)) : Option Scope :=
  attributes.foldlM (fun scope (name, value) =>
    match boundQualifier? name with
    | some qualifier => scope.bind? qualifier value
    | none => some scope) scope

/-- The attributes that do not bind, under their expanded names. -/
def expandAll? (scope : Scope) (attributes : List (QName × String)) :
    Option (List (String × String)) :=
  (attributes.filter fun a => (boundQualifier? a.1).isNone).mapM fun (name, value) =>
    (scope.attributeName? name).map fun n => (n, value)

end Scope

namespace OpenElement

/-- The element that a tag opens, and how much was read in the end. -/
def start? (dtd : Dtd) (scope : Scope) (outer : List String) (volume : Volume) (name : QName)
    (attributes : List RawAttribute) (closed : Bool) : Option (OpenElement × Volume) := do
  guard (attributes.map (·.1)).Nodup
  let (given, volume) ← attributeValues? dtd name.text outer closed volume attributes
  let all := given ++ defaultAttributes dtd name.text given
  let scope ← scope.bindAll? all
  let tag ← scope.elementName? name
  let expanded ← scope.expandAll? all
  guard (expanded.map (·.1)).Nodup
  return ({ name, scope, tag, attributes := expanded }, volume)

def addText (e : OpenElement) (text : String) : OpenElement :=
  match e.children with
  | [] => { e with text := e.text ++ text }
  | last :: before => { e with children := { last with tail := last.tail ++ text } :: before }

def addChild (e : OpenElement) (child : Element) : OpenElement :=
  { e with children := child :: e.children }

def close (e : OpenElement) : Element :=
  { tag := e.tag, attributes := e.attributes, text := e.text, children := e.children.reverse,
    tail := "" }

end OpenElement

theorem follows_lookOver? {outer : List String} {closed : Bool} {volume left : Volume}
    {text : List Char} (h : lookOver? outer closed volume text = some left) :
    volume.Follows left := by
  unfold lookOver? at h
  split at h
  · obtain rfl := Option.some.inj h
    exact .refl _
  · exact Volume.follows_revisit? h

theorem follows_attributeValues? {dtd : Dtd} {element : String} {outer : List String}
    {closed : Bool} {volume left : Volume} {attributes : List RawAttribute}
    {values : List (QName × String)}
    (h : attributeValues? dtd element outer closed volume attributes = some (values, left)) :
    volume.Follows left := by
  induction attributes generalizing volume values with
  | nil =>
    obtain ⟨-, rfl⟩ : _ ∧ volume = left := by simpa [attributeValues?] using h
    exact .refl _
  | cons a rest ih =>
    obtain ⟨seen, hs, h⟩ := Option.bind_eq_some_iff.1 h
    obtain ⟨⟨value, left'⟩, hv, h⟩ := Option.bind_eq_some_iff.1 h
    obtain ⟨⟨values', left''⟩, hr, h⟩ := Option.bind_eq_some_iff.1 h
    obtain ⟨-, rfl⟩ : _ ∧ left'' = left := by simpa using h
    exact (follows_lookOver? hs).trans ((AttributeValue.follows_read? hv).trans (ih hr))

theorem OpenElement.follows_start? {dtd : Dtd} {scope : Scope} {outer : List String}
    {volume left : Volume} {name : QName} {attributes : List RawAttribute} {closed : Bool}
    {e : OpenElement}
    (h : OpenElement.start? dtd scope outer volume name attributes closed = some (e, left)) :
    volume.Follows left := by
  obtain ⟨-, -, h⟩ := Option.bind_eq_some_iff.1 h
  obtain ⟨⟨given, left'⟩, hv, h⟩ := Option.bind_eq_some_iff.1 h
  obtain ⟨scope', -, h⟩ := Option.bind_eq_some_iff.1 h
  obtain ⟨tag, -, h⟩ := Option.bind_eq_some_iff.1 h
  obtain ⟨expanded, -, h⟩ := Option.bind_eq_some_iff.1 h
  obtain ⟨-, -, h⟩ := Option.bind_eq_some_iff.1 h
  obtain ⟨-, rfl⟩ : _ ∧ left' = left := by simpa using h
  exact follows_attributeValues? hv

end Xml
end GpuInventory
