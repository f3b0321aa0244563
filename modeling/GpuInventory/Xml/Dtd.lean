import GpuInventory.Xml.Reference
import GpuInventory.Xml.Volume

/-!
What a document type declaration leaves behind for the reading of the document: the entities, the
attributes with a default or a type, and whether parts of the declaration were not read.

The first declaration of an entity or of an attribute of an element is the one that counts.  An
entity has a replacement text unless it lies outside the document.  Parts of a declaration that are
kept elsewhere are not read, so an entity that is not declared may be declared there; if the
document does not stand alone, an attribute value that refers to such an entity is read as if the
entity were empty.
-/

namespace GpuInventory
namespace Xml

/-- An attribute as it is declared for an element, both named as they are written.  The value of one
that is tokenized is written without needless blanks. -/
structure AttributeDeclaration where
  element : String
  name : QName
  tokenized : Bool
  value : Option (List Char)
deriving DecidableEq, Repr

structure Dtd where
  standalone : Bool := false
  /-- Parts of the declaration lie elsewhere and were not read. -/
  incomplete : Bool := false
  /-- Declarations are no longer taken in: a part that was not read might have declared the same
  names before. -/
  closed : Bool := false
  entities : List (String × Option (List Char)) := []
  attributes : List AttributeDeclaration := []
  /-- How much was read so far. -/
  volume : Volume
deriving DecidableEq, Repr

namespace Dtd

/-- The replacement text of an entity, if it is declared; an entity outside the document is
declared, but has none. -/
def entity? (dtd : Dtd) (name : String) : Option (Option (List Char)) :=
  (dtd.entities.find? fun e => e.1 == name).map (·.2)

/-- Whether an entity that is not declared here may be declared in a part that was not read. -/
def mayDeclareElsewhere (dtd : Dtd) : Bool :=
  dtd.incomplete && !dtd.standalone

def attribute? (dtd : Dtd) (element : String) (name : QName) : Option AttributeDeclaration :=
  dtd.attributes.find? fun a => a.element == element && a.name == name

def attributesOf (dtd : Dtd) (element : String) : List AttributeDeclaration :=
  dtd.attributes.filter fun a => a.element == element

def isTokenized (dtd : Dtd) (element : String) (name : QName) : Bool :=
  ((dtd.attribute? element name).map (·.tokenized)).getD false

/-- Takes in the declaration of an entity, unless it has one or is one of every document. -/
def declareEntity (dtd : Dtd) (name : String) (replacement : Option (List Char)) : Dtd :=
  if (predefined? name).isSome ∨ (dtd.entity? name).isSome then dtd
  else { dtd with entities := dtd.entities ++ [(name, replacement)] }

/-- Takes in the declaration of an attribute, unless it has one. -/
def declareAttribute (dtd : Dtd) (a : AttributeDeclaration) : Dtd :=
  if (dtd.attribute? a.element a.name).isSome then dtd
  else { dtd with attributes := dtd.attributes ++ [a] }

/-- A part of the declaration that lies elsewhere, behind a reference: what follows may depend on
it, unless the document stands alone. -/
def skipPart (dtd : Dtd) : Dtd :=
  { dtd with incomplete := true, closed := !dtd.standalone }

end Dtd
end Xml
end GpuInventory
