import GpuInventory.Xml.Name

/-!
Namespaces: the qualifiers that are bound within an element, and the expanded names of elements and
attributes.

An expanded name is the local name after the name of its namespace in braces, or the local name
alone.  An element without a qualifier is in the default namespace if there is one; an attribute
without a qualifier is in none.

The qualifier `xml` is always bound, to a namespace that no other qualifier may be bound to.  The
qualifier `xmlns` marks the attributes that bind; it cannot be bound itself, nor its namespace to
anything.  Only the default namespace can be given up again.  A namespace whose name holds a closing
brace would make expanded names ambiguous, and is refused.
-/

namespace GpuInventory
namespace Xml

def xmlNamespace : String := "http://www.w3.org/XML/1998/namespace"

def xmlnsNamespace : String := "http://www.w3.org/2000/xmlns/"

/-- The qualifiers that are bound, each to the name of a namespace, the latest first.  The default
namespace is the one of no qualifier; an empty name says that there is none. -/
structure Scope where
  bindings : List (Option String × String) := [(some "xml", xmlNamespace)]
deriving DecidableEq, Repr

namespace Scope

def lookup? (scope : Scope) (qualifier : Option String) : Option String :=
  (scope.bindings.find? fun b => b.1 == qualifier).map (·.2)

/-- A scope with a qualifier bound, if it may be bound to the namespace. -/
def bind? (scope : Scope) (qualifier : Option String) (namespaceName : String) : Option Scope :=
  if namespaceName.isEmpty && qualifier.isSome then none
  else if qualifier = some "xmlns" || namespaceName = xmlnsNamespace then none
  else if (qualifier = some "xml") ≠ (namespaceName = xmlNamespace) then none
  else if namespaceName.toList.contains '\x7d' then none
  else some { bindings := (qualifier, namespaceName) :: scope.bindings }

def expanded (namespaceName localName : String) : String :=
  if namespaceName.isEmpty then localName
  else "\x7b" ++ namespaceName ++ "\x7d" ++ localName

def elementName? (scope : Scope) (name : QName) : Option String :=
  match name.qualifier with
  | none => some (expanded ((scope.lookup? none).getD "") name.localName)
  | some q => (scope.lookup? (some q)).map fun n => expanded n name.localName

/-- The expanded name of an attribute. -/
def attributeName? (scope : Scope) (name : QName) : Option String :=
  match name.qualifier with
  | none => some name.localName
  | some q => (scope.lookup? (some q)).map fun n => expanded n name.localName

end Scope

/-- The qualifier that an attribute of this name binds: that of the default namespace for the bare
mark, none at all for an attribute that does not bind. -/
def boundQualifier? (name : QName) : Option (Option String) :=
  if name.qualifier = some "xmlns" then some (some name.localName)
  else if name.qualifier = none ∧ name.localName = "xmlns" then some none
  else none

end Xml
end GpuInventory
