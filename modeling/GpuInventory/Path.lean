import GpuInventory.Text.Separated

/-!
Paths as texts: joining them, and the absolute form of one.

A path is a list of names between slashes.  The absolute form is textual: it resolves dots and
doubled slashes without looking at any file.  Three or more slashes in front mean the same as one,
but two of them mean something of their own to some systems, and are kept.
-/

namespace GpuInventory
namespace Path

def isAbsolute : List Char → Bool
  | '/' :: _ => true
  | _ => false

/-- A path below a directory.  An absolute path stands for itself wherever it is. -/
def join (directory path : List Char) : List Char :=
  if isAbsolute path then path
  else if directory.isEmpty || directory.getLast? == some '/' then directory ++ path
  else directory ++ '/' :: path

/-- The names between the slashes of a path, empty ones included. -/
def names (path : List Char) : List (List Char) :=
  Text.parts '/' path

/-- One more name after those of a place below the root, the last of which is the first of the
list.  Above the root is the root. -/
def descend (above : List (List Char)) (name : List Char) : List (List Char) :=
  if name = [] ∨ name = ['.'] then above
  else if name = ['.', '.'] then above.tail
  else name :: above

def resolve (names : List (List Char)) : List (List Char) :=
  (names.foldl descend []).reverse

/-- The slashes that an absolute path keeps in front: two if there are exactly two. -/
def leadingSlashes : List Char → List Char
  | '/' :: '/' :: '/' :: _ => ['/']
  | '/' :: '/' :: _ => ['/', '/']
  | _ => ['/']

/-- An absolute path without empty names, dots and double dots. -/
def normalize (path : List Char) : List Char :=
  leadingSlashes path ++ Text.joined ['/'] (resolve (names path))

def absolute (directory path : List Char) : List Char :=
  normalize (join directory path)

theorem join_of_isAbsolute {directory path : List Char} (h : isAbsolute path = true) :
    join directory path = path := by
  simp [join, h]

end Path
end GpuInventory
