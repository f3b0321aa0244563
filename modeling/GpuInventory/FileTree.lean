import GpuInventory.Path

/-!
File trees, and what a path denotes in one.

A node of the tree is the list of names that lead to it from the root.  A tree is given by some
files and some directories; the root and everything above a given node are directories as well, so
there is no node without its directory.  There are no links.

A path is walked name by name.  Every name that a slash follows must lead to a directory; empty
names and dots stay where they are, and a double dot goes up.  So a path that leaves a directory
again through a double dot denotes something only if that directory exists.
-/

namespace GpuInventory

/-- A node, by the names on the way to it. -/
abbrev Node := List (List Char)

structure FileTree where
  files : List Node
  directories : List Node
deriving DecidableEq, Repr

namespace FileTree

def isDirectory (t : FileTree) (node : Node) : Bool :=
  node.isEmpty || t.directories.any (fun d => node.isPrefixOf d) ||
    t.files.any fun f => node.isPrefixOf f && node.length < f.length

def hasNode (t : FileTree) (node : Node) : Bool :=
  t.isDirectory node || t.files.contains node

def ofPaths (files directories : List (List Char)) : FileTree :=
  { files := files.map fun p => Path.resolve (Path.names p),
    directories := directories.map fun p => Path.resolve (Path.names p) }

def step (node : Node) (name : List Char) : Node :=
  if name = [] ∨ name = ['.'] then node
  else if name = ['.', '.'] then node.dropLast
  else node ++ [name]

def walkFrom (t : FileTree) (node : Node) : List (List Char) → Option Node
  | [] => some node
  | [name] => if t.hasNode (step node name) then some (step node name) else none
  | name :: rest =>
    if t.isDirectory (step node name) then t.walkFrom (step node name) rest else none

end FileTree

/-- A tree as a process sees it: from a working directory in it. -/
structure Place where
  tree : FileTree
  directory : List Char
deriving DecidableEq, Repr

namespace Place

def ofPaths (directory : String) (files directories : List String) : Place :=
  { tree := .ofPaths (files.map String.toList)
      (directory.toList :: directories.map String.toList),
    directory := directory.toList }

def home (p : Place) : Node :=
  Path.resolve (Path.names p.directory)

/-- The node that a path denotes.  The empty path denotes nothing. -/
def walk (p : Place) (path : List Char) : Option Node :=
  if path.isEmpty then none
  else p.tree.walkFrom (if Path.isAbsolute path then [] else p.home) (Path.names path)

def pathExists (p : Place) (path : List Char) : Bool :=
  (p.walk path).isSome

def isDirectory (p : Place) (path : List Char) : Bool :=
  (p.walk path).any p.tree.isDirectory

def absolute (p : Place) (path : List Char) : List Char :=
  Path.absolute p.directory path

end Place
end GpuInventory
