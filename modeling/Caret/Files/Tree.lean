import Caret.Files.Basic

/-!
# Trees of files

A tree of files below the working directory, given by its entries. The directories on the way
to an entry are there without being listed. Outside of the tree there are directories only, and
nothing is known to be in them.
-/

namespace Caret

/-- An entry of a tree. -/
inductive TreeEntry where
  | directory
  | file (octets : List UInt8)

/-- A tree: the entries with the names on the way to them. -/
abbrev FileTree := List (List String × TreeEntry)

namespace FileTree

/-- What stands at the end of some names, none of them two dots. -/
def nodeAt (tree : FileTree) (names : List String) : Node :=
  match tree.lookup names with
  | some .directory => .directory
  | some (.file octets) => .file octets
  | none =>
    if names = [] ∨ tree.any fun entry ↦ names.isPrefixOf entry.1 then .directory else .absent

/-- Follows names outside of the tree. -/
def walkOutside : List String → Node
  | [] => .directory
  | name :: rest =>
    if name = ".." then walkOutside rest else if isOverlongName name then .overlong else .absent

/-- Follows names from a place in the tree; two dots lead back, and a name is looked up in a
directory only. -/
def walk (tree : FileTree) (place : List String) : List String → Node
  | [] => tree.nodeAt place
  | name :: rest =>
    match tree.nodeAt place with
    | .directory =>
      if name = ".." then
        if place = [] then walkOutside rest else walk tree place.dropLast rest
      else if isOverlongName name then .overlong
      else walk tree (place ++ [name]) rest
    | .file _ => .blocked
    | node => node

/-- The names that lead from the working directory to a path, if it is below. -/
def namesBelow? (workingDirectory path : Path) : Option (List String) :=
  if path.isRelative then some path.names
  else if path.anchor = workingDirectory.anchor ∧
      workingDirectory.names.isPrefixOf path.names then
    some (path.names.drop workingDirectory.names.length)
  else none

/-- The file system of a tree below a working directory. -/
def toFileSystem (tree : FileTree) (workingDirectory : Path) : FileSystem where
  workingDirectory := workingDirectory
  node path :=
    if path.holdsNull then .impossible
    else if path.isOverlong then .overlong
    else
      match namesBelow? workingDirectory path with
      | some names => tree.walk [] names
      | none =>
        if path.names.isPrefixOf workingDirectory.names then .directory
        else walkOutside path.names

end FileTree

end Caret
