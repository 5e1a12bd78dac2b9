import Caret.Text.Basic

/-!
# Paths

A path is a list of names behind an anchor; a path without an anchor is relative to the working
directory. Empty names and single dots are left out when a path is read, two dots are not: what
they stand for is known to the file system only.
-/

namespace Caret

/-- Whether a name has more octets than a file system takes for one name. -/
def isOverlongName (name : String) : Bool := 255 < name.utf8ByteSize

/-- Whether the text of a path has more octets than a file system takes at once. -/
def isOverlongText (text : String) : Bool := 4095 < text.utf8ByteSize

/-- A path: what stands in front of the names, and the names. -/
structure Path where
  anchor : String := ""
  names : List String := []
  deriving DecidableEq, Repr

namespace Path

/-- The names in a text: the pieces between slashes that name something. -/
def namesIn (text : Text) : List String :=
  ((Text.splitAt '/' text).map String.ofList).filter fun name ↦ name ≠ "" && name ≠ "."

/-- The anchor of a text: one slash, or exactly two. -/
def anchorOf (text : Text) : String :=
  match (text.takeWhile (· = '/')).length with
  | 0 => ""
  | 2 => "//"
  | _ => "/"

/-- Reads a path. -/
def ofString (s : String) : Path := ⟨anchorOf s.toList, namesIn s.toList⟩

/-- The working directory, as a relative path. -/
def here : Path := {}

/-- Whether a path depends on the working directory. -/
def isRelative (path : Path) : Bool := path.anchor == ""

/-- A path as text; the relative path without names is a dot. -/
def text (path : Path) : String :=
  let names := "/".intercalate path.names
  if path.anchor = "" then (if path.names = [] then "." else names)
  else if path.names = [] ∨ path.anchor.endsWith "/" then path.anchor ++ names
  else path.anchor ++ "/" ++ names

/-- Whether a path has more octets than a file system takes at once. -/
def isOverlong (path : Path) : Bool := isOverlongText path.text

/-- Whether a path holds the null character, so that nothing can stand there. -/
def holdsNull (path : Path) : Bool := path.names.any (·.contains '\x00')

/-- The path of an entry of a directory. -/
def child (path : Path) (name : String) : Path := { path with names := path.names ++ [name] }

/-- The path behind another one; an anchored path stands for itself. -/
def append (base path : Path) : Path :=
  if path.isRelative then { base with names := base.names ++ path.names } else path

/-- The last name of a path; nothing if there is none. -/
def name (path : Path) : String := path.names.getLast?.getD ""

/-- The directory that a path leads to an entry of; a path without names is its own. -/
def parent (path : Path) : Path := { path with names := path.names.dropLast }

/-- A path and all directories above it, the nearest first. -/
def lineage (path : Path) : List Path :=
  (List.range (path.names.length + 1)).reverse.map fun count ↦
    { path with names := path.names.take count }

/-- The path of an entry ends with its name. -/
@[simp] theorem name_child (path : Path) (name : String) : (path.child name).name = name := by
  simp [Path.name, child]

/-- An entry is in the directory it was taken from. -/
@[simp] theorem parent_child (path : Path) (name : String) :
    (path.child name).parent = path := by
  simp [parent, child]

end Path

end Caret
