import Caret.Files.Path
import Caret.Text.Utf8

/-!
# File systems

All that is asked of a file system is what stands at a path. Text files are read as UTF-8, with
every end of line as a line feed.
-/

namespace Caret

open Text

/-- What stands at a path. -/
inductive Node where
  | absent
  /-- Nothing, for the path leads through a file. -/
  | blocked
  /-- Nothing, for the links on the way lead in a circle. -/
  | circular
  /-- Nothing can be told, for the path or a name on the way is too long. -/
  | overlong
  /-- Nothing can be told, for a directory on the way may not be searched. -/
  | barred
  /-- Nothing, for the path holds the null character. -/
  | impossible
  | directory
  | file (octets : List UInt8)
  /-- A file that may not be read. -/
  | closed

/-- Why a file cannot be opened. -/
inductive AccessError where
  | notFound
  | notDirectory
  | tooManyLinks
  | isDirectory
  | nameTooLong
  | denied
  | embeddedNull
  deriving DecidableEq, Repr

namespace Node

/-- Whether this is a file. -/
def isFile : Node → Bool
  | file _ | closed => true
  | _ => false

/-- Whether this is a directory. -/
def isDirectory : Node → Bool
  | directory => true
  | _ => false

/-- Why nothing can be told about a path, if that is so. -/
def obscurity? : Node → Option AccessError
  | overlong => some .nameTooLong
  | barred => some .denied
  | _ => none

/-- The octets of a file, or why it cannot be opened. -/
def octets : Node → Except AccessError (List UInt8)
  | file octets => .ok octets
  | directory => .error .isDirectory
  | blocked => .error .notDirectory
  | circular => .error .tooManyLinks
  | overlong => .error .nameTooLong
  | barred | closed => .error .denied
  | impossible => .error .embeddedNull
  | absent => .error .notFound

/-- There are octets in a file that may be read, and nowhere else. -/
theorem octets_eq_ok_iff {node : Node} {octets : List UInt8} :
    node.octets = .ok octets ↔ node = .file octets := by
  cases node <;> simp [Node.octets]

/-- The null character is found in a path before anything else is. -/
theorem octets_eq_embeddedNull_iff {node : Node} :
    node.octets = .error .embeddedNull ↔ node = .impossible := by
  cases node <;> simp [Node.octets]

/-- Of a file it can be told that it is there. -/
theorem obscurity?_of_isFile {node : Node} (file : node.isFile = true) :
    node.obscurity? = none := by
  cases node with
  | file _ | closed => rfl
  | absent | blocked | circular | overlong | barred | impossible | directory => cases file

end Node

/-- A file system: how the working directory is called, and what stands where. -/
structure FileSystem where
  workingDirectory : Path
  node : Path → Node

/-- The number of an error of the system. -/
def AccessError.number? : AccessError → Option Nat
  | notFound => some 2
  | denied => some 13
  | notDirectory => some 20
  | isDirectory => some 21
  | nameTooLong => some 36
  | tooManyLinks => some 40
  | embeddedNull => none

/-- The description of an error. -/
def AccessError.text : AccessError → String
  | notFound => "No such file or directory"
  | denied => "Permission denied"
  | notDirectory => "Not a directory"
  | isDirectory => "Is a directory"
  | nameTooLong => "File name too long"
  | tooManyLinks => "Too many levels of symbolic links"
  | embeddedNull => "embedded null byte"

/-- The report on a file that cannot be opened. -/
def AccessError.message (error : AccessError) (path : Path) : String :=
  match error.number? with
  | some number => s!"[Errno {number}] {error.text}: {quotedString path.text}"
  | none => error.text

/-- Why a file cannot be read. -/
inductive ReadError where
  | access (error : AccessError)
  | encoding (error : Utf8Error)
  deriving DecidableEq, Repr

/-- The report on a file that cannot be read. -/
def ReadError.message (path : Path) : ReadError → String
  | access error => error.message path
  | encoding error => error.message

/-- The octets of a file. -/
def FileSystem.readOctets (files : FileSystem) (path : Path) :
    Except AccessError (List UInt8) :=
  (files.node path).octets

/-- The text of octets: UTF-8 with line feeds. -/
def textOf (octets : List UInt8) : Except Utf8Error Text := (decodeUtf8 octets).map unifyLineEnds

/-- The text of a file. -/
def FileSystem.readText (files : FileSystem) (path : Path) : Except ReadError Text :=
  match files.readOctets path with
  | .error error => .error (.access error)
  | .ok octets => (textOf octets).mapError .encoding

/-- The names of files that have to be anchored are put behind the working directory. -/
def FileSystem.anchored (files : FileSystem) (path : Path) : Path :=
  files.workingDirectory.append path

end Caret
