import Caret.Config.Basic

/-!
# Loading configuration

The configuration is merged from layers: files found in the directory of the start and those
above it, then files that are named, then what the command line sets. Of two files the one
nearer to the start comes first, and in one directory the one of its own. Which texts are
documents is up to a reader; nothing here depends on how it reads.
-/

namespace Caret.Config

open Data (Value Fields)

/-- What configuration is loaded with: the file system, and the reader of documents. -/
structure Loader where
  files : FileSystem
  read : Text → Except Toml.Error Fields := Toml.read

/-- The files of a system are loaded with the reader of this library. -/
instance : Coe FileSystem Loader := ⟨fun files ↦ { files }⟩

variable (loader : Loader)

/-- The fields of the document in a file. -/
def loadDocument (path : Path) : Logged Fields := do
  match loader.files.readText path with
  | .error (.access .embeddedNull) => throw (.obscure path .embeddedNull)
  | .error (.access error) =>
    log Log.error s!"Error loading TOML from {path.text}: {error.message path}"
    throw (.inaccessible path error)
  | .error (.encoding error) => throw (.undecodable error)
  | .ok text =>
    match loader.read text with
    | .ok fields => return fields
    | .error .malformed =>
      log Log.error s!"Error decoding TOML from {path.text}: {malformedDetail}"
      throw (.malformed path)
    | .error (.conflict conflict) => throw (.conflict conflict)

/-- The fields of a field that holds a record. -/
def recordAt? (fields : Fields) (key : String) : Option Fields :=
  match Fields.get? fields key with
  | some (.record inner) => some inner
  | _ => none

/-- The configuration in a document: a table of the file of a project, if it has one, and the
whole document of any other file. -/
def configurationIn? (path : Path) (document : Fields) : Option Fields :=
  if path.name = projectFile then
    (recordAt? document toolKey).bind (recordAt? · sectionKey)
  else some document

/-- The layer of a file; the file of a project without the table sets nothing. -/
def loadFile (path : Path) : Logged OptionLayer := do
  match configurationIn? path (← loadDocument loader path) with
  | none => return OptionLayer.empty
  | some table =>
    let sourced := OptionLayer.ofSource (some path.text) table
    for unknown in sourced.unknown do
      log Log.warning unknown.message
    match sourced.result with
    | .ok layer => return layer
    | .error fault =>
      throw (if fault.isWritable then .options sourced.source fault else .unwritable)

/-- The configuration in a file that was found; a file that cannot be read is passed over. -/
def inspectFile (path : Path) : Logged (Option Fields) :=
  tryCatch (do return configurationIn? path (← loadDocument loader path)) fun error ↦ do
    if error.isForeseen then
      log Log.warning s!"Skipping unreadable config candidate {path.text}"
      return none
    else throw error

/-- What stands at a path, as far as that can be told. -/
def inspect (path : Path) : Logged Node :=
  let node := loader.files.node path
  match node.obscurity? with
  | some error => throw (.obscure path error)
  | none => return node

/-- Whether a configuration ends the search. -/
def endsSearch (table : Fields) : Bool :=
  match Fields.get? table rootKey with
  | some (.boolean true) => true
  | _ => false

/-- The files with a configuration among some paths, and whether one of them ends the search. -/
def inspectFiles : List Path → Logged (List Path × Bool)
  | [] => return ([], false)
  | path :: rest => do
    let node ← inspect loader path
    let table ← if node.isFile then inspectFile loader path else pure none
    let (found, stops) ← inspectFiles rest
    match table with
    | none => return (found, stops)
    | some table => return (path :: found, stops || endsSearch table)

/-- The files with a configuration in some directories, given from the nearest one upwards; the
files of the nearest come last. -/
def searchUpwards : List Path → Logged (List Path)
  | [] => return []
  | directory :: above => do
    let (found, stops) ← inspectFiles loader (fileNames.map directory.child)
    let outer ← if stops then pure [] else searchUpwards above
    return outer ++ found

/-- The files with a configuration for a file or directory, the nearest last. -/
def discover (start : Path) : Logged (List Path) := do
  let node ← inspect loader start
  let directory := if node.isDirectory then start else start.parent
  searchUpwards loader directory.lineage

/-- The layers of files as one, behind what `merged` sets. -/
def mergeFiles (merged : OptionLayer) : List Path → Logged OptionLayer
  | [] => return merged
  | path :: rest => do mergeFiles (merged.merge (← loadFile loader path)) rest

/-- All layers as one: what is found for the start, if there is one, the files named, and what
is set in the end. -/
def loadMerged (start : Option Path) (named : List Path) (overrides : OptionLayer) :
    Logged OptionLayer := do
  let found ← match start with
    | some path => discover loader path
    | none => pure []
  let merged ← mergeFiles loader OptionLayer.empty (found ++ named)
  return merged.merge overrides

end Caret.Config
