import Caret.Batch.Basic
import Caret.Text.LowerCase

/-!
# Loading batches

A document names its files and macros; both are registered in the order in which they are
declared, and a location may refer only to what is declared before it. Loading stops at the
first fault.
-/

namespace Caret.Batch

open Data (Value Fields)

/-- What is registered while a document is loaded. -/
structure Loader where
  map : SourceMap := {}
  macros : List (String × Location) := []
  warnings : List MissingLocation := []

/-- A step of loading; the warnings before a fault are kept. -/
abbrev Load (α : Type) := ExceptT Error (StateM Loader) α

/-- Stops at a fault. -/
def refuse {α : Type} (place : String) (fault : Fault) : Load α := throw (.malformed place fault)

/-! ## Fields -/

/-- The fields of a value that has to be a record. -/
def asRecord (place : String) : Value → Load Fields
  | .record fields => pure fields
  | given => refuse place (.notRecord given)

/-- A field that has to be there. -/
def required (fields : Fields) (key place : String) : Load Value :=
  match Fields.get? fields key with
  | some value => pure value
  | none => refuse place (.missing key)

/-- A string that has to be there. -/
def requiredString (fields : Fields) (key place : String) : Load String := do
  match ← required fields key place with
  | .string value => pure value
  | given => refuse place (.requiresString key given)

/-- An integer that has to be there. -/
def requiredInteger (fields : Fields) (key place : String) : Load Int := do
  match ← required fields key place with
  | .integer value => pure value
  | given => refuse place (.requiresInteger key given)

/-- The items of a list that may be missing. -/
def optionalList (fields : Fields) (key place : String) : Load (List Value) :=
  match Fields.get? fields key with
  | none => pure []
  | some (.list items) => pure items
  | some _ => refuse place (.notList key)

/-- A string that may be missing. -/
def optionalString (fields : Fields) (key place : String) : Load String :=
  match Fields.get? fields key with
  | none => pure ""
  | some (.string value) => pure value
  | some _ => refuse place (.notString key)

/-- An integer that is not negative; zero if it is missing. -/
def optionalCount (fields : Fields) (key place : String) : Load Int :=
  match Fields.get? fields key with
  | none => pure 0
  | some (.integer value) => if value < 0 then refuse place (.notCount key) else pure value
  | some _ => refuse place (.notCount key)

/-- A field, or null if it is missing. -/
def optional (fields : Fields) (key : String) : Value := (Fields.get? fields key).getD .null

/-- Loads the items of a list in their order, each with its place. -/
def loadItems {α : Type} (load : String → Value → Load α) (place : String) (index : Nat) :
    List Value → Load (List α)
  | [] => pure []
  | item :: rest => do
    let loaded ← load (itemOf place index) item
    let others ← loadItems load place (index + 1) rest
    pure (loaded :: others)

/-! ## Locations -/

/-- A location behind the start of a macro. -/
def loadMacroLocation (place : String) (fields : Fields) (id : String) : Load Location := do
  match (← get).macros.lookup id with
  | none => refuse place (.unknownMacro id)
  | some start => return start.move (← optionalCount fields "offset" place)

/-- A location in a file. -/
def loadFileLocation (place : String) (fields : Fields) : Load Location := do
  let name ← requiredString fields "file" place
  match (← get).map.findFile? name.toList with
  | none => refuse place (.unknownFile name)
  | some file =>
    let line ← requiredInteger fields "line" place
    let column ← requiredInteger fields "column" place
    let loc := (← get).map.locationAt file line column
    if !loc.isValid then
      modify fun loader ↦
        { loader with warnings := loader.warnings ++ [⟨place, name, line, column⟩] }
    return loc

/-- A location; null stands for the invalid one. -/
def loadLocation (place : String) : Value → Load Location
  | .null => pure Location.invalid
  | value => do
    let fields ← asRecord place value
    match Fields.get? fields "macro" with
    | some id => loadMacroLocation place fields id.plainText
    | none => loadFileLocation place fields

/-- The location in a field; the invalid one if it is missing. -/
def loadLocationField (place : String) (fields : Fields) (key : String) : Load Location :=
  loadLocation (fieldOf place key) (optional fields key)

/-- A range; without an end it is the token at its start. -/
def loadRange (place : String) (value : Value) : Load SourceRange := do
  let fields ← asRecord place value
  let start ← loadLocationField place fields "begin"
  let stop ← loadLocation (fieldOf place "end")
    ((Fields.get? fields "end").getD (optional fields "begin"))
  match Fields.get? fields "token" with
  | none => return ⟨start, stop, true⟩
  | some (.boolean isToken) => return ⟨start, stop, isToken⟩
  | some _ => refuse place (.notBoolean "token")

/-! ## Hints and diagnostics -/

/-- The kind of edit that a name stands for. -/
def hintKind? (name : String) : Option FixItKind :=
  if name = "insert" ∨ name = "insertion" then some .insertion
  else if name = "remove" ∨ name = "removal" then some .removal
  else if name = "replace" ∨ name = "replacement" then some .replacement
  else none

/-- A fix-it hint. -/
def loadHint (place : String) (value : Value) : Load FixItHint := do
  let fields ← asRecord place value
  let kind := Text.lowerString ((Fields.get? fields "kind").getD (.string "")).plainText
  let text ← optionalString fields "text" place
  match hintKind? kind with
  | some .insertion => return .insertAt (← loadLocationField place fields "at") text.toList
  | some .removal => return ⟨← loadRange (fieldOf place "range") (optional fields "range"), []⟩
  | some .replacement =>
    return ⟨← loadRange (fieldOf place "range") (optional fields "range"), text.toList⟩
  | none => refuse place (.unknownHint kind)

/-- A diagnostic; it is an error unless it says otherwise. -/
def loadDiagnostic (place : String) (value : Value) : Load Diagnostic := do
  let fields ← asRecord place value
  let name := ((Fields.get? fields "severity").getD (.string "error")).plainText
  match Severity.ofText? name.toList with
  | none => refuse place (.unknownSeverity name)
  | some severity =>
    let message ← optionalString fields "message" place
    let location ← loadLocationField place fields "location"
    let ranges ← loadItems loadRange (fieldOf place "ranges") 0
      (← optionalList fields "ranges" place)
    let fixits ← loadItems loadHint (fieldOf place "fixits") 0
      (← optionalList fields "fixits" place)
    return ⟨severity, message.toList, location, ranges, fixits⟩

/-! ## Files and macros -/

/-- Registers a line directive of a file. -/
def loadDirective (file : Int) (place : String) (value : Value) : Load Unit := do
  let fields ← asRecord place value
  let filename ← match optional fields "filename" with
    | .null => pure none
    | .string name => pure (some name.toList)
    | _ => refuse place (.notString "filename")
  let line ← requiredInteger fields "line" place
  let presented ← requiredInteger fields "presented_line" place
  modify fun loader ↦
    { loader with
      map := (loader.map.addDirective? file ⟨line, presented, filename⟩).getD loader.map }

/-- Registers a file. -/
def loadFile (place : String) (value : Value) : Load Unit := do
  let fields ← asRecord place value
  let name ← requiredString fields "name" place
  let text ← requiredString fields "text" place
  let includedFrom ← loadLocationField place fields "included_from"
  let loader ← get
  let (map, file) := loader.map.addFile { name := name.toList, text := text.toList, includedFrom }
  set { loader with map }
  let _ ← loadItems (loadDirective file) (fieldOf place "line_directives") 0
    (← optionalList fields "line_directives" place)

/-- The end of an expansion: that of an argument is its start, and so is any that is empty. -/
def loadExpansionEnd (place : String) (fields : Fields) (start : Location) (isArgument : Bool) :
    Load Location :=
  let value := optional fields "expansion_end"
  if isArgument || !value.isTruthy then pure start
  else loadLocation (fieldOf place "expansion_end") value

/-- Registers a macro expansion. -/
def loadMacro (place : String) (value : Value) : Load Unit := do
  let fields ← asRecord place value
  let id ← requiredString fields "id" place
  if ((← get).macros.lookup id).isSome then refuse place (.duplicateMacro id)
  else
    let spelling ← loadLocationField place fields "spelling"
    let start ← loadLocationField place fields "expansion"
    let length ← optionalCount fields "length" place
    let isArgument := (optional fields "macro_arg").isTruthy
    let stop ← loadExpansionEnd place fields start isArgument
    let loader ← get
    let (map, loc) := loader.map.addExpansion ⟨spelling, start, stop, length, isArgument⟩
    set { loader with map, macros := loader.macros ++ [(id, loc)] }

/-! ## Documents -/

/-- The batch of a document. -/
def loadValue (document : Value) : Load Batch := do
  let fields ← asRecord "batch" document
  let _ ← loadItems loadFile "files" 0 (← optionalList fields "files" "batch")
  let _ ← loadItems loadMacro "macros" 0 (← optionalList fields "macros" "batch")
  let diagnostics ← loadItems loadDiagnostic "diagnostics" 0
    (← optionalList fields "diagnostics" "batch")
  return ⟨(← get).map, diagnostics⟩

/-- The batch of a document, and the warnings about locations that do not exist. -/
def ofValue (document : Value) : Except Error Batch × List MissingLocation :=
  let (result, loader) := (loadValue document).run.run {}
  (result, loader.warnings)

/-- The batch that a text describes, and the warnings about locations that do not exist. -/
def ofText (text : Text) : Except Error Batch × List MissingLocation :=
  match Json.read text with
  | .ok document => ofValue document
  | .error error => (.error (.unreadable text error), [])

end Caret.Batch
