import Caret.Diagnostic.Basic
import Caret.Json.Reader
import Caret.Source.SourceMap

/-!
# Batches

A batch is a source map together with the diagnostics to render. It is described by a document;
what is wrong with a document is reported with the place in it. A location of a line that does
not exist is no fault: it becomes the invalid location, with a warning.
-/

namespace Caret

open Data (Value)

/-- A source map and the diagnostics to render. -/
structure Batch where
  map : SourceMap
  diagnostics : List Diagnostic

namespace Batch

/-- What is wrong at a place of a document. -/
inductive Fault where
  /-- Something else stands where a record is expected. -/
  | notRecord (given : Value)
  /-- A record lacks a field. -/
  | missing (key : String)
  /-- A required field holds something else than a string. -/
  | requiresString (key : String) (given : Value)
  /-- A required field holds something else than an integer. -/
  | requiresInteger (key : String) (given : Value)
  /-- A field holds something else than a list. -/
  | notList (key : String)
  /-- A field holds something else than a string. -/
  | notString (key : String)
  /-- A field holds something else than true or false. -/
  | notBoolean (key : String)
  /-- A field holds something else than an integer that is not negative. -/
  | notCount (key : String)
  | unknownFile (name : String)
  | unknownMacro (id : String)
  | duplicateMacro (id : String)
  | unknownHint (kind : String)
  | unknownSeverity (name : String)

/-- The description of a fault. -/
def Fault.text : Fault → String
  | notRecord given => s!"expected an object, got {given.literal}"
  | missing key => s!"missing '{key}'"
  | requiresString key given => s!"'{key}' must be str, got {given.literal}"
  | requiresInteger key given => s!"'{key}' must be int, got {given.literal}"
  | notList key => s!"'{key}' must be a list"
  | notString key => s!"'{key}' must be a string"
  | notBoolean key => s!"'{key}' must be a boolean"
  | notCount key => s!"'{key}' must be a non-negative integer"
  | unknownFile name => s!"unknown file '{name}'"
  | unknownMacro id => s!"unknown macro '{id}'"
  | duplicateMacro id => s!"duplicate macro id '{id}'"
  | unknownHint kind =>
    s!"'kind' must be one of insert, remove, replace; got {Text.quotedString kind}"
  | unknownSeverity name => Severity.unknownText name.toList

/-- Why there is no batch. -/
inductive Error where
  | malformed (place : String) (fault : Fault)
  | unreadable (document : Text) (error : Json.Error)

/-- The report on a document that gives no batch. -/
def Error.message : Error → String
  | malformed place fault => s!"{place}: {fault.text}"
  | unreadable document error =>
    match error with
    | .violation _ _ => s!"Invalid JSON: {error.message document}"
    | .integerTooLong _ | .tooDeep => error.message document

/-- Whether the document is to blame; a limit of the reader is not the fault of the document. -/
def Error.blamesDocument : Error → Bool
  | unreadable _ (.integerTooLong _) | unreadable _ .tooDeep => false
  | _ => true

/-- A location that does not exist: the place in the document, and the file, line and column
that it asks for. -/
structure MissingLocation where
  place : String
  file : String
  line : Int
  column : Int
  deriving DecidableEq, Repr

/-- The warning about a location that does not exist. -/
def MissingLocation.message (missing : MissingLocation) : String :=
  s!"{missing.place}: {missing.file}:{missing.line}:{missing.column} does not exist; " ++
    "using an invalid location"

/-- The place of a field. -/
def fieldOf (place key : String) : String := s!"{place}.{key}"

/-- The place of an item of a list. -/
def itemOf (place : String) (index : Nat) : String := s!"{place}[{index}]"

end Batch

end Caret
