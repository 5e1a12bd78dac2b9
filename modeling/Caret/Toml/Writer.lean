import Caret.Data.Value

/-!
# Writing TOML

A document that is written holds single values first and then tables of single values. Every
value stands on a line of its own. Keys are quoted only if they have to be, and strings stand
between double quotes with what cannot stand there escaped.
-/

namespace Caret.Toml

open Data (Value Fields)
open Text (hexadecimal)

/-- A value that fits on a line. -/
inductive Scalar where
  | boolean (value : Bool)
  | integer (value : Int)
  | string (value : String)
  deriving DecidableEq, Repr

/-- Values under their keys. -/
abbrev Entries := List (String × Scalar)

/-- What a document holds: single values, and tables of them. -/
structure Document where
  entries : Entries := []
  tables : List (String × Entries) := []
  deriving DecidableEq, Repr

namespace Scalar

/-- The value on a line; other values have no place on one, and null is written nowhere. -/
def ofValue? : Value → Option Scalar
  | .boolean value => some (.boolean value)
  | .integer value => some (.integer value)
  | .string value => some (.string value)
  | _ => none

/-- The value that is written. -/
def toValue : Scalar → Value
  | .boolean value => .boolean value
  | .integer value => .integer value
  | .string value => .string value

/-- What is written is the value it was made of. -/
theorem ofValue?_toValue (scalar : Scalar) : ofValue? scalar.toValue = some scalar := by
  cases scalar <;> rfl

end Scalar

/-- The single values among some fields. -/
def entriesOf (fields : Fields) : Entries :=
  fields.filterMap fun field ↦ (Scalar.ofValue? field.2).map (field.1, ·)

namespace Document

/-- The document of some fields: single values first, in their order, and then the tables. -/
def ofFields (fields : Fields) : Document where
  entries := entriesOf fields
  tables := fields.filterMap fun field ↦
    match field.2 with
    | .record inner => some (field.1, entriesOf inner)
    | _ => none

end Document

/-- The escapes of a letter. -/
def shortEscapes : List (Char × Char) :=
  [('\x08', 'b'), ('\t', 't'), ('\n', 'n'), ('\x0c', 'f'), ('\r', 'r'), ('"', '"'), ('\\', '\\')]

/-- Whether a code point may not stand in a string. -/
def isControl (c : Char) : Bool := c.toNat < 0x20 || c.toNat = 0x7F

/-- A code point between double quotes. -/
def escapedChar (c : Char) : Text :=
  match shortEscapes.lookup c with
  | some letter => ['\\', letter]
  | none => if isControl c then '\\' :: 'u' :: hexadecimal 4 c.toNat else [c]

/-- A string between double quotes. -/
def quotedString (s : String) : Text := '"' :: s.toList.flatMap escapedChar ++ ['"']

/-- Whether a code point may stand in a key without quotes. -/
def isBareChar (c : Char) : Bool := c.isAlphanum || c = '-' || c = '_'

/-- A key, quoted unless it is made of bare code points only. -/
def keyText (key : String) : Text :=
  let text := key.toList
  if text ≠ [] ∧ text.all isBareChar then text else quotedString key

/-- A value on a line. -/
def Scalar.text : Scalar → Text
  | .boolean value => (if value then "true" else "false").toList
  | .integer value => Text.ofInt value
  | .string value => quotedString value

/-- Whether a value can be written: an integer must not have too many digits. -/
def Scalar.isWritable : Scalar → Bool
  | .integer value => Text.isWritable value
  | _ => true

/-- The line of a value. -/
def entryLine (entry : String × Scalar) : Text := keyText entry.1 ++ " = ".toList ++ entry.2.text

/-- The lines of a table. -/
def tableLines (table : String × Entries) : List Text :=
  ('[' :: keyText table.1 ++ [']']) :: table.2.map entryLine

/-- The lines of a document: an empty one in front of each table that does not come first. -/
def Document.lines (document : Document) : List Text :=
  let blocks := document.entries.map entryLine :: document.tables.map tableLines
  ((blocks.filter (!·.isEmpty)).intersperse [[]]).flatten

/-- A document as text. -/
def Document.text (document : Document) : Text := document.lines.flatMap (· ++ ['\n'])

/-- Whether all values of a document can be written. -/
def Document.isWritable (document : Document) : Bool :=
  (document.entries :: document.tables.map (·.2)).all (·.all (·.2.isWritable))

/-- A document as text, if it can be written. -/
def Document.text? (document : Document) : Option Text :=
  if document.isWritable then some document.text else none

end Caret.Toml
