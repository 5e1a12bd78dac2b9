import Caret.Options.Basic
import Caret.Text.LowerCase
import Caret.Toml.Writer

/-!
# Tables of options

Options are kept in a table of a document. Every key of the table sets one option; a key that is
not known is passed over with a warning, and the first value of a wrong type ends the reading.
-/

namespace Caret

open Data (Value Fields)

/-- What is wrong with a table of options. -/
inductive OptionFault where
  | notTable
  | notBoolean (key : String) (given : Value)
  | notInteger (key : String) (given : Value)
  | unknownFormat (given : Value)

namespace Options

/-- The key of the table. -/
def tableKey : String := "diagnostics"

/-- The key of the form of locations. -/
def formatKey : String := "format"

/-- The keys that hold true or false, with the layer that sets them. -/
def booleanKeys : List (String × (Bool → OptionLayer)) :=
  [("show_colors", fun value ↦ { showColors := some value }),
   ("parseable_fixits", fun value ↦ { parseableFixits := some value }),
   ("show_location", fun value ↦ { showLocation := some value }),
   ("show_column", fun value ↦ { showColumn := some value }),
   ("show_carets", fun value ↦ { showCarets := some value }),
   ("show_fixits", fun value ↦ { showFixits := some value }),
   ("show_source_ranges", fun value ↦ { showSourceRanges := some value }),
   ("show_line_numbers", fun value ↦ { showLineNumbers := some value }),
   ("show_note_include_stack", fun value ↦ { showNoteIncludeStack := some value })]

/-- The keys that hold an integer, with the layer that sets them. -/
def integerKeys : List (String × (Int → OptionLayer)) :=
  [("wrap_column", fun value ↦ { wrapColumn := some value }),
   ("tab_stop", fun value ↦ { tabStop := some value }),
   ("macro_backtrace_limit", fun value ↦ { macroBacktraceLimit := some value })]

/-- All options as entries of a table. -/
def entries (options : Options) : Toml.Entries :=
  [("show_colors", .boolean options.showColors),
   ("wrap_column", .integer options.wrapColumn),
   ("tab_stop", .integer options.tabStop),
   ("macro_backtrace_limit", .integer options.macroBacktraceLimit),
   ("parseable_fixits", .boolean options.parseableFixits),
   (formatKey, .string options.format.name),
   ("show_location", .boolean options.showLocation),
   ("show_column", .boolean options.showColumn),
   ("show_carets", .boolean options.showCarets),
   ("show_fixits", .boolean options.showFixits),
   ("show_source_ranges", .boolean options.showSourceRanges),
   ("show_line_numbers", .boolean options.showLineNumbers),
   ("show_note_include_stack", .boolean options.showNoteIncludeStack)]

/-- The options as a document. -/
def document (options : Options) : Toml.Document := { tables := [(tableKey, options.entries)] }

end Options

/-- The description of a fault. -/
def OptionFault.text : OptionFault → String
  | notTable => s!"[{Options.tableKey}] must be a table"
  | notBoolean key given => s!"'{key}' must be a boolean, got {given.literal}"
  | notInteger key given => s!"'{key}' must be an integer, got {given.literal}"
  | unknownFormat given =>
    s!"'{Options.formatKey}' must be one of {LocationFormat.choices}, got {given.literal}"

/-- Whether the description of a fault can be written: the value it shows must be. -/
def OptionFault.isWritable : OptionFault → Bool
  | notTable => true
  | notBoolean _ given | notInteger _ given | unknownFormat given => given.isWritable

/-- A key that is passed over, and the source of its table. -/
structure UnknownKey where
  source : String
  key : String
  deriving DecidableEq, Repr

/-- The warning about a key that is passed over. -/
def UnknownKey.message (unknown : UnknownKey) : String :=
  s!"{unknown.source}: ignoring unknown key '{unknown.key}' in [{Options.tableKey}]"

namespace OptionLayer

/-- The layer that an entry sets, unless its key is not known. -/
def ofEntry (key : String) (value : Value) : Except OptionFault (Option OptionLayer) :=
  match Options.booleanKeys.lookup key, Options.integerKeys.lookup key with
  | some single, _ =>
    match value with
    | .boolean given => .ok (some (single given))
    | _ => .error (.notBoolean key value)
  | none, some single =>
    match value with
    | .integer given => .ok (some (single given))
    | _ => .error (.notInteger key value)
  | none, none =>
    if key = Options.formatKey then
      match LocationFormat.ofName? (Text.lowerString value.plainText) with
      | some format => .ok (some { format := some format })
      | none => .error (.unknownFormat value)
    else .ok none

/-- Reads entries one after the other, behind what `layer` sets. The unknown keys up to the
first fault come along. -/
def readEntries (layer : OptionLayer) : Fields → Except OptionFault OptionLayer × List String
  | [] => (.ok layer, [])
  | (key, value) :: rest =>
    match ofEntry key value with
    | .error fault => (.error fault, [])
    | .ok none =>
      let (result, unknown) := readEntries layer rest
      (result, key :: unknown)
    | .ok (some single) => readEntries (layer.merge single) rest

/-- The layer of a document, and the unknown keys of its table. A document without the table
sets nothing. -/
def ofDocument (document : Fields) : Except OptionFault OptionLayer × List String :=
  match (Fields.get? document Options.tableKey).getD (.record []) with
  | .record fields => readEntries empty fields
  | _ => (.error .notTable, [])

end OptionLayer

/-- The name of a source that has none. -/
def unnamedSource : String := "<config>"

/-- What was read from a source: a layer or a fault, and the keys that were passed over. -/
structure SourcedLayer where
  source : String
  result : Except OptionFault OptionLayer
  unknown : List UnknownKey

/-- The layer of the document from a source; the layer remembers the source, if it has a name. -/
def OptionLayer.ofSource (source : Option String) (document : Fields) : SourcedLayer :=
  let name := source.getD unnamedSource
  let (result, unknown) := ofDocument document
  { source := name
    result := result.map fun layer ↦ { layer with files := source.toList }
    unknown := unknown.map (⟨name, ·⟩) }

/-- The report on a fault in the table of a source. -/
def OptionFault.message (fault : OptionFault) (source : String) : String :=
  s!"{source}: {fault.text}"

end Caret
