import Caret.Text.Numeral

/-!
# Rendering options

The options of the renderer, and layers of options. A layer sets some of them; layers are
merged field by field, later ones first, and frozen to options in which what no layer sets has
its default and what is out of range is put back.
-/

namespace Caret

/-- The forms of the location in front of a message. -/
inductive LocationFormat where
  | clang
  | msvc
  | vi
  deriving DecidableEq, Repr

namespace LocationFormat

/-- All forms. -/
def all : List LocationFormat := [clang, msvc, vi]

/-- The name of a form. -/
def name : LocationFormat → String
  | clang => "clang"
  | msvc => "msvc"
  | vi => "vi"

/-- The form of a name. -/
def ofName? (name : String) : Option LocationFormat := all.find? fun format ↦ format.name == name

/-- The names of all forms, as they are listed in messages. -/
def choices : String := ", ".intercalate (all.map name)

/-- Every form is found by its name. -/
theorem ofName?_name (format : LocationFormat) : ofName? format.name = some format := by
  cases format <;> decide

end LocationFormat

/-- How diagnostics are rendered. -/
structure Options where
  showColors : Bool := false
  wrapColumn : Int := 0
  tabStop : Int := 8
  macroBacktraceLimit : Int := 6
  parseableFixits : Bool := false
  format : LocationFormat := .clang
  showLocation : Bool := true
  showColumn : Bool := true
  showCarets : Bool := true
  showFixits : Bool := true
  showSourceRanges : Bool := false
  showLineNumbers : Bool := true
  showNoteIncludeStack : Bool := true
  deriving DecidableEq, Repr

/-- The options that one source sets, and the files they come from. -/
structure OptionLayer where
  showColors : Option Bool := none
  wrapColumn : Option Int := none
  tabStop : Option Int := none
  macroBacktraceLimit : Option Int := none
  parseableFixits : Option Bool := none
  format : Option LocationFormat := none
  showLocation : Option Bool := none
  showColumn : Option Bool := none
  showCarets : Option Bool := none
  showFixits : Option Bool := none
  showSourceRanges : Option Bool := none
  showLineNumbers : Option Bool := none
  showNoteIncludeStack : Option Bool := none
  files : List String := []
  deriving DecidableEq, Repr

/-- The greatest tab stop. -/
def Options.maxTabStop : Int := 100

/-- An option that was out of range and is put back. -/
inductive OptionWarning where
  | tabStop (value : Int)
  | wrapColumn (value : Int)
  | macroBacktraceLimit (value : Int)
  deriving DecidableEq, Repr

/-- The report on an option that was put back. -/
def OptionWarning.message : OptionWarning → String
  | .tabStop value =>
    s!"Ignoring invalid tab stop {value} (expected 1..{Options.maxTabStop}); using " ++
      s!"{({} : Options).tabStop}"
  | .wrapColumn value => s!"Ignoring negative wrap column {value}; wrapping disabled"
  | .macroBacktraceLimit value =>
    s!"Ignoring negative macro backtrace limit {value}; using " ++
      s!"{({} : Options).macroBacktraceLimit}"

/-- Whether the report on an option that was put back can be written. -/
def OptionWarning.isWritable : OptionWarning → Bool
  | .tabStop value | .wrapColumn value | .macroBacktraceLimit value => Text.isWritable value

namespace OptionLayer

/-- The layer that sets nothing. -/
def empty : OptionLayer := {}

/-- Two layers as one; the options that `upper` sets come first. -/
def merge (lower upper : OptionLayer) : OptionLayer where
  showColors := upper.showColors <|> lower.showColors
  wrapColumn := upper.wrapColumn <|> lower.wrapColumn
  tabStop := upper.tabStop <|> lower.tabStop
  macroBacktraceLimit := upper.macroBacktraceLimit <|> lower.macroBacktraceLimit
  parseableFixits := upper.parseableFixits <|> lower.parseableFixits
  format := upper.format <|> lower.format
  showLocation := upper.showLocation <|> lower.showLocation
  showColumn := upper.showColumn <|> lower.showColumn
  showCarets := upper.showCarets <|> lower.showCarets
  showFixits := upper.showFixits <|> lower.showFixits
  showSourceRanges := upper.showSourceRanges <|> lower.showSourceRanges
  showLineNumbers := upper.showLineNumbers <|> lower.showLineNumbers
  showNoteIncludeStack := upper.showNoteIncludeStack <|> lower.showNoteIncludeStack
  files := lower.files ++ upper.files

/-- A layer that sets nothing changes no layer below it. -/
theorem merge_empty (layer : OptionLayer) : layer.merge empty = layer := by
  cases layer
  simp [merge, empty]

/-- Above a layer that sets nothing, a layer stays as it is. -/
theorem empty_merge (layer : OptionLayer) : empty.merge layer = layer := by
  cases layer
  simp [merge, empty]

/-- Layers may be merged in any grouping. -/
theorem merge_assoc (a b c : OptionLayer) : (a.merge b).merge c = a.merge (b.merge c) := by
  simp only [merge, List.append_assoc, Option.orElse_eq_orElse, Option.orElse_eq_or,
    Option.or_assoc]

/-- Whether a tab stop is in range. -/
def isTabStop (value : Int) : Bool := 0 < value && value ≤ Options.maxTabStop

/-- What is out of range in a layer, in the order of the reports. -/
def warnings (layer : OptionLayer) : List OptionWarning :=
  (layer.tabStop.filter (!isTabStop ·)).toList.map .tabStop ++
    (layer.wrapColumn.filter (· < 0)).toList.map .wrapColumn ++
    (layer.macroBacktraceLimit.filter (· < 0)).toList.map .macroBacktraceLimit

/-- The layer with what is out of range put back. -/
def sanitized (layer : OptionLayer) : OptionLayer :=
  { layer with
    tabStop := layer.tabStop.map fun value ↦
      if isTabStop value then value else ({} : Options).tabStop
    wrapColumn := layer.wrapColumn.map fun value ↦ max value 0
    macroBacktraceLimit := layer.macroBacktraceLimit.map fun value ↦
      if value < 0 then ({} : Options).macroBacktraceLimit else value }

/-- The options of a layer that is in range; what it does not set has its default. -/
def withDefaults (layer : OptionLayer) : Options :=
  let defaults : Options := {}
  { showColors := layer.showColors.getD defaults.showColors
    wrapColumn := layer.wrapColumn.getD defaults.wrapColumn
    tabStop := layer.tabStop.getD defaults.tabStop
    macroBacktraceLimit := layer.macroBacktraceLimit.getD defaults.macroBacktraceLimit
    parseableFixits := layer.parseableFixits.getD defaults.parseableFixits
    format := layer.format.getD defaults.format
    showLocation := layer.showLocation.getD defaults.showLocation
    showColumn := layer.showColumn.getD defaults.showColumn
    showCarets := layer.showCarets.getD defaults.showCarets
    showFixits := layer.showFixits.getD defaults.showFixits
    showSourceRanges := layer.showSourceRanges.getD defaults.showSourceRanges
    showLineNumbers := layer.showLineNumbers.getD defaults.showLineNumbers
    showNoteIncludeStack := layer.showNoteIncludeStack.getD defaults.showNoteIncludeStack }

/-- The options that a layer stands for. -/
def freeze (layer : OptionLayer) : Options := layer.sanitized.withDefaults

/-- The layer that sets all options. -/
def ofOptions (options : Options) : OptionLayer where
  showColors := some options.showColors
  wrapColumn := some options.wrapColumn
  tabStop := some options.tabStop
  macroBacktraceLimit := some options.macroBacktraceLimit
  parseableFixits := some options.parseableFixits
  format := some options.format
  showLocation := some options.showLocation
  showColumn := some options.showColumn
  showCarets := some options.showCarets
  showFixits := some options.showFixits
  showSourceRanges := some options.showSourceRanges
  showLineNumbers := some options.showLineNumbers
  showNoteIncludeStack := some options.showNoteIncludeStack

/-- The options of the layer that sets all of them are those options. -/
theorem withDefaults_ofOptions (options : Options) :
    (ofOptions options).withDefaults = options := rfl

end OptionLayer

end Caret
