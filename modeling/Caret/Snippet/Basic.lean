import Caret.Diagnostic.Message
import Caret.Options.Basic
import Caret.Snippet.CaretLine
import Caret.Snippet.Insertions
import Caret.Snippet.Projection
import Caret.Snippet.Region

/-!
# Snippets

The block under a diagnostic: the source line, the caret line and the insertion line, behind a
margin with the line number, and notes on the hints that remove or replace text of the line.
-/

namespace Caret

open Text Snippet

/-- A snippet on display columns, without margin and styles. -/
structure SnippetLines where
  line : Int
  source : Text
  caret : Text
  fixit : Option Text := none
  deriving DecidableEq, Repr

namespace SnippetLines

/-- The least number of cells for the line number. -/
def minNumberWidth : Nat := 4

/-- A text without the blanks at its end. -/
def dropTrailingSpaces (text : Text) : Text := (text.reverse.dropWhile (· = ' ')).reverse

/-- The margins of the source line and of the lines under it; they are equally wide. -/
def margins (line : Int) (options : Options) : Text × Text :=
  if options.showLineNumbers then
    let number := ofInt line
    let width := max minNumberWidth number.length
    (' ' :: List.replicate (width - number.length) ' ' ++ number ++ " | ".toList,
      List.replicate (width + 2) ' ' ++ "| ".toList)
  else if options.showSourceRanges then ([' '], [' '])
  else ([], [])

/-- The style of the caret line. -/
def caretStyle : Style := { foreground := some .green, bold := some true }

/-- The style of the insertion line. -/
def fixitStyle : Style := { foreground := some .green }

/-- The printed lines of a snippet; an empty insertion line is left out. -/
def format (snippet : SnippetLines) (options : Options) : List Text :=
  let (sourceMargin, margin) := margins snippet.line options
  let fixit := snippet.fixit.getD []
  [sourceMargin ++ snippet.source,
    margin ++ caretStyle.applyIf options.showColors snippet.caret] ++
    if fixit = [] then [] else [margin ++ fixitStyle.applyIf options.showColors fixit]

end SnippetLines

namespace Snippet

/-- A place in a file with the text of its line. -/
structure Place where
  file : Int
  line : Int
  column : Int
  text : Text
  deriving DecidableEq, Repr

/-- The place of a location, if its line is known. -/
def place? (map : SourceMap) (loc : Location) : Option Place :=
  let site := map.expansionSite loc
  let line := map.lineNumber site.file site.offset
  if line = 0 then none
  else
    (map.lineText? site.file line).map fun text ↦
      ⟨site.file, line, map.columnNumber site.file site.offset, text⟩

/-- The lines of a snippet on display columns, before they are trimmed. -/
def fullLines (map : SourceMap) (place : Place) (ranges : List SourceRange)
    (hints : List FixItHint) (options : Options) : Lines :=
  let projected := ranges.filterMap (project? map · place.line place.file place.text)
  let expanded :=
    expandAnnotated place.text (caretLine place.text place.column projected) options.tabStop
  { source := expanded.1
    caret := expanded.2
    fixit :=
      if options.showFixits then
        insertionLine? map place.file place.line place.text hints options.tabStop
      else none }

/-- The snippet of a location, unless the text of its line is unknown. -/
def build? (map : SourceMap) (loc : Location) (ranges : List SourceRange)
    (hints : List FixItHint) (options : Options) : Option SnippetLines :=
  (place? map loc).map fun place ↦
    let full := fullLines map place ranges hints options
    let lines :=
      if options.wrapColumn ≠ 0 ∧ displayWidth full.source > options.wrapColumn then
        trimLines full options.wrapColumn
      else full
    ⟨place.line, lines.source, SnippetLines.dropTrailingSpaces lines.caret, lines.fixit⟩

/-- The text that a hint on the line of a place takes out, if there is any. -/
def removedText? (map : SourceMap) (place : Place) (hint : FixItHint) : Option Text :=
  if !hint.range.isValid then none
  else
    let start := map.expansionSite hint.range.start
    let stop := map.expansionSite hint.range.stop
    if map.lineNumber start.file start.offset ≠ place.line ∨
        map.lineNumber stop.file stop.offset ≠ place.line then none
    else
      match project? map hint.range place.line place.file place.text with
      | none => none
      | some columns =>
        if columns.isEmpty then none
        else some (slice place.text (columns.start - 1).toNat (columns.stop - 1).toNat)

/-- What a hint that removes or replaces text says in words. -/
def noteText? (map : SourceMap) (place : Place) (hint : FixItHint) : Option Text :=
  match hint.kind with
  | .insertion => none
  | .removal =>
    (removedText? map place hint).map fun removed ↦
      "remove '".toList ++ removed ++ ['\'']
  | .replacement =>
    (removedText? map place hint).map fun removed ↦
      "replace '".toList ++ removed ++ "' with '".toList ++ hint.text ++ ['\'']

/-- A note without location, not wrapped. -/
def plainNote (colors : Bool) (text : Text) : Text :=
  Severity.note.labelText colors ++ Severity.note.messageText text 0 0 colors

/-- The notes on the hints that remove or replace text of the line of a location. -/
def fixitNotes (map : SourceMap) (loc : Location) (hints : List FixItHint) (colors : Bool) :
    List Text :=
  match place? map loc with
  | none => []
  | some place => (hints.filterMap (noteText? map place)).map (plainNote colors)

/-- All lines shown under a diagnostic at a location. -/
def render (map : SourceMap) (loc : Location) (ranges : List SourceRange)
    (hints : List FixItHint) (options : Options) : List Text :=
  match build? map loc ranges hints options with
  | none => []
  | some snippet =>
    snippet.format options ++
      if options.showFixits then fixitNotes map loc hints options.showColors else []

end Snippet

end Caret
