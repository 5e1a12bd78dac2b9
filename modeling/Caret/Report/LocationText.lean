import Caret.Options.Basic
import Caret.Snippet.Projection
import Caret.Text.Numeral

/-!
# The location in front of a message

A message starts with the file, line and column of its place in one of several forms, and, if
asked for, the lines and columns of its ranges.
-/

namespace Caret.Report

open Text

/-- The lines and columns of a range, if both ends are in the file of the caret. -/
def rangeText? (map : SourceMap) (caretFile : Int) (range : SourceRange) : Option Text :=
  if !range.isValid then none
  else
    let (start, stop) := Snippet.siteEnds map range
    let startSite := map.expansionSite start
    let stopSite := map.expansionSite stop
    if startSite.file ≠ caretFile ∨ stopSite.file ≠ caretFile then none
    else
      let tokenLength : Int := if range.isToken then map.tokenLength stop else 0
      some ('\x7b' :: ofInt (map.lineNumber startSite.file startSite.offset) ++ ':' ::
        ofInt (map.columnNumber startSite.file startSite.offset) ++ '-' ::
        ofInt (map.lineNumber stopSite.file stopSite.offset) ++ ':' ::
        ofInt (map.columnNumber stopSite.file stopSite.offset + tokenLength) ++ ['\x7d'])

/-- The lines and columns of the ranges that are in the file of a location. -/
def rangesText (map : SourceMap) (loc : Location) (ranges : List SourceRange) : Text :=
  (ranges.filterMap (rangeText? map (map.expansionSite loc).file)).flatten

/-- The line and column of a position in a form; columns of the second form start at zero. -/
def positionText (format : LocationFormat) (line : Int) (column : Option Int) : Text :=
  match format with
  | .clang => ':' :: ofInt line ++ (column.map fun c ↦ ':' :: ofInt c).getD [] ++ [':']
  | .msvc => '(' :: ofInt line ++ (column.map fun c ↦ ',' :: ofInt (c - 1)).getD [] ++
      ") :".toList
  | .vi => " +".toList ++ ofInt line ++ (column.map fun c ↦ ':' :: ofInt c).getD [] ++ [':']

/-- Whether a position can be shown: a line number has too many digits only if a directive has
set it. -/
def canShow (options : Options) (presumed : Option Presumed) : Bool :=
  !options.showLocation || presumed.all (isWritable ·.line)

/-- What stands in front of the label of a message about a valid location: the file name alone
if its position is unknown, and nothing if locations are not shown. -/
def locationText (map : SourceMap) (options : Options) (loc : Location)
    (presumed : Option Presumed) (ranges : List SourceRange) : Text :=
  match presumed with
  | none =>
    match map.file? (map.expansionSite loc).file with
    | some entry => if entry.name = [] then [] else entry.name ++ ": ".toList
    | none => []
  | some position =>
    if !options.showLocation then []
    else
      let column :=
        if options.showColumn ∧ position.column ≠ 0 then some position.column else none
      let info := if options.showSourceRanges then rangesText map loc ranges else []
      position.filename ++ positionText options.format position.line column ++
        (if info = [] then [] else info ++ [':']) ++ [' ']

end Caret.Report
