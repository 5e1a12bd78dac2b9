import Caret.Diagnostic.Basic
import Caret.Source.SourceMap
import Caret.Text.Columns

/-!
# The insertion line

The line that shows the texts of insertion hints below the places where they would go. Texts
for the same column are put together; a text that would run into the one before it is moved
behind it, with a blank between them.
-/

namespace Caret.Snippet

open Text

/-- Texts to insert, by columns in ascending order. -/
abbrev Insertions := List (Int × Text)

/-- Adds a text behind those of its column. -/
def Insertions.add : Insertions → Int → Text → Insertions
  | [], column, text => [(column, text)]
  | (other, texts) :: rest, column, text =>
    if column < other then (column, text) :: (other, texts) :: rest
    else if column = other then (other, texts ++ text) :: rest
    else (other, texts) :: Insertions.add rest column text

/-- The column of a hint that goes to a line of a file, if its text has one line only. -/
def insertionColumn? (map : SourceMap) (file line : Int) (hint : FixItHint) : Option Int :=
  let site := map.expansionSite hint.range.start
  if site.file ≠ file ∨ map.lineNumber site.file site.offset ≠ line ∨
      hint.text.any (fun c ↦ c = '\n' || c = '\r') then none
  else some (map.columnNumber site.file site.offset)

/-- The insertions among the hints, or nothing if one of them does not go to the line. -/
def collectInsertions? (map : SourceMap) (file line : Int) (hints : List FixItHint) :
    Option Insertions :=
  (hints.filter (·.isInsertion)).foldlM
    (fun (insertions : Insertions) hint ↦
      (insertionColumn? map file line hint).map (insertions.add · hint.text)) []

/-- The display column of a source column; behind the line, columns are counted on. -/
def targetColumn (line : Text) (tabStop column : Int) : Int :=
  let index := (column - 1).toNat
  match (displayColumns tabStop line 0)[index]? with
  | some target => target
  | none => endColumn line tabStop 0 + ((index : Int) - line.length)

/-- Lays out insertions behind what ends at `written`, if anything was laid out. -/
def layoutFrom (line : Text) (tabStop : Int) : Insertions → Option Int → Text
  | [], _ => []
  | (column, text) :: rest, written =>
    let wanted := targetColumn line tabStop column
    let target := match written with
      | some stop => if wanted < stop then stop + 1 else wanted
      | none => wanted
    let shown := expandTabs tabStop text target
    blanks (target - written.getD 0) ++ shown ++
      layoutFrom line tabStop rest (some (endColumn shown tabStop target))

/-- The line that shows insertions under a source line. -/
def layoutInsertions (line : Text) (insertions : Insertions) (tabStop : Int) : Text :=
  layoutFrom line tabStop insertions none

/-- Whether the insertions can be laid out under a line with a tab stop. -/
def fitLayout (line : Text) (insertions : Insertions) (tabStop : Int) : Bool :=
  fitsTabStop tabStop line && insertions.all fun insertion ↦ fitsTabStop tabStop insertion.2

/-- The insertion line of a source line, if there is anything to insert on it. -/
def insertionLine? (map : SourceMap) (file line : Int) (text : Text) (hints : List FixItHint)
    (tabStop : Int) : Option Text :=
  match collectInsertions? map file line hints with
  | none => none
  | some [] => none
  | some insertions => some (layoutInsertions text insertions tabStop)

end Caret.Snippet
