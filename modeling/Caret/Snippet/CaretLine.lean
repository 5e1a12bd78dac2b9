import Caret.Source.Location
import Caret.Text.Annotation

/-!
# The caret line

The line under a source line: underlines below the ranges, and a caret below the place of the
diagnostic and below each range that is a single point. Underlines are drawn first, so that a
caret is never hidden. The line has one mark per code point of the source line and reaches past
its end only for a caret there.
-/

namespace Caret.Snippet

open Text

/-- Underlines the columns of a span. -/
def underline (marks : Text) (range : ColumnRange) : Text :=
  marks.mapIdx fun index mark ↦
    if range.start ≤ (index : Int) + 1 ∧ (index : Int) + 1 < range.stop then underlineMark
    else mark

/-- Puts a caret at a column, or behind the line if the column is not on it. -/
def putCaret (marks : Text) (column : Int) : Text :=
  let index := (column - 1).toNat
  if index < marks.length then marks.set index caretMark else marks ++ [caretMark]

/-- A caret is put on the line or makes it longer by one mark. -/
theorem length_putCaret (marks : Text) (column : Int) :
    (putCaret marks column).length =
      if (column - 1).toNat < marks.length then marks.length else marks.length + 1 := by
  simp only [putCaret]
  split
  · exact List.length_set
  · exact List.length_append

/-- The marks under a line for a caret and for ranges of columns. -/
def caretLine (line : Text) (caret : Int) (ranges : List ColumnRange) : Text :=
  let clipped := ranges.filterMap (·.clip? line.length)
  let underlined := (clipped.filter (!·.isEmpty)).foldl underline (blanks line.length)
  let points := (clipped.filter (·.isEmpty)).map (·.start) ++ [max caret 1]
  points.foldl putCaret underlined

/-- Underlining does not change the length of a line. -/
@[simp] theorem length_underline (marks : Text) (range : ColumnRange) :
    (underline marks range).length = marks.length := by
  simp [underline]

end Caret.Snippet
