import Caret.Text.Columns

/-!
# Annotated lines

An annotation holds one mark per code point of a source line and possibly marks past its end.
When the line is expanded for display, each mark is widened to the cells of its code point, so
that the two lines stay aligned: an underline is repeated, any other mark is followed by
blanks, and the mark of a code point without width is dropped.
-/

namespace Caret.Text

/-- The mark of an underlined code point. -/
def underlineMark : Char := '~'

/-- The mark of a single position. -/
def caretMark : Char := '^'

/-- A mark widened to `width` cells. -/
def widenMark (mark : Char) (width : Int) : Text :=
  if width = 0 then []
  else mark :: List.replicate (width - 1).toNat (if mark = underlineMark then mark else ' ')

/-- Expands a line that starts at `column` together with its annotation. Missing marks are
blanks, and the marks past the end of the line stay as they are. -/
def expandFrom (tabStop : Int) : Text → Text → Int → Text × Text
  | [], marks, _ => ([], marks)
  | c :: rest, marks, column =>
    let next := advance tabStop column c
    let tail := expandFrom tabStop rest marks.tail next
    ((if c = '\t' then blanks (next - column) else [c]) ++ tail.1,
      widenMark (marks.headD ' ') (next - column) ++ tail.2)

/-- Expands a line and its annotation for display. -/
def expandAnnotated (line annotation : Text) (tabStop : Int) : Text × Text :=
  expandFrom tabStop line annotation 0

/-- The line of an expanded pair is the line with its tabs expanded. -/
theorem expandFrom_fst (tabStop : Int) (line marks : Text) (column : Int) :
    (expandFrom tabStop line marks column).1 = expandTabs tabStop line column := by
  induction line generalizing marks column with
  | nil => rfl
  | cons c rest ih => simp [expandFrom, expandTabs, ih]

end Caret.Text
