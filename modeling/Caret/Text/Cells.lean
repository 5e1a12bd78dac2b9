import Caret.Text.Width

/-!
# Cells

A tab-free text cut into the cells of a terminal row. Each cell holds the glyph that starts
there with the combining marks on it; the second cell of a wide glyph is empty.
-/

namespace Caret.Text

/-- Adds a code point behind the cells laid out so far. A code point without width joins the
last cell; in front of all cells it takes one of its own. -/
def pushCell (cells : List Text) (c : Char) : List Text :=
  match charWidth c, cells.getLast? with
  | 0, some last => cells.dropLast ++ [last ++ [c]]
  | 0, none => [[c]]
  | width + 1, _ => cells ++ [c] :: List.replicate width []

/-- The cells of a text, from left to right. -/
def cells (text : Text) : List Text := text.foldl pushCell []

/-- Whether a cell shows nothing. -/
def isBlankCell (cell : Text) : Bool := cell = [' '] || cell = []

/-- The half-open span of cells between the leading and the trailing blank ones. -/
def inkSpan (row : List Text) : Nat × Nat :=
  let first := (row.takeWhile isBlankCell).length
  (first, row.length - min (row.length - first) (row.reverse.takeWhile isBlankCell).length)

end Caret.Text
