import Caret.Text.Width

/-!
# Display columns

Source columns count code points; a terminal lays text out in cells. A tab leads to the next
tab stop, every other code point advances by its width. The functions here say at which cell
each code point of a line starts, and write a line without its tabs. Display columns start
at zero.
-/

namespace Caret.Text

/-- The tab stop used to measure text that has no tab stop of its own. -/
def defaultTabStop : Int := 8

/-- The column that a tab typed at `column` leads to: the next multiple of the tab stop. -/
def nextTabStop (column tabStop : Int) : Int := (column.fdiv tabStop + 1) * tabStop

/-- The column behind a code point that starts at `column`. -/
def advance (tabStop column : Int) (c : Char) : Int :=
  if c = '\t' then nextTabStop column tabStop else column + charWidth c

/-- The column at which each code point starts, and last the column behind the text. -/
def displayColumns (tabStop : Int) : Text → Int → List Int
  | [], column => [column]
  | c :: rest, column => column :: displayColumns tabStop rest (advance tabStop column c)

/-- The column behind a text that starts at `column`. -/
def endColumn (text : Text) (tabStop column : Int) : Int := text.foldl (advance tabStop) column

/-- The number of cells a text takes when it starts at `column`. -/
def columnWidth (text : Text) (tabStop column : Int) : Int :=
  endColumn text tabStop column - column

/-- The number of cells a text takes when it starts a line. -/
def displayWidth (text : Text) : Int := columnWidth text defaultTabStop 0

/-- The text with each tab written as the blanks up to the next tab stop. -/
def expandTabs (tabStop : Int) : Text → Int → Text
  | [], _ => []
  | c :: rest, column =>
    let next := advance tabStop column c
    (if c = '\t' then blanks (next - column) else [c]) ++ expandTabs tabStop rest next

/-- Whether a text can be laid out: a tab stop of zero leaves the place of a tab open. -/
def fitsTabStop (tabStop : Int) (text : Text) : Bool := tabStop ≠ 0 || !text.contains '\t'

/-- There is one column for each code point and one behind the text. -/
@[simp] theorem length_displayColumns (tabStop : Int) (text : Text) (column : Int) :
    (displayColumns tabStop text column).length = text.length + 1 := by
  induction text generalizing column with
  | nil => rfl
  | cons c rest ih => simp [displayColumns, ih]

/-- The last of the columns is the one behind the text. -/
theorem getLast?_displayColumns (tabStop : Int) (text : Text) (column : Int) :
    (displayColumns tabStop text column).getLast? = some (endColumn text tabStop column) := by
  induction text generalizing column with
  | nil => rfl
  | cons c rest ih =>
    rw [displayColumns, List.getLast?_cons, ih]
    rfl

/-- The second of two texts ends where it ends when it starts behind the first. -/
theorem endColumn_append (s t : Text) (tabStop column : Int) :
    endColumn (s ++ t) tabStop column = endColumn t tabStop (endColumn s tabStop column) := by
  simp [endColumn, List.foldl_append]

end Caret.Text
