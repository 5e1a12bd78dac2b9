import Caret.Text.Cells

/-!
# Trimming a snippet

A snippet wider than the terminal is trimmed to a region of cells around its marks and
insertions. The region grows word by word to both sides while it fits. What is cut is replaced
by an ellipsis, and the lines under the source are shifted by the same distance as the source.
-/

namespace Caret.Snippet

open Text

/-- What stands for source text that was cut in front. -/
def frontEllipsis : Text := "  ...".toList

/-- What stands for source text that was cut behind. -/
def backEllipsis : Text := "...".toList

/-- The cells kept free for the ellipses. -/
def ellipsisReserve : Nat := 8

/-- Whether a cell is the second one of a wide glyph. -/
def isContinuation (row : List Text) (index : Nat) : Bool := row[index]? == some []

/-- Whether a cell shows a blank. -/
def isSpaceCell (row : List Text) (index : Nat) : Bool := row[index]? == some [' ']

/-- The start of the glyph in front of a cell. -/
def previousGlyph (row : List Text) : Nat → Nat
  | 0 => 0
  | index + 1 =>
    if index > 0 && isContinuation row index then previousGlyph row index else index

/-- The glyph in front of a cell starts in front of it. -/
theorem previousGlyph_le (row : List Text) (index : Nat) :
    previousGlyph row index ≤ index - 1 := by
  induction index with
  | zero => exact Nat.le_refl 0
  | succ index ih =>
    rw [previousGlyph]
    split
    · omega
    · omega

/-- The cells from `index` on that satisfy a test, counted. -/
def runLength (row : List Text) (test : Text → Bool) (index : Nat) : Nat :=
  ((row.drop index).takeWhile test).length

/-- The start of the glyph behind a cell. -/
def nextGlyph (row : List Text) (index : Nat) : Nat :=
  index + 1 + runLength row (· = []) (index + 1)

/-- The glyph in front of `index`, `index` itself included, that is no blank; the first cell if
there is none. The bound is a number of steps that is enough. -/
def skipSpacesBack (row : List Text) : Nat → Nat → Nat
  | 0, index => index
  | bound + 1, index =>
    if index > 0 && isSpaceCell row index then
      skipSpacesBack row bound (previousGlyph row index)
    else index

/-- The start of the word that the glyph at `index` belongs to. -/
def wordStart (row : List Text) : Nat → Nat → Nat
  | 0, index => index
  | bound + 1, index =>
    if index = 0 then index
    else
      let previous := previousGlyph row index
      if isSpaceCell row previous then index else wordStart row bound previous

/-- The start of the word in front of a cell. -/
def extendLeft (row : List Text) (start : Nat) : Nat :=
  let glyph := skipSpacesBack row row.length (previousGlyph row start)
  wordStart row row.length glyph

/-- The glyph from `index` on that does not satisfy a test; the end of the row if there is
none. -/
def skipRight (row : List Text) (test : Nat → Bool) : Nat → Nat → Nat
  | 0, index => index
  | bound + 1, index =>
    if index < row.length && test index then skipRight row test bound (nextGlyph row index)
    else index

/-- The end of the word behind a cell. -/
def extendRight (row : List Text) (stop : Nat) : Nat :=
  let glyph := skipRight row (isSpaceCell row) row.length (nextGlyph row stop)
  skipRight row (!isSpaceCell row ·) row.length glyph

/-- A half-open span of cells. -/
structure Span where
  start : Nat
  stop : Nat
  deriving DecidableEq, Repr

/-- One round of growth: a word in front, and then a word behind, each if the span does not
become wider than the target. -/
def Span.growOnce (row : List Text) (target : Int) (span : Span) : Span :=
  let left := extendLeft row span.start
  let grown : Span :=
    if 0 < span.start ∧ (span.stop : Int) - left ≤ target then ⟨left, span.stop⟩ else span
  let right := extendRight row grown.stop
  if grown.stop < row.length ∧ (right : Int) - grown.start ≤ target then ⟨grown.start, right⟩
  else grown

/-- Grows a span until neither side has a word that fits; the bound is a number of rounds. -/
def Span.grow (row : List Text) (target : Int) : Nat → Span → Span
  | 0, span => span
  | bound + 1, span =>
    let grown := span.growOnce row target
    if grown = span then span else grown.grow row target bound

/-- Moves the ends of a span to the ends of glyphs. -/
def Span.wholeGlyphs (row : List Text) (span : Span) : Span :=
  { start :=
      if isContinuation row span.start then previousGlyph row span.start else span.start
    stop := span.stop + runLength row (· = []) span.stop }

/-- The smallest span that holds both. -/
def Span.union (a b : Span) : Span := ⟨min a.start b.start, max a.stop b.stop⟩

/-- The span of the marks of a row. -/
def inkOf (row : List Text) : Span := ⟨(inkSpan row).1, (inkSpan row).2⟩

/-- The lines of a snippet that share display columns. -/
structure Lines where
  source : Text
  caret : Text
  fixit : Option Text
  deriving DecidableEq, Repr

/-- The cells of a caret line; each mark takes one. -/
def markCells (caret : Text) : List Text := caret.map fun mark ↦ [mark]

/-- The cells of an insertion line; an empty one counts as none. -/
def fixitCells (fixit : Option Text) : List Text := cells (fixit.getD [])

/-- The span that has to stay: all marks and all insertions, in whole glyphs of the source. -/
def requiredSpan (row : List Text) (lines : Lines) : Span :=
  let marks := inkOf (markCells lines.caret)
  let insertions := inkOf (fixitCells lines.fixit)
  let both := if insertions.start < insertions.stop then marks.union insertions else marks
  both.wholeGlyphs row

/-- The cells of the source that are kept, and the number of required cells behind the end of
the source. -/
def keptSpan (row : List Text) (lines : Lines) (columns : Int) : Span × Nat :=
  let required := requiredSpan row lines
  let onSource : Span := ⟨min required.start row.length, min required.stop row.length⟩
  let outside :=
    (required.stop - required.start) - (onSource.stop - onSource.start)
  let reserve : Int := ellipsisReserve + outside
  let target := if columns > reserve then columns - reserve else columns
  (onSource.grow row target (row.length + 1), outside)

/-- The text of a span of cells. -/
def spanText (row : List Text) (start stop : Nat) : Text := ((row.take stop).drop start).flatten

/-- Trims the lines of a snippet to the region of interest, if they are wider than `columns`. -/
def trimLines (lines : Lines) (columns : Int) : Lines :=
  let row := cells lines.source
  let width := max row.length (max lines.caret.length (fixitCells lines.fixit).length)
  if (width : Int) ≤ columns then lines
  else
    let (span, outside) := keptSpan row lines columns
    let stop := span.stop + outside
    let shift : Text := if span.start > 0 then blanks frontEllipsis.length else []
    { source := (if span.start > 0 then frontEllipsis else []) ++
        spanText row span.start span.stop ++
        (if span.stop < row.length then backEllipsis else [])
      caret := shift ++ (lines.caret.take stop).drop span.start
      fixit :=
        if fixitCells lines.fixit = [] then none
        else some (shift ++ spanText (fixitCells lines.fixit) span.start stop) }

end Caret.Snippet
