import Caret.Text.Basic

/-!
# Lines of a text

A line ends at a line feed, at a carriage return, or at the two together. Lines and columns
start at one; a line of zero says that an offset has none. The line break itself belongs to
the line it ends, but not to the text of that line.
-/

namespace Caret.Source

/-- Whether a code point ends a line. -/
def isLineBreak (c : Char) : Bool := c = '\n' || c = '\r'

/-- The offsets behind each line break of a text that starts at `offset`. -/
def breakEnds : Text → Nat → List Nat
  | [], _ => []
  | '\r' :: '\n' :: rest, offset => (offset + 2) :: breakEnds rest (offset + 2)
  | c :: rest, offset =>
    if isLineBreak c then (offset + 1) :: breakEnds rest (offset + 1)
    else breakEnds rest (offset + 1)

/-- The offset at which each line starts. -/
def lineStarts (text : Text) : List Nat := 0 :: breakEnds text 0

/-- The offset at which a line starts, if there is such a line. -/
def lineStart? (text : Text) (line : Int) : Option Nat :=
  if line < 1 then none else (lineStarts text)[(line - 1).toNat]?

/-- The offset at which the text of a line that starts at `start` ends. -/
def lineEnd (text : Text) (start : Nat) : Nat :=
  start + ((text.drop start).takeWhile fun c ↦ !isLineBreak c).length

/-- The text of a line without its break, if there is such a line. -/
def lineText? (text : Text) (line : Int) : Option Text :=
  (lineStart? text line).map fun start ↦ (text.drop start).takeWhile fun c ↦ !isLineBreak c

/-- The line of an offset: the number of lines that start at or before it, and zero for an
offset outside of the text. -/
def lineNumber (text : Text) (offset : Int) : Nat :=
  if offset < 0 ∨ offset > text.length then 0
  else ((lineStarts text).takeWhile fun (start : Nat) ↦ (start : Int) ≤ offset).length

/-- The column of an offset, and zero for an offset outside of the text. -/
def columnNumber (text : Text) (offset : Int) : Int :=
  match lineStart? text (lineNumber text offset) with
  | some start => offset - start + 1
  | none => 0

/-- The offset of a line and column; columns are moved to the nearest one of the line or just
behind it. -/
def offsetAt? (text : Text) (line column : Int) : Option Int :=
  (lineStart? text line).map fun (start : Nat) ↦
    min ((start : Int) + max column 1 - 1) (lineEnd text start)

/-- There is always a first line. -/
theorem lineStart?_one (text : Text) : lineStart? text 1 = some 0 := rfl

/-- No line break is on a line. -/
theorem isLineBreak_of_mem_lineText? {text line : Text} {number : Int} {c : Char}
    (h : lineText? text number = some line) (hc : c ∈ line) : isLineBreak c = false := by
  rw [lineText?, Option.map_eq_some_iff] at h
  obtain ⟨start, _, rfl⟩ := h
  simpa using List.all_eq_true.1 List.all_takeWhile c hc

end Caret.Source
