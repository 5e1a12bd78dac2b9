import Caret.Proofs.Source.LinePartition

/-!
# From a line and column to an offset, and back

A line and a column lead to an offset on that line, and the column of the offset is the nearest one
that the line has; the place just behind its text counts as one. An offset leads to its line and
column and through them back to itself, unless it is the second half of a line break: the place just
behind the text of a line is that of the first half.
-/

namespace Caret

namespace Source

variable {text : Text} {line offset : Int} {start : Nat}

/-! ## Lines -/

/-- The lines of a text are numbered from one to the number of their starts. -/
theorem exists_lineStart?_iff :
    (∃ start, lineStart? text line = some start) ↔
      1 ≤ line ∧ line ≤ (lineStarts text).length := by
  constructor
  · rintro ⟨start, starts⟩
    rw [lineStart?] at starts
    split at starts
    · cases starts
    · have known := (List.getElem?_eq_some_iff.mp starts).1
      omega
  · rintro ⟨first, last⟩
    have known : (line - 1).toNat < (lineStarts text).length := by omega
    refine ⟨(lineStarts text)[(line - 1).toNat], ?_⟩
    rw [lineStart?, if_neg (by omega), List.getElem?_eq_getElem known]

private theorem offsetAt?_of_no_line (none : ¬(1 ≤ line ∧ line ≤ (lineStarts text).length))
    (column : Int) : offsetAt? text line column = .none := by
  rw [offsetAt?, Option.map_eq_none_iff, Option.eq_none_iff_forall_ne_some]
  intro start starts
  exact none (exists_lineStart?_iff.mp ⟨start, starts⟩)

/-! ## Offsets on a line -/

private theorem lineNumber_eq_of_onLine (starts : lineStart? text line = some start)
    (behind : (start : Int) ≤ offset) (before : offset ≤ lineEnd text start) :
    lineNumber text offset = line := by
  obtain ⟨forward, inside⟩ := OnLine.bounds ⟨line, start, starts, behind, before⟩
  have atLeast := (le_lineNumber_iff starts forward inside).mpr behind
  refine Int.le_antisymm (Int.not_lt.mp fun later ↦ ?_) atLeast
  have beyond := lineEnd_lt_of_lt_lineNumber starts forward inside later
  omega

/-- Columns count the offsets from the start of the line. -/
theorem columnNumber_eq_of_lineStart?
    (starts : lineStart? text (lineNumber text offset) = some start) :
    columnNumber text offset = offset - start + 1 := by
  rw [columnNumber, starts]

/-- A line and a column lead to an offset on that line, at the nearest column that it has. -/
theorem exists_offsetAt? (starts : lineStart? text line = some start) (column : Int) :
    ∃ offset, offsetAt? text line column = some offset ∧ lineNumber text offset = line ∧
      columnNumber text offset = min (max column 1) ((lineFrom text start).length + 1) := by
  have length : lineEnd text start = start + (lineFrom text start).length := rfl
  obtain ⟨offset, place⟩ : ∃ offset : Int,
    offset = min ((start : Int) + max column 1 - 1) (lineEnd text start) := ⟨_, rfl⟩
  have here : lineNumber text offset = line :=
    lineNumber_eq_of_onLine starts (by omega) (by omega)
  refine ⟨offset, ?_, here, ?_⟩
  · rw [offsetAt?, starts, Option.map_some, place]
  · rw [columnNumber_eq_of_lineStart? (here ▸ starts)]
    omega

private theorem offsetAt?_of_splitsBreak (split : SplitsBreak text offset) :
    offsetAt? text (lineNumber text offset) (columnNumber text offset) = some (offset - 1) := by
  have known := (List.getElem?_eq_some_iff.mp split.2.2).1
  have positive := split.1
  have inside : offset ≤ text.length := by omega
  obtain ⟨start, starts, before, last⟩ := exists_start_of_bounds (by omega) inside
  have beyond : lineEnd text start < offset := by
    refine Int.not_le.mp fun onLine ↦ ?_
    exact OnLine.not_splitsBreak ⟨_, start, starts, before, onLine⟩ split
  obtain ⟨-, place⟩ := splitsBreak_of_lineEnd_lt inside last beyond
  rw [columnNumber_eq_of_lineStart? starts, offsetAt?, starts, Option.map_some]
  refine congrArg some ?_
  omega

/-- The line and column of an offset lead back to it, and to the first half of a line break from its
second one. -/
theorem offsetAt?_of_bounds (forward : 0 ≤ offset) (inside : offset ≤ text.length) :
    offsetAt? text (lineNumber text offset) (columnNumber text offset) =
      some (if SplitsBreak text offset then offset - 1 else offset) := by
  split
  · next split => exact offsetAt?_of_splitsBreak split
  · next unsplit => exact offsetAt?_lineNumber_columnNumber forward inside unsplit

end Source

/-- A place in a file with a number is a file location. -/
theorem Location.isFile_inFile {file : Int} (positive : 1 ≤ file) (offset : Int) :
    (inFile file offset).isFile = true :=
  Bool.and_eq_true_iff.mpr ⟨decide_eq_true positive, rfl⟩

namespace SourceMap

variable {map : SourceMap} {file : Int} {entry : SourceFile}

/-- The location of a line and column of a known file is that of their offset. -/
theorem locationAt_of_offsetAt? (stored : map.file? file = some entry) {line column offset : Int}
    (found : Source.offsetAt? entry.text line column = some offset) :
    map.locationAt file line column = .inFile file offset := by
  rw [locationAt, stored, Option.bind_some, found]

private theorem file?_eq_none (outside : ¬(1 ≤ file ∧ file ≤ map.files.length)) :
    map.file? file = none := by
  unfold file?
  split
  · rfl
  · exact List.getElem?_eq_none (by omega)

/-- Lines and columns lead to offsets and back. Each line of a file and each column lead to a place
on that line, at the nearest column that the line has; the line and column of each offset lead back
to it, or to the first half of the line break whose second half it is; any other line or file leads
nowhere. -/
theorem line_column_inverse (stored : map.file? file = some entry) :
    (∀ line column : Int, 1 ≤ line → line ≤ (Source.lineStarts entry.text).length →
      ∃ text offset, map.lineText? file line = some text ∧
        map.locationAt file line column = .inFile file offset ∧
        (map.locationAt file line column).isFile = true ∧
        map.lineNumber file offset = line ∧
        map.columnNumber file offset = min (max column 1) (text.length + 1)) ∧
    (∀ offset : Int, 0 ≤ offset → offset ≤ entry.text.length →
      map.locationAt file (map.lineNumber file offset) (map.columnNumber file offset) =
        .inFile file (if Source.SplitsBreak entry.text offset then offset - 1 else offset)) ∧
    (∀ line column : Int, ¬(1 ≤ line ∧ line ≤ (Source.lineStarts entry.text).length) →
      map.locationAt file line column = .invalid) ∧
    ∀ other line column : Int, ¬(1 ≤ other ∧ other ≤ map.files.length) →
      map.locationAt other line column = .invalid := by
  refine ⟨?lines, ?offsets, ?otherLines, ?otherFiles⟩
  case lines =>
    intro line column first last
    obtain ⟨start, starts⟩ := Source.exists_lineStart?_iff.mpr ⟨first, last⟩
    obtain ⟨offset, found, here, at_column⟩ := Source.exists_offsetAt? starts column
    have place := locationAt_of_offsetAt? stored found
    refine ⟨Source.lineFrom entry.text start, offset, ?_, place, ?_, ?_, ?_⟩
    · rw [lineText?, stored, Option.bind_some, Source.lineText?, starts]
      rfl
    · rw [place]
      exact Location.isFile_inFile (getElem?_of_file? stored).1 offset
    · rw [lineNumber, stored]
      exact here
    · rw [columnNumber, stored]
      exact at_column
  case offsets =>
    intro offset forward inside
    rw [lineNumber, columnNumber, stored]
    exact locationAt_of_offsetAt? stored (Source.offsetAt?_of_bounds forward inside)
  case otherLines =>
    intro line column none
    rw [locationAt, stored, Option.bind_some, Source.offsetAt?_of_no_line none]
  case otherFiles =>
    intro other line column outside
    rw [locationAt, file?_eq_none outside, Option.bind_none]

/-- In a file with mixed breaks a column behind its third line is moved to the end of it, the line
feed behind a carriage return leads to that, and there is neither a seventh line nor a second
file. -/
theorem line_column_inverse_mixed_breaks :
    let map := (empty.addFile mixedBreaks).1
    map.file? 1 = some mixedBreaks ∧
    (∃ offset, map.locationAt 1 3 9 = .inFile 1 offset ∧ map.lineNumber 1 offset = 3 ∧
      map.columnNumber 1 offset = 2) ∧
    Source.SplitsBreak mixedBreaks.text 3 ∧
    map.locationAt 1 (map.lineNumber 1 3) (map.columnNumber 1 3) = .inFile 1 2 ∧
    map.locationAt 1 7 1 = .invalid ∧ map.locationAt 2 1 1 = .invalid := by
  intro map
  have stored : map.file? 1 = some mixedBreaks := rfl
  obtain ⟨lines, offsets, otherLines, otherFiles⟩ := line_column_inverse stored
  obtain ⟨text, offset, shown, place, -, line, column⟩ := lines 3 9 (by decide) (by decide)
  have third : map.lineText? 1 3 = some ['b'] := by decide
  obtain rfl : text = ['b'] := Option.some.inj (shown.symm.trans third)
  exact ⟨stored, ⟨offset, place, line, column⟩, by decide, offsets 3 (by decide) (by decide),
    otherLines 7 1 (by decide), otherFiles 2 1 1 (by decide)⟩

end SourceMap

end Caret
