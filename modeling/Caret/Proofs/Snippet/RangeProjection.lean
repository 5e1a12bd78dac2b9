import Caret.Proofs.Snippet.FixItNotes
import Caret.Proofs.Text.Runs

/-!
# The columns that a range covers

On each line of a file, a range of that file covers the columns of the code points between its
ends. A range of tokens ends behind its last token; of the code points between its ends it covers
those from the first to the last one that is no padding. A range of code points that ends between
the halves of a line break covers the place of the first half as well.
-/

namespace Caret

/-! ## Padding at the ends -/

namespace Snippet

open Text

/-- A code point of a text that is no padding. -/
def Shown (text : Text) (index : Nat) : Prop := ∃ c ∈ text[index]?, isPadding c = false

/-- Padding is skipped up to a column exactly if some code point there or in front of it is
shown. -/
theorem skipPadding_le_iff {text : Text} {first index : Nat} (inside : index < text.length) :
    skipPadding text first ≤ index ↔ ∃ start, first ≤ start ∧ start ≤ index ∧ Shown text start := by
  rw [skipPadding, Int.toNat_natCast]
  by_cases behind : first ≤ index
  · have place : index - first < (text.drop first).length := by
      rw [List.length_drop]
      omega
    have run := length_takeWhile_le_iff isPadding place
    constructor
    · intro short
      obtain ⟨start, early, c, there, shown⟩ := run.mp (by omega)
      rw [List.getElem?_drop] at there
      exact ⟨first + start, by omega, by omega, c, there, shown⟩
    · rintro ⟨start, late, early, c, there, shown⟩
      have := run.mpr ⟨start - first, by omega, c, by
        rw [List.getElem?_drop, Nat.add_sub_cancel' late]
        exact there, shown⟩
      omega
  · constructor
    · intro short
      omega
    · rintro ⟨start, late, early, -⟩
      omega

/-- Padding is dropped down to a column exactly if some code point there or behind it is shown. -/
theorem lt_dropPadding_iff {text : Text} {last index : Nat} (inside : last ≤ text.length) :
    index < dropPadding text last ↔ ∃ stop, index ≤ stop ∧ stop < last ∧ Shown text stop := by
  rw [dropPadding, Int.toNat_natCast]
  by_cases front : index < last
  · have size : (text.take last).length = last := by
      rw [List.length_take]
      omega
    have place : last - 1 - index < (text.take last).reverse.length := by
      rw [List.length_reverse, size]
      omega
    have run := length_takeWhile_le_iff isPadding place
    generalize ((text.take last).reverse.takeWhile isPadding).length = padding at run ⊢
    -- The place of a code point in the reversed part of the text.
    have mirrored {stop : Nat} (early : stop < last) :
        (text.take last).reverse[last - 1 - stop]? = text[stop]? := by
      rw [List.getElem?_reverse (by omega), size, Nat.sub_sub_self (by omega),
        List.getElem?_take_of_lt early]
    constructor
    · intro short
      obtain ⟨back, near, c, there, shown⟩ := run.mp (by omega)
      clear run
      have early : last - 1 - back < last := by omega
      refine ⟨last - 1 - back, by omega, early, c, ?_, shown⟩
      rw [← mirrored early, Nat.sub_sub_self (by omega)]
      exact there
    · rintro ⟨stop, late, early, c, there, shown⟩
      have := run.mpr ⟨last - 1 - stop, by omega, c, by rwa [mirrored early], shown⟩
      omega
  · constructor
    · intro short
      omega
    · rintro ⟨stop, late, early, -⟩
      omega

end Snippet

/-! ## Ranges of a file -/

namespace SourceRange

/-- The offset behind a range of a file: that of its end, or behind the token there. -/
def stopOffset (map : SourceMap) (range : SourceRange) : Int :=
  range.stop.offset + if range.isToken then (map.tokenLength range.stop : Int) else 0

/-- Where a range of a file starts; a start behind the file is on no line, and counts as one in
front of the file. -/
def startOffset (text : Text) (range : SourceRange) : Int :=
  if range.start.offset ≤ text.length then range.start.offset else -1

/-- An offset is between the ends of a range of a file. -/
def Includes (map : SourceMap) (range : SourceRange) (offset : Int) : Prop :=
  range.start.offset ≤ offset ∧ offset < range.stopOffset map

instance (map : SourceMap) (range : SourceRange) (offset : Int) :
    Decidable (range.Includes map offset) := inferInstanceAs (Decidable (_ ∧ _))

/-- A range ends between the two halves of the line break at an offset. -/
def EndsInBreak (text : Text) (offset : Nat) (range : SourceRange) : Prop :=
  Source.SplitsBreak text range.stop.offset ∧ range.stop.offset = offset + 1

/-- A range ends at or behind the start of its last token. -/
theorem le_stopOffset (map : SourceMap) (range : SourceRange) :
    range.stop.offset ≤ range.stopOffset map := by
  rw [stopOffset]
  split <;> omega

/-- A range of one file: both ends are places of the file, and no line break is in the last token
of a range of tokens. -/
structure OfFile (map : SourceMap) (file : Int) (entry : SourceFile) (range : SourceRange) :
    Prop where
  startInFile : range.start.isFile = true
  stopInFile : range.stop.isFile = true
  startFile : range.start.file = file
  stopFile : range.stop.file = file
  startBounds : 0 ≤ range.start.offset ∧ range.start.offset ≤ entry.text.length
  stopBounds : 0 ≤ range.stop.offset ∧ range.stop.offset ≤ entry.text.length
  lastToken : ∀ index : Nat, range.stop.offset ≤ index → (index : Int) < range.stopOffset map →
    ∀ c ∈ entry.text[index]?, Source.isLineBreak c = false

namespace OfFile

variable {map : SourceMap} {file : Int} {entry : SourceFile} {range : SourceRange}
  (h : range.OfFile map file entry)

include h

private theorem stopOffset_le (stored : map.file? file = some entry) :
    range.stopOffset map ≤ entry.text.length := by
  have token := Source.Token.add_lengthAt_le h.stopBounds.2
  have length := FixItReader.tokenLength_of_isFile h.stopInFile (h.stopFile ▸ stored)
  have bounds := h.stopBounds
  rw [stopOffset, length]
  split <;> omega

private theorem stopOffset_le_of_lt {start : Nat} (member : start ∈ Source.lineStarts entry.text)
    (front : range.stop.offset < start) : range.stopOffset map ≤ start := by
  refine Int.not_lt.mp fun beyond ↦ ?_
  have forward := h.stopBounds.1
  rcases List.mem_cons.mp member with rfl | later
  · omega
  · obtain ⟨before, c, behind, whole, ends, reach, -⟩ := Source.exists_of_mem_breakEnds later
    have there : entry.text[before.length]? = some c := by simp [whole]
    have kept := h.lastToken before.length (by omega) (by omega) c there
    exact Bool.false_ne_true (kept.symm.trans ends)

private theorem stopOffset_le_lineEnd (stored : map.file? file = some entry) {start : Nat}
    (onLine : range.stop.offset ≤ Source.lineEnd entry.text start) :
    range.stopOffset map ≤ Source.lineEnd entry.text start := by
  refine Int.not_lt.mp fun beyond ↦ ?_
  have inside := h.stopOffset_le stored
  obtain ⟨front, c, behind, whole, ends, reach⟩ :=
    Source.exists_break_of_lineEnd_lt
      (show Source.lineEnd entry.text start < entry.text.length by omega)
  have there : entry.text[front.length]? = some c := by simp [whole]
  have kept := h.lastToken front.length (by omega) (by omega) c there
  exact Bool.false_ne_true (kept.symm.trans ends)

private theorem stopOffset_eq_of_splitsBreak
    (split : Source.SplitsBreak entry.text range.stop.offset) :
    range.stopOffset map = range.stop.offset := by
  have forward := h.stopBounds.1
  refine Int.le_antisymm (Int.not_lt.mp fun more ↦ ?_) (range.le_stopOffset map)
  have kept := h.lastToken range.stop.offset.toNat (by omega) (by omega) '\n' split.2.2
  exact absurd kept (by decide)

end OfFile

end SourceRange

namespace Snippet

/-! ## Columns of a line -/

/-- A span of columns, if there is one, holds a column. -/
def Covers (columns : Option ColumnRange) (column : Int) : Prop :=
  ∃ span ∈ columns, span.start ≤ column ∧ column < span.stop

/-- The columns between two indices of a line, of tokens without the padding at either end. -/
def columnsBetween (isToken : Bool) (line : Text) (first last : Nat) : Option ColumnRange :=
  let start : Int := if isToken then skipPadding line first else first
  let stop : Int := if isToken then dropPadding line (min (last : Int) line.length) else last
  if stop < start then none else some ⟨start + 1, stop + 1⟩

variable {isToken : Bool} {line : Text} {first last : Nat}

/-- A column between two indices is between what the padding leaves of them. -/
theorem covers_columnsBetween_iff {column : Int} :
    Covers (columnsBetween isToken line first last) (column + 1) ↔
      (if isToken then skipPadding line first else first) ≤ column ∧
        column < if isToken then dropPadding line (min (last : Int) line.length) else last := by
  unfold columnsBetween
  generalize (if isToken then skipPadding line first else (first : Int)) = start
  generalize (if isToken then dropPadding line (min (last : Int) line.length) else (last : Int)) =
    stop
  dsimp only [Covers]
  split
  · next inverted =>
    simp only [Option.mem_def, reduceCtorEq, false_and, exists_false, false_iff]
    omega
  · simp only [Option.mem_def, Option.some.injEq, exists_eq_left']
    omega

/-- Of the code points between two indices of a line, the columns of tokens are those from the first
to the last one that is shown, and all of them otherwise. -/
theorem covers_columnsBetween_index_iff {index : Nat} (inside : index < line.length) :
    Covers (columnsBetween isToken line first last) (index + 1) ↔
      if isToken then
        (∃ start, first ≤ start ∧ start ≤ index ∧ Shown line start) ∧
          ∃ stop, index ≤ stop ∧ stop < min last line.length ∧ Shown line stop
      else first ≤ index ∧ index < last := by
  have shorter : min (last : Int) line.length = (min last line.length : Nat) := by omega
  rw [covers_columnsBetween_iff, shorter]
  cases isToken with
  | true =>
    exact and_congr (skipPadding_le_iff inside) (lt_dropPadding_iff (Nat.min_le_right _ _))
  | false => exact and_congr Int.ofNat_le Int.ofNat_lt

/-- No column is outside of the two indices. -/
theorem bounds_of_covers_columnsBetween {column : Int}
    (h : Covers (columnsBetween isToken line first last) (column + 1)) :
    first ≤ column ∧ column < last ∧ (isToken = true → column < line.length) := by
  obtain ⟨behind, front⟩ := covers_columnsBetween_iff.mp h
  cases isToken with
  | true =>
    simp only [if_true] at behind front
    unfold skipPadding at behind
    unfold dropPadding at front
    omega
  | false => exact ⟨behind, front, fun token ↦ absurd token Bool.false_ne_true⟩

/-- What a range of files covers, from the lines and columns of its ends. -/
theorem project?_eq_of_isFile (map : SourceMap) {range : SourceRange}
    (startInFile : range.start.isFile = true) (stopInFile : range.stop.isFile = true)
    (number file : Int) (line : Text) :
    project? map range number file line =
      if range.start.file ≠ file ∨ range.stop.file ≠ file then none
      else
        let startLine := map.lineNumber range.start.file range.start.offset
        let stopLine := map.lineNumber range.stop.file range.stop.offset
        if startLine > number ∨ stopLine < number then none
        else
          let first :=
            if startLine = number then
              max (map.columnNumber range.start.file range.start.offset - 1) 0
            else 0
          let last :=
            if stopLine = number then
              let column := map.columnNumber range.stop.file range.stop.offset
              if column = 0 then (line.length : Int)
              else column - 1 + (if range.isToken then (map.tokenLength range.stop : Int) else 0)
            else line.length
          let first := if range.isToken then skipPadding line first else first
          let last := if range.isToken then dropPadding line (min last line.length) else last
          if last < first then none else some ⟨first + 1, last + 1⟩ := by
  have start := FixItReader.expansionSite_of_isFile map startInFile
  have stop := FixItReader.expansionSite_of_isFile map stopInFile
  have valid : range.isValid = true := by
    rw [SourceRange.isValid, Bool.and_eq_true, Location.isValid_iff, Location.isValid_iff]
    exact ⟨Or.inl startInFile, Or.inl stopInFile⟩
  have ends : siteEnds map range = (range.start, range.stop) := by
    simp [siteEnds, start, stop, FixItReader.isMacro_of_isFile stopInFile]
  simp only [project?, valid, ends, start, stop, Bool.not_true, Bool.false_eq_true, if_false]

variable {map : SourceMap} {place : Place} {entry : SourceFile} {start : Nat}
  {range : SourceRange}

/-- An offset with the number of a line is behind the text of the line only between the halves of
the line break there. -/
theorem Place.OfLine.splitsBreak_of_lineEnd_lt (known : place.OfLine map entry start) {offset : Int}
    (same : map.lineNumber place.file offset = place.line)
    (outside : (Source.lineEnd entry.text start : Int) < offset) :
    Source.SplitsBreak entry.text offset ∧ offset = Source.lineEnd entry.text start + 1 := by
  obtain ⟨⟨forward, inside⟩, -⟩ := known.of_lineNumber same
  simp only [SourceMap.lineNumber, known.stored] at same
  obtain ⟨first, found, -, last⟩ := Source.exists_start_of_bounds forward inside
  rw [same, known.starts] at found
  cases found
  exact Source.splitsBreak_of_lineEnd_lt inside last outside

/-- The offsets with the number of a line or a later one are those from the start of the line to the
end of the file. -/
theorem Place.OfLine.le_lineNumber_iff (known : place.OfLine map entry start) {offset : Int} :
    place.line ≤ map.lineNumber place.file offset ↔
      (start : Int) ≤ offset ∧ offset ≤ entry.text.length := by
  simp only [SourceMap.lineNumber, known.stored]
  by_cases outside : offset < 0 ∨ offset > entry.text.length
  · have first : ¬place.line < 1 := by
      intro before
      have none := known.starts
      rw [Source.lineStart?, if_pos before] at none
      cases none
    rw [Source.lineNumber, if_pos outside]
    omega
  · rw [Source.le_lineNumber_iff known.starts (by omega) (by omega)]
    omega

/-- What is on a later line is behind the text of the line. -/
theorem Place.OfLine.lt_of_lt_lineNumber (known : place.OfLine map entry start) {offset : Int}
    (later : place.line < map.lineNumber place.file offset) :
    ((start + place.text.length : Nat) : Int) < offset := by
  have bounds := known.le_lineNumber_iff.mp (Int.le_of_lt later)
  simp only [SourceMap.lineNumber, known.stored] at later
  have behind := Source.lineEnd_lt_of_lt_lineNumber known.starts (by omega) bounds.2 later
  rwa [known.lineEnd_eq] at behind

/-- On a line, the column of the end of a range gives the offset behind its last token. -/
theorem Place.OfLine.stopColumn_eq (known : place.OfLine map entry start)
    (same : map.lineNumber place.file range.stop.offset = place.line) :
    map.columnNumber place.file range.stop.offset - 1 +
      (if range.isToken then (map.tokenLength range.stop : Int) else 0) =
        range.stopOffset map - start := by
  rw [(known.of_lineNumber same).2.2, SourceRange.stopOffset]
  omega

/-- A range that does not start behind a line starts on it where its start is, or with the line. -/
theorem first_eq_max (known : place.OfLine map entry start)
    (early : map.lineNumber place.file range.start.offset ≤ place.line) :
    (if map.lineNumber place.file range.start.offset = place.line then
      max (map.columnNumber place.file range.start.offset - 1) 0 else 0) =
      max (range.startOffset entry.text - start) 0 := by
  unfold SourceRange.startOffset
  split
  · next same =>
    obtain ⟨⟨-, inside⟩, behind, column⟩ := known.of_lineNumber same
    rw [if_pos inside, column]
    omega
  · next other =>
    have front : ¬place.line ≤ map.lineNumber place.file range.start.offset := by omega
    rw [known.le_lineNumber_iff] at front
    split <;> omega

/-- A range that starts on a line or before it starts at an index of the line: that of its start, or
the first one. -/
theorem exists_first_index (known : place.OfLine map entry start)
    (h : range.OfFile map place.file entry)
    (early : map.lineNumber place.file range.start.offset ≤ place.line) :
    ∃ first : Nat,
      (if map.lineNumber place.file range.start.offset = place.line then
        max (map.columnNumber place.file range.start.offset - 1) 0 else 0) = (first : Int) ∧
      ∀ index : Nat, first ≤ index ↔ range.start.offset ≤ ((start + index : Nat) : Int) := by
  have bounds := h.startBounds
  rw [first_eq_max known early, SourceRange.startOffset, if_pos bounds.2]
  exact ⟨(range.start.offset - start).toNat, by omega, fun index ↦ by omega⟩

/-- A range that ends on a line or behind it ends at an index of the line: that of its end, or the
one behind the line. Only an end between the halves of the line break is behind the line itself. -/
theorem exists_last_index (known : place.OfLine map entry start)
    (h : range.OfFile map place.file entry)
    (late : place.line ≤ map.lineNumber place.file range.stop.offset) :
    ∃ last : Nat,
      (if map.lineNumber place.file range.stop.offset = place.line then
        if map.columnNumber place.file range.stop.offset = 0 then (place.text.length : Int)
        else map.columnNumber place.file range.stop.offset - 1 +
          (if range.isToken then (map.tokenLength range.stop : Int) else 0)
        else place.text.length) = (last : Int) ∧
      (∀ index < place.text.length,
        index < last ↔ ((start + index : Nat) : Int) < range.stopOffset map) ∧
      (place.text.length < last ↔ range.EndsInBreak entry.text (start + place.text.length)) ∧
      last ≤ place.text.length + 1 := by
  have forward := range.le_stopOffset map
  split
  · next same =>
    obtain ⟨-, behind, column⟩ := known.of_lineNumber same
    have half (beyond : ((start + place.text.length : Nat) : Int) < range.stopOffset map) :
        range.EndsInBreak entry.text (start + place.text.length) := by
      have outside : (Source.lineEnd entry.text start : Int) < range.stop.offset := by
        refine Int.not_le.mp fun inside ↦ ?_
        have := h.stopOffset_le_lineEnd known.stored inside
        rw [known.lineEnd_eq] at this
        omega
      obtain ⟨split, place⟩ := known.splitsBreak_of_lineEnd_lt same outside
      rw [known.lineEnd_eq] at place
      exact ⟨split, place⟩
    have single (split : range.EndsInBreak entry.text (start + place.text.length)) :
        range.stopOffset map = (start + place.text.length : Nat) + 1 :=
      (h.stopOffset_eq_of_splitsBreak split.1).trans split.2
    rw [if_neg (by omega), known.stopColumn_eq same]
    refine ⟨(range.stopOffset map - start).toNat, by omega, fun index _ ↦ by omega, ?_, ?_⟩
    · constructor
      · intro beyond
        exact half (by omega)
      · intro split
        have := single split
        omega
    · by_cases beyond : ((start + place.text.length : Nat) : Int) < range.stopOffset map
      · have := single (half beyond)
        omega
      · omega
  · next other =>
    have further : place.line < map.lineNumber place.file range.stop.offset := by omega
    have behind := known.lt_of_lt_lineNumber further
    simp only [SourceMap.lineNumber, known.stored] at other
    refine ⟨place.text.length, rfl, fun index inside ↦ by omega, ?_, Nat.le_succ _⟩
    refine iff_of_false (Nat.lt_irrefl _) ?_
    rintro ⟨split, here⟩
    exact other
      (Source.lineNumber_eq_of_splitsBreak known.starts split (by rw [known.lineEnd_eq, here]))

/-- The indices of a line that a range of its file reaches: those of the code points of the line
and, if the range ends between the halves of the line break, that of the first half. -/
def Place.Reaches (place : Place) (text : Text) (start : Nat) (range : SourceRange) (index : Nat) :
    Prop :=
  index < place.text.length ∨
    index = place.text.length ∧ range.EndsInBreak text (start + place.text.length)

/-- On a line of its file, a range covers nothing if it includes none of the indices that it
reaches; otherwise it covers the columns between two indices that bound those that it includes. -/
theorem project?_of_ofLine (known : place.OfLine map entry start)
    (h : range.OfFile map place.file entry) :
    (project? map range place.line place.file place.text = none ∧
      ∀ index, place.Reaches entry.text start range index →
        ¬range.Includes map ((start + index : Nat) : Int)) ∨
    ∃ first last, project? map range place.line place.file place.text =
        columnsBetween range.isToken place.text first last ∧
      ∀ index, first ≤ index ∧ index < last ↔
        range.Includes map ((start + index : Nat) : Int) ∧
          place.Reaches entry.text start range index := by
  have forward := range.le_stopOffset map
  have sameFile : ¬(range.start.file ≠ place.file ∨ range.stop.file ≠ place.file) := by
    simp [h.startFile, h.stopFile]
  rw [project?_eq_of_isFile map h.startInFile h.stopInFile, if_neg sameFile, h.startFile,
    h.stopFile]
  dsimp only
  split
  · next apart =>
    refine Or.inl ⟨rfl, fun index reached included ↦ ?_⟩
    obtain ⟨begun, open_end⟩ := included
    rcases apart with later | earlier
    · have behind := known.lt_of_lt_lineNumber later
      rcases reached with inside | ⟨rfl, -⟩ <;> omega
    · have front : ¬place.line ≤ map.lineNumber place.file range.stop.offset := by omega
      have bounds := h.stopBounds
      rw [known.le_lineNumber_iff] at front
      have := h.stopOffset_le_of_lt (Source.mem_lineStarts_of_lineStart? known.starts) (by omega)
      omega
  · next meets =>
    obtain ⟨first, first_eq, firsts⟩ := exists_first_index known h (by omega)
    obtain ⟨last, last_eq, lasts, beyond, atMost⟩ := exists_last_index known h (by omega)
    refine Or.inr ⟨first, last, by rw [first_eq, last_eq, columnsBetween], fun index ↦ ?_⟩
    rw [firsts index]
    rcases Nat.lt_trichotomy index place.text.length with inside | rfl | outside
    · rw [lasts index inside]
      exact (and_iff_left (Or.inl inside)).symm
    · rw [beyond]
      constructor
      · rintro ⟨begun, split⟩
        have := split.2
        exact ⟨⟨begun, by omega⟩, Or.inr ⟨rfl, split⟩⟩
      · rintro ⟨⟨begun, -⟩, inside | ⟨-, split⟩⟩
        · exact absurd inside (Nat.lt_irrefl _)
        · exact ⟨begun, split⟩
    · refine iff_of_false (fun between ↦ by have := between.2; omega) ?_
      rintro ⟨-, inside | ⟨rfl, -⟩⟩ <;> omega

/-- A code point that is shown is on the line. -/
theorem Shown.lt_length {line : Text} {index : Nat} (h : Shown line index) :
    index < line.length := by
  obtain ⟨c, there, -⟩ := h
  exact (List.getElem?_eq_some_iff.mp there).1

/-- Where a range covers nothing, it covers no column. -/
theorem not_covers_of_eq_none {columns : Option ColumnRange} (h : columns = none) (column : Int) :
    ¬Covers columns column := by
  rintro ⟨span, member, -⟩
  rw [h] at member
  cases member

/-- A range of tokens covers the columns from the first to the last of the code points between its
ends that is shown. -/
def TokenColumn (map : SourceMap) (place : Place) (start : Nat) (range : SourceRange)
    (index : Nat) : Prop :=
  ∃ first last, first ≤ index ∧ index ≤ last ∧
    range.Includes map ((start + first : Nat) : Int) ∧ Shown place.text first ∧
    range.Includes map ((start + last : Nat) : Int) ∧ Shown place.text last

/-- On a line of its file, a range of code points covers those that it reaches between its ends,
and a range of tokens those from the first to the last of them that is shown. -/
theorem covers_project?_iff (known : place.OfLine map entry start)
    (h : range.OfFile map place.file entry) (index : Nat) :
    Covers (project? map range place.line place.file place.text) (index + 1) ↔
      if range.isToken then TokenColumn map place start range index
      else range.Includes map ((start + index : Nat) : Int) ∧
        place.Reaches entry.text start range index := by
  rcases project?_of_ofLine known h with ⟨nothing, outside⟩ | ⟨first, last, between, included⟩
  · refine iff_of_false (not_covers_of_eq_none nothing _) ?_
    split
    · rintro ⟨left, -, -, -, here, there, -⟩
      exact outside left (Or.inl there.lt_length) here
    · rintro ⟨here, reached⟩
      exact outside index reached here
  rw [between]
  split
  · next token =>
    rw [token]
    constructor
    · intro covered
      have inside : index < place.text.length := by
        have := (bounds_of_covers_columnsBetween covered).2.2 rfl
        omega
      obtain ⟨⟨left, late, before, there⟩, right, behind, early, there'⟩ :=
        (covers_columnsBetween_index_iff inside).mp covered
      exact ⟨left, right, before, behind, ((included left).mp (by omega)).1, there,
        ((included right).mp (by omega)).1, there'⟩
    · rintro ⟨left, right, before, behind, here, there, here', there'⟩
      have inside := there'.lt_length
      have late := (included left).mpr ⟨here, Or.inl there.lt_length⟩
      have early := (included right).mpr ⟨here', Or.inl inside⟩
      exact (covers_columnsBetween_index_iff (by omega)).mpr
        ⟨⟨left, late.1, before, there⟩, right, behind, by omega, there'⟩
  · next codePoints =>
    rw [Bool.not_eq_true] at codePoints
    rw [codePoints, covers_columnsBetween_iff, ← included index]
    exact and_congr Int.ofNat_le Int.ofNat_lt

private theorem one_le_of_covers_project? (known : place.OfLine map entry start)
    (h : range.OfFile map place.file entry) {column : Int}
    (covered : Covers (project? map range place.line place.file place.text) column) :
    1 ≤ column := by
  rcases project?_of_ofLine known h with ⟨nothing, -⟩ | ⟨first, last, between, -⟩
  · exact absurd covered (not_covers_of_eq_none nothing column)
  · rw [between, ← Int.sub_add_cancel column 1] at covered
    have := (bounds_of_covers_columnsBetween covered).1
    omega

/-- A range covers exactly its own part of a line, and half of the line break that it ends in. On
each line of its file, a range of tokens covers the columns from the first to the last of the code
points between its ends that is no padding. A range of code points covers the columns of those
between its ends, and the place behind the line if it ends between the halves of the line break
there. A range that ends at or before its start covers nothing, and neither does one that is not of
the file. -/
theorem covered_columns_iff (known : place.OfLine map entry start)
    (startInFile : range.start.isFile = true) (stopInFile : range.stop.isFile = true) :
    let columns := project? map range place.line place.file place.text
    (range.OfFile map place.file entry →
      (∀ column, Covers columns column ↔ ∃ index : Nat, column = index + 1 ∧
        if range.isToken then TokenColumn map place start range index
        else range.Includes map ((start + index : Nat) : Int) ∧
          place.Reaches entry.text start range index) ∧
      (range.stopOffset map ≤ range.start.offset → ∀ column, ¬Covers columns column)) ∧
    (range.start.file ≠ place.file ∨ range.stop.file ≠ place.file → columns = none) := by
  intro columns
  refine ⟨fun h ↦ ?ofFile, fun other ↦ ?elsewhere⟩
  case ofFile =>
    have exact_columns (column : Int) : Covers columns column ↔ ∃ index : Nat, column = index + 1 ∧
        if range.isToken then TokenColumn map place start range index
        else range.Includes map ((start + index : Nat) : Int) ∧
          place.Reaches entry.text start range index := by
      constructor
      · intro covered
        have positive := one_le_of_covers_project? known h covered
        obtain ⟨index, here⟩ := Int.eq_ofNat_of_zero_le (show 0 ≤ column - 1 by omega)
        obtain rfl : column = index + 1 := by omega
        exact ⟨index, rfl, (covers_project?_iff known h index).mp covered⟩
      · rintro ⟨index, rfl, here⟩
        exact (covers_project?_iff known h index).mpr here
    refine ⟨exact_columns, fun inverted column covered ↦ ?_⟩
    -- An offset that is covered would be between the ends.
    obtain ⟨index, -, here⟩ := (exact_columns column).mp covered
    split at here
    · obtain ⟨left, -, -, -, included, -⟩ := here
      exact absurd (Int.lt_of_le_of_lt included.1 included.2) (Int.not_lt.mpr inverted)
    · exact absurd (Int.lt_of_le_of_lt here.1.1 here.1.2) (Int.not_lt.mpr inverted)
  case elsewhere =>
    exact (project?_eq_of_isFile map startInFile stopInFile _ _ _).trans (if_pos other)

/-- A range of two code points and the first half of the line break behind them covers three
columns of a line of two. -/
theorem half_line_break_covered :
    let map : SourceMap := ⟨[{ name := "a.c".toList, text := "ab\r\ncd".toList }], []⟩
    let place : Place := ⟨1, 1, 1, "ab".toList⟩
    let range : SourceRange := ⟨.inFile 1 0, .inFile 1 3, false⟩
    (∃ entry, place.OfLine map entry 0 ∧ range.OfFile map 1 entry) ∧
      ∀ column, Covers (project? map range 1 1 place.text) column ↔ 1 ≤ column ∧ column ≤ 3 := by
  intro map place range
  have line : place.OfLine map { name := "a.c".toList, text := "ab\r\ncd".toList } 0 := by
    constructor <;> decide +kernel
  have ofFile : range.OfFile map 1 { name := "a.c".toList, text := "ab\r\ncd".toList } := by
    refine ⟨rfl, rfl, rfl, rfl, by decide, by decide, fun index late early ↦ ?_⟩
    exact absurd (Int.lt_of_le_of_lt late early) (Int.lt_irrefl 3)
  have half : range.EndsInBreak "ab\r\ncd".toList (0 + 2) := ⟨by decide, rfl⟩
  have stop : range.stopOffset map = 3 := rfl
  have startInFile : range.start.isFile = true := rfl
  have stopInFile : range.stop.isFile = true := rfl
  refine ⟨⟨_, line, ofFile⟩, fun column ↦ ?_⟩
  rw [((covered_columns_iff line startInFile stopInFile).1 ofFile).1 column]
  constructor
  · rintro ⟨index, rfl, ⟨-, inside⟩, -⟩
    rw [stop] at inside
    omega
  · rintro ⟨low, high⟩
    have here : column = 1 ∨ column = 2 ∨ column = 3 := by omega
    rcases here with rfl | rfl | rfl
    · exact ⟨0, rfl, by decide, Or.inl (by decide)⟩
    · exact ⟨1, rfl, by decide, Or.inl (by decide)⟩
    · exact ⟨2, rfl, by decide, Or.inr ⟨rfl, half⟩⟩

end Snippet

end Caret
