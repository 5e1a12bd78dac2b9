import Caret.Proofs.Snippet.CaretMarks
import Caret.Proofs.Snippet.RangeProjection
import Caret.Proofs.Text.ExpandedMarks

/-!
# Which ranges are shown as carets

A range is shown as a caret if the part of it on the text of a line is empty. So is a range that is
a single place of the line; but so is also one that ends where the line starts, one that starts
where the text of the line ends and goes on behind it, and one that goes across an empty line.
-/

namespace Caret

/-- A range has no width: both of its ends are at an offset of a file. -/
def SourceRange.IsAt (map : SourceMap) (range : SourceRange) (file offset : Int) : Prop :=
  (range.start.file = file ∧ range.stop.file = file) ∧
    range.start.offset = offset ∧ range.stopOffset map = offset

namespace Snippet

open Text

/-! ## Empty parts -/

/-- The parts of longer ranges that are empty, at their index of a line of `width` code points. The
ends of the range are counted from the start of the line. -/
inductive EmptyPart (width : Nat) (first last : Int) : Nat → Prop where
  /-- The range ends where the line starts. -/
  | endsAtStart (before : first < 0) (here : last = 0) : EmptyPart width first last 0
  /-- The range starts where the text of the line ends. -/
  | startsAtEnd (here : first = width) (behind : width < last) : EmptyPart width first last width
  /-- The range starts in front of an empty line and ends behind it. -/
  | acrossEmptyLine (empty : width = 0) (before : first < 0) (behind : 0 < last) :
    EmptyPart width first last 0

variable {width index : Nat}

/-- The part of a range on a line is empty if the range is a single place there, or longer with an
empty part. -/
theorem bounds_eq_iff {first last : Int} :
    max first 0 = index ∧ min last width = index ↔
      index ≤ width ∧ first = index ∧ last = index ∨ EmptyPart width first last index := by
  constructor
  · rintro ⟨left, right⟩
    rcases Int.lt_trichotomy first index with before | here | behind
    · -- The part starts with the line.
      obtain rfl : index = 0 := by omega
      by_cases more : 0 < last
      · exact Or.inr (.acrossEmptyLine (by omega) (by omega) more)
      · exact Or.inr (.endsAtStart (by omega) (by omega))
    · by_cases more : (index : Int) < last
      · obtain rfl : index = width := by omega
        exact Or.inr (.startsAtEnd here more)
      · exact Or.inl (by omega)
    · omega
  · rintro (place | longer)
    · omega
    · cases longer with
      | endsAtStart before here => omega
      | startsAtEnd here behind => omega
      | acrossEmptyLine empty before behind => omega

/-- A place of a line is not next to padding. -/
def Unpadded (line : Text) (index : Nat) : Prop :=
  (index < line.length → Shown line index) ∧ (0 < index → Shown line (index - 1))

variable {line : Text} {first last : Nat} {isToken : Bool}

/-- Padding is skipped forwards. -/
theorem skipPadding_forward (line : Text) (column : Int) : column ≤ skipPadding line column := by
  unfold skipPadding
  omega

/-- Padding is dropped backwards. -/
theorem dropPadding_backward (line : Text) (column : Int) : dropPadding line column ≤ column := by
  unfold dropPadding
  omega

/-- A part of a line without its padding is empty only if it has been empty before, and its place is
not next to padding. -/
theorem withoutPadding_eq_iff (inside : last ≤ line.length) :
    skipPadding line first = index ∧ dropPadding line last = index ↔
      first = index ∧ last = index ∧ Unpadded line index := by
  constructor
  · rintro ⟨skipped, dropped⟩
    have forward := skipPadding_forward line first
    have backward := dropPadding_backward line last
    -- What is shown in front of the index is directly in front of it.
    have before (positive : 0 < index) : Shown line (index - 1) := by
      have reached : ((index - 1 : Nat) : Int) < dropPadding line last := by omega
      obtain ⟨stop, late, early, shown⟩ := (lt_dropPadding_iff inside).mp reached
      by_cases behind : index ≤ stop
      · have := (lt_dropPadding_iff inside).mpr ⟨stop, behind, early, shown⟩
        omega
      · obtain rfl : stop = index - 1 := by omega
        exact shown
    have same : first = index := by
      by_contra apart
      have positive : 0 < index := by omega
      have shown := before positive
      have short : skipPadding line first ≤ (index - 1 : Nat) :=
        (skipPadding_le_iff shown.lt_length).mpr ⟨index - 1, by omega, Nat.le_refl _, shown⟩
      omega
    have here (more : index < line.length) : Shown line index := by
      obtain ⟨start, late, early, shown⟩ := (skipPadding_le_iff more).mp (Int.le_of_eq skipped)
      obtain rfl : start = index := by omega
      exact shown
    refine ⟨same, ?_, here, before⟩
    by_contra apart
    have := (lt_dropPadding_iff inside).mpr ⟨index, Nat.le_refl _, by omega, here (by omega)⟩
    omega
  · rintro ⟨rfl, rfl, here, before⟩
    have forward := skipPadding_forward line last
    have backward := dropPadding_backward line last
    constructor
    · by_cases more : last < line.length
      · have atMost := (skipPadding_le_iff more).mpr ⟨last, Nat.le_refl _, Nat.le_refl _, here more⟩
        exact Int.le_antisymm atMost forward
      · have none : line.drop last = [] := List.drop_eq_nil_of_le (Nat.le_of_not_lt more)
        simp [skipPadding, none]
    · by_cases positive : 0 < last
      · have atLeast : ((last - 1 : Nat) : Int) < dropPadding line last :=
          (lt_dropPadding_iff inside).mpr ⟨last - 1, Nat.le_refl _, by omega, before positive⟩
        omega
      · obtain rfl : last = 0 := by omega
        rfl

/-- The columns between two indices of a line are a single point if what is between the indices on
the line is empty. -/
theorem pointsTo_columnsBetween_iff :
    (∃ columns ∈ columnsBetween isToken line first last,
      columns.PointsTo line.length (index + 1)) ↔
      first = index ∧ min last line.length = index ∧ (isToken = true → Unpadded line index) := by
  have shorter : min (last : Int) line.length = (min last line.length : Nat) := by omega
  have point (start stop : Int) : (∃ columns ∈ (if stop < start then none
      else some (⟨start + 1, stop + 1⟩ : ColumnRange)), columns.PointsTo line.length (index + 1)) ↔
        max start 0 = index ∧ min stop line.length = index := by
    split
    · simp
      omega
    · simp [ColumnRange.pointsTo_iff]
      omega
  unfold columnsBetween
  rw [point]
  cases isToken with
  | true =>
    have forward := skipPadding_forward line first
    have backward := dropPadding_backward line (min last line.length : Nat)
    have parts : max (skipPadding line first) 0 = index ∧
        min (dropPadding line (min last line.length : Nat)) line.length = index ↔
          skipPadding line first = index ∧
            dropPadding line (min last line.length : Nat) = index := by omega
    simp only [if_true, shorter, parts, withoutPadding_eq_iff (Nat.min_le_right _ _), forall_const]
  | false =>
    simp only [Bool.false_eq_true, if_false, false_implies, and_true]
    omega

/-! ## Ranges on a line -/

variable {map : SourceMap} {place : Place} {entry : SourceFile} {start : Nat} {range : SourceRange}

/-- A range that does not end in front of a line ends on it where its end is, or with the line. -/
theorem exists_last_min (known : place.OfLine map entry start)
    (late : place.line ≤ map.lineNumber place.file range.stop.offset) :
    ∃ last : Nat,
      (if map.lineNumber place.file range.stop.offset = place.line then
        if map.columnNumber place.file range.stop.offset = 0 then (place.text.length : Int)
        else map.columnNumber place.file range.stop.offset - 1 +
          (if range.isToken then (map.tokenLength range.stop : Int) else 0)
        else place.text.length) = (last : Int) ∧
      min (last : Int) place.text.length =
        min (range.stopOffset map - start) place.text.length := by
  have forward := range.le_stopOffset map
  split
  · next same =>
    obtain ⟨-, behind, column⟩ := known.of_lineNumber same
    rw [if_neg (by omega), known.stopColumn_eq same]
    exact ⟨(range.stopOffset map - start).toNat, by omega, by omega⟩
  · next other =>
    have behind := known.lt_of_lt_lineNumber (Int.lt_iff_le_and_ne.mpr ⟨late, Ne.symm other⟩)
    exact ⟨place.text.length, rfl, by omega⟩

/-- What all ranges have in common that are shown as a caret at an index of a line: they are of the
file, do not end in front of the line, and those of tokens are not next to padding. -/
structure Place.MetBy (map : SourceMap) (place : Place) (entry : SourceFile) (start : Nat)
    (range : SourceRange) (index : Nat) : Prop where
  startFile : range.start.file = place.file
  stopFile : range.stop.file = place.file
  reached : (start : Int) ≤ range.stop.offset ∧ range.stop.offset ≤ entry.text.length
  inside : index ≤ place.text.length
  unpadded : range.isToken = true → Unpadded place.text index

private theorem pointsTo_project?_iff (known : place.OfLine map entry start)
    (startInFile : range.start.isFile = true) (stopInFile : range.stop.isFile = true) :
    (∃ columns ∈ project? map range place.line place.file place.text,
      columns.PointsTo place.text.length (index + 1)) ↔
      place.MetBy map entry start range index ∧
        max (range.startOffset entry.text - start) 0 = index ∧
        min (range.stopOffset map - start) place.text.length = index := by
  have nothing : ¬∃ columns ∈ (none : Option ColumnRange),
      columns.PointsTo place.text.length (index + 1) := by simp
  rw [project?_eq_of_isFile map startInFile stopInFile]
  by_cases sameFile : range.start.file = place.file ∧ range.stop.file = place.file
  · obtain ⟨startFile, stopFile⟩ := sameFile
    rw [if_neg (by simp [startFile, stopFile]), startFile, stopFile]
    dsimp only
    by_cases meets : map.lineNumber place.file range.start.offset ≤ place.line ∧
        place.line ≤ map.lineNumber place.file range.stop.offset
    · obtain ⟨early, late⟩ := meets
      obtain ⟨last, last_eq, ends⟩ := exists_last_min known late
      have starts := first_eq_max known early
      obtain ⟨first, first_eq⟩ := Int.eq_ofNat_of_zero_le
        (Int.le_max_right (range.startOffset entry.text - start) 0)
      rw [if_neg (by omega), starts, first_eq, last_eq, ← ends]
      change (∃ columns ∈ columnsBetween range.isToken place.text first last,
        columns.PointsTo place.text.length (index + 1)) ↔ _
      rw [pointsTo_columnsBetween_iff]
      constructor
      · rintro ⟨firstHere, lastHere, unpadded⟩
        have inside : index ≤ place.text.length := by omega
        exact ⟨⟨startFile, stopFile, known.le_lineNumber_iff.mp late, inside, unpadded⟩,
          by omega, by omega⟩
      · rintro ⟨met, firstHere, lastHere⟩
        exact ⟨by omega, by omega, met.unpadded⟩
    · rw [if_pos (by omega)]
      refine iff_of_false nothing ?_
      rintro ⟨met, firstHere, -⟩
      have late := known.le_lineNumber_iff.mpr met.reached
      have beyond : place.line < map.lineNumber place.file range.start.offset := by omega
      have bounds := known.le_lineNumber_iff.mp (Int.le_of_lt beyond)
      have behind := known.lt_of_lt_lineNumber beyond
      have inside := met.inside
      rw [SourceRange.startOffset, if_pos bounds.2] at firstHere
      omega
  · rw [if_pos (by tauto)]
    refine iff_of_false nothing ?_
    rintro ⟨met, -⟩
    exact sameFile ⟨met.startFile, met.stopFile⟩

/-- A range is a single point of a line if it is one in the file, or if it is longer and the part of
it on the line is empty. -/
theorem pointsTo_project?_iff_isAt (known : place.OfLine map entry start)
    (startInFile : range.start.isFile = true) (stopInFile : range.stop.isFile = true) :
    (∃ columns ∈ project? map range place.line place.file place.text,
      columns.PointsTo place.text.length (index + 1)) ↔
      place.MetBy map entry start range index ∧
        (range.IsAt map place.file ((start + index : Nat) : Int) ∨
          EmptyPart place.text.length (range.startOffset entry.text - start)
            (range.stopOffset map - start) index) := by
  rw [pointsTo_project?_iff known startInFile stopInFile]
  refine and_congr_right fun met ↦ ?_
  have inside := met.inside
  have reached := met.reached
  have whole : start + place.text.length ≤ entry.text.length := by
    have part := (List.takeWhile_prefix (l := entry.text.drop start)
      fun c ↦ !Source.isLineBreak c).length_le
    rw [← known.text, List.length_drop] at part
    omega
  have starts : range.startOffset entry.text - start = index ↔
      range.start.offset = ((start + index : Nat) : Int) := by
    unfold SourceRange.startOffset
    split <;> omega
  rw [bounds_eq_iff, starts, SourceRange.IsAt]
  have stops : range.stopOffset map - start = index ↔
      range.stopOffset map = ((start + index : Nat) : Int) := by omega
  simp only [stops, inside, met.startFile, met.stopFile, true_and, and_self]

/-- Among the parts of ranges on a line there is a single point if one of the ranges is a single
place there, or longer with an empty part. -/
theorem exists_pointsTo_project?_iff (known : place.OfLine map entry start)
    {ranges : List SourceRange}
    (inFiles : ∀ range ∈ ranges, range.start.isFile = true ∧ range.stop.isFile = true)
    (index : Nat) :
    (∃ columns ∈ ranges.filterMap (project? map · place.line place.file place.text),
      columns.PointsTo place.text.length (index + 1)) ↔
      (∃ range ∈ ranges, place.MetBy map entry start range index ∧
        range.IsAt map place.file ((start + index : Nat) : Int)) ∨
      ∃ range ∈ ranges, place.MetBy map entry start range index ∧
        EmptyPart place.text.length (range.startOffset entry.text - start)
          (range.stopOffset map - start) index := by
  have point (range : SourceRange) (member : range ∈ ranges) :
      (∃ columns ∈ project? map range place.line place.file place.text,
        columns.PointsTo place.text.length (index + 1)) ↔ _ :=
    pointsTo_project?_iff_isAt known (inFiles range member).1 (inFiles range member).2
  constructor
  · rintro ⟨columns, among, here⟩
    obtain ⟨range, member, projected⟩ := List.mem_filterMap.mp among
    obtain ⟨met, place | longer⟩ := (point range member).mp ⟨columns, projected, here⟩
    · exact Or.inl ⟨range, member, met, place⟩
    · exact Or.inr ⟨range, member, met, longer⟩
  · have drawn {range : SourceRange} (member : range ∈ ranges)
        (here : ∃ columns ∈ project? map range place.line place.file place.text,
          columns.PointsTo place.text.length (index + 1)) :
        ∃ columns ∈ ranges.filterMap (project? map · place.line place.file place.text),
          columns.PointsTo place.text.length (index + 1) := by
      obtain ⟨columns, projected, here⟩ := here
      exact ⟨columns, List.mem_filterMap.mpr ⟨range, member, projected⟩, here⟩
    rintro (⟨range, member, met, place⟩ | ⟨range, member, met, longer⟩)
    · exact drawn member ((point range member).mpr ⟨met, Or.inl place⟩)
    · exact drawn member ((point range member).mpr ⟨met, Or.inr longer⟩)

/-! ## Carets -/

/-- A caret whose column is further behind the marks is put directly behind them. -/
theorem getElem?_putCaret_behind {marks : Text} {column : Int} (behind : marks.length < column)
    (index : Nat) :
    (putCaret marks column)[index]? = some caretMark ↔
      marks[index]? = some caretMark ∨ index = marks.length := by
  have beyond : ¬(column - 1).toNat < marks.length := by omega
  simp only [putCaret, if_neg beyond]
  rcases Nat.lt_trichotomy index marks.length with before | rfl | after
  · simp [List.getElem?_append_left before, Nat.ne_of_lt before]
  · simp
  · have size : (marks ++ [caretMark]).length ≤ index := by
      rw [List.length_append, List.length_singleton]
      exact after
    simp [List.getElem?_eq_none size, List.getElem?_eq_none (Nat.le_of_lt after),
      Nat.ne_of_gt after]

/-- Where a caret line has carets. That of a place further behind the line than directly behind it
is put behind the marks of the ranges. -/
theorem getElem?_caretLine_eq_caret_iff {ranges : List ColumnRange} {caret : Int}
    (first : 1 ≤ caret) (inside : caret ≤ line.length + 2) :
    (caretLine line caret ranges)[index]? = some caretMark ↔
      (index : Int) + 1 = min caret (line.length + 1) ∨
        (∃ range ∈ ranges, range.PointsTo line.length (index + 1)) ∨
        index = line.length + 1 ∧ caret = line.length + 2 ∧
          ∃ range ∈ ranges, range.PointsTo line.length (line.length + 1) := by
  by_cases near : caret ≤ line.length + 1
  · have column : min caret (line.length + 1) = caret := Int.min_eq_left near
    have never : caret ≠ line.length + 2 := by omega
    rw [getElem?_caretLine_eq near, mark_eq_caret_iff, column, HasCaret, Int.max_eq_left first]
    simp only [never, false_and, and_false, or_false]
  · obtain rfl : caret = line.length + 2 := by omega
    have column : min ((line.length : Int) + 2) (line.length + 1) = line.length + 1 := by omega
    have size : (rangeMarks line ranges).length = _ := length_rangeMarks
    rw [caretLine_eq_putCaret, column, Int.max_eq_left first]
    by_cases behind : ∃ range ∈ ranges, range.PointsTo line.length (line.length + 1)
    · rw [if_pos behind] at size
      rw [getElem?_putCaret_behind (by omega), getElem?_rangeMarks, mark_eq_caret_iff, size]
      simp only [behind, and_true]
      constructor
      · rintro (point | further)
        · exact Or.inr (Or.inl point)
        · exact Or.inr (Or.inr further)
      · rintro (here | point | further)
        · obtain rfl : index = line.length := by omega
          exact Or.inl behind
        · exact Or.inl point
        · exact Or.inr further
    · rw [if_neg behind] at size
      rw [getElem?_putCaret_behind (by omega), getElem?_rangeMarks, mark_eq_caret_iff, size]
      simp only [behind, and_false, or_false]
      have here : index = line.length ↔ (index : Int) + 1 = line.length + 1 := by omega
      rw [here, or_comm]

/-! ## Places of a file -/

/-- The place of a file location, by its line and its column there. The column is directly behind
the line at most, or one further between the halves of its line break. -/
theorem exists_ofLine_of_isFile {loc : Location} (inFile : loc.isFile = true)
    (shown : place? map loc = some place) :
    ∃ (entry : SourceFile) (start : Nat), place.OfLine map entry start ∧
      place.column = loc.offset - start + 1 ∧ 1 ≤ place.column ∧
      place.column ≤ place.text.length + 2 := by
  obtain ⟨entry, start, known⟩ := exists_ofLine_of_place? shown
  rw [place?, FixItReader.expansionSite_of_isFile map inFile] at shown
  have coordinates : place.line = map.lineNumber place.file loc.offset ∧
      place.column = map.columnNumber place.file loc.offset := by
    split at shown
    · cases shown
    · obtain ⟨text, -, rfl⟩ := Option.map_eq_some_iff.mp shown
      exact ⟨rfl, rfl⟩
  obtain ⟨-, behind, column⟩ := known.of_lineNumber coordinates.1.symm
  rw [← coordinates.2] at column
  refine ⟨entry, start, known, column, by omega, ?_⟩
  by_cases onLine : loc.offset ≤ Source.lineEnd entry.text start
  · rw [known.lineEnd_eq] at onLine
    omega
  · obtain ⟨-, half⟩ := known.splitsBreak_of_lineEnd_lt coordinates.1.symm (Int.not_le.mp onLine)
    rw [known.lineEnd_eq] at half
    omega

/-- A caret stands at the place of the diagnostic, at each range that is a single place of the line,
and at each longer range with an empty part there; between the halves of a line break the diagnostic
has its caret directly behind the line or behind that of a range. So there are carets only at the
diagnostic and at ranges without width exactly if no longer range has an empty part elsewhere, and
the diagnostic is not between the halves of a line break or a range without width is in front of it.
The caret line below the expanded line has these carets at their display columns. -/
theorem carets_of_ranges {loc : Location} (inFile : loc.isFile = true)
    (shown : place? map loc = some place) {ranges : List SourceRange}
    (inFiles : ∀ range ∈ ranges, range.start.isFile = true ∧ range.stop.isFile = true)
    (hints : List FixItHint) {options : Options} (h : 1 ≤ options.tabStop) :
    ∃ (entry : SourceFile) (start : Nat), place.OfLine map entry start ∧
      place.column = loc.offset - start + 1 ∧
      let width := place.text.length
      let marks := caretLine place.text place.column
        (ranges.filterMap (project? map · place.line place.file place.text))
      let single (index : Nat) := ∃ range ∈ ranges, place.MetBy map entry start range index ∧
        range.IsAt map place.file ((start + index : Nat) : Int)
      let zeroWidth (index : Nat) := ∃ range ∈ ranges,
        range.IsAt map place.file ((start + index : Nat) : Int)
      let emptied (index : Nat) := ∃ range ∈ ranges, place.MetBy map entry start range index ∧
        EmptyPart width (range.startOffset entry.text - start) (range.stopOffset map - start) index
      (∀ index : Nat, marks[index]? = some caretMark ↔
        (index : Int) + 1 = min place.column (width + 1) ∨ single index ∨ emptied index ∨
          index = width + 1 ∧ place.column = width + 2 ∧ (single width ∨ emptied width)) ∧
      ((∀ index : Nat, marks[index]? = some caretMark →
          (index : Int) + 1 = place.column ∨ zeroWidth index) ↔
        (∀ index : Nat, emptied index → (index : Int) + 1 = place.column ∨ zeroWidth index) ∧
          (place.column = width + 2 → zeroWidth width)) ∧
      ∀ cell : Nat, (fullLines map place ranges hints options).caret[cell]? = some caretMark ↔
        ∃ index : Nat, marks[index]? = some caretMark ∧
          (∀ c ∈ place.text[index]?, charWidth c ≠ 0) ∧
          IsDisplayColumn place.text options.tabStop index cell := by
  obtain ⟨entry, start, known, column, first, last⟩ := exists_ofLine_of_isFile inFile shown
  refine ⟨entry, start, known, column, ?_⟩
  intro width marks single zeroWidth emptied
  have points (index : Nat) :
      (∃ columns ∈ ranges.filterMap (project? map · place.line place.file place.text),
        columns.PointsTo width (index + 1)) ↔ single index ∨ emptied index :=
    exists_pointsTo_project?_iff known inFiles index
  have carets (index : Nat) : marks[index]? = some caretMark ↔
      (index : Int) + 1 = min place.column (width + 1) ∨ single index ∨ emptied index ∨
        index = width + 1 ∧ place.column = width + 2 ∧ (single width ∨ emptied width) := by
    rw [getElem?_caretLine_eq_caret_iff first last, points, points, or_assoc]
  refine ⟨carets, ?_, fun cell ↦ getElem?_expandAnnotated_snd_eq_caret_iff h _ _ cell⟩
  constructor
  · intro justified
    refine ⟨fun index here ↦ justified index ((carets index).mpr (Or.inr (Or.inr (Or.inl here)))),
      fun half ↦ ?_⟩
    rcases justified width ((carets width).mpr (Or.inl (by omega))) with here | place
    · omega
    · exact place
  · rintro ⟨longer, half⟩ index caret
    rcases (carets index).mp caret with here | place | empty | ⟨further, column, -⟩
    · by_cases near : place.column ≤ width + 1
      · exact Or.inl (by omega)
      · obtain rfl : index = width := by omega
        exact Or.inr (half (by omega))
    · obtain ⟨range, member, -, here⟩ := place
      exact Or.inr ⟨range, member, here⟩
    · exact longer index empty
    · exact Or.inl (by omega)

/-- A range of three code points that ends where the second line starts is shown there as a caret,
in front of that of the diagnostic. -/
theorem end_at_line_start_shown_as_caret :
    let map : SourceMap := ⟨[{ name := "a.c".toList, text := "ab\ncd\n".toList }], []⟩
    let loc : Location := .inFile 1 4
    let place : Place := ⟨1, 2, 2, "cd".toList⟩
    let range : SourceRange := ⟨.inFile 1 0, .inFile 1 3, false⟩
    let options : Options := {}
    (loc.isFile = true ∧ place? map loc = some place ∧
      (∀ other ∈ [range], other.start.isFile = true ∧ other.stop.isFile = true) ∧
      1 ≤ options.tabStop) ∧
    range.stopOffset map = range.start.offset + 3 ∧
    (fullLines map place [range] [] options).caret = "^^".toList ∧
    (caretLine place.text place.column
      ([range].filterMap (project? map · 2 1 place.text)))[0]? = some caretMark ∧
    place.column ≠ 1 ∧ ¬range.IsAt map 1 3 := by
  intro map loc place range options
  have inFile : loc.isFile = true := by decide
  have shown : place? map loc = some place := by decide +kernel
  have inFiles : ∀ other ∈ [range], other.start.isFile = true ∧ other.stop.isFile = true := by
    decide
  have wide : 1 ≤ options.tabStop := by decide
  refine ⟨⟨inFile, shown, inFiles, wide⟩, by decide, by decide +kernel, ?_, by decide, ?_⟩
  · obtain ⟨entry, start, known, column, carets, -⟩ :=
      carets_of_ranges inFile shown inFiles [] wide
    obtain rfl : start = 3 := by
      have : (2 : Int) = 4 - start + 1 := column
      omega
    have stored := known.stored
    cases stored
    refine (carets 0).mpr (Or.inr (Or.inr (Or.inl ⟨range, List.mem_singleton_self _,
      ⟨rfl, rfl, by decide, by decide, fun token ↦ by cases token⟩, ?_⟩)))
    exact .endsAtStart (by decide) (by decide)
  · rintro ⟨-, here, -⟩
    cases here

end Snippet

end Caret
