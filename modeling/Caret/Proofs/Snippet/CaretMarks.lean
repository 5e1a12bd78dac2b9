import Caret.Proofs.Snippet.CaretAlignment

/-!
# What stands on a caret line

A column of a caret line has a caret if the diagnostic or a range that is a single point is there,
an underline if another range holds the column, and a blank otherwise. The line is as long as the
source line, and one column longer exactly if there is a caret behind the source line. So neither
the order of the ranges matters nor how often each of them is given.
-/

namespace Caret

namespace ColumnRange

/-- On a line of `width` columns, a span is the single point at a column. -/
def PointsTo (range : ColumnRange) (width column : Int) : Prop :=
  ∃ clipped ∈ range.clip? width, clipped.isEmpty = true ∧ clipped.start = column

/-- A span holds a column; an inverted one holds none. -/
def Holds (range : ColumnRange) (column : Int) : Prop :=
  range.start ≤ column ∧ column < range.stop

instance (range : ColumnRange) (width column : Int) : Decidable (range.PointsTo width column) :=
  inferInstanceAs (Decidable (∃ clipped ∈ range.clip? width, _ ∧ _))

instance (range : ColumnRange) (column : Int) : Decidable (range.Holds column) :=
  inferInstanceAs (Decidable (_ ∧ _))

/-- A clipped span is the span between its bounds on the line. -/
theorem clip?_eq_some_iff {range clipped : ColumnRange} {width : Int} :
    range.clip? width = some clipped ↔ range.start ≤ range.stop ∧
      clipped.start = max range.start 1 ∧ clipped.stop = min range.stop (width + 1) ∧
      clipped.start ≤ clipped.stop := by
  obtain ⟨start, stop⟩ := clipped
  unfold clip?
  by_cases inverted : range.stop < range.start
  · simp only [if_pos inverted, reduceCtorEq, false_iff]
    omega
  · rw [if_neg inverted]
    by_cases off : max range.start 1 > width + 1 ∨ min range.stop (width + 1) < max range.start 1
    · simp only [if_pos off, reduceCtorEq, false_iff]
      omega
    · simp only [if_neg off, Option.some_inj, mk.injEq]
      omega

/-- A span is a single point of a line if both of its bounds on the line are that point. -/
theorem pointsTo_iff {range : ColumnRange} {width column : Int} :
    range.PointsTo width column ↔ range.start ≤ range.stop ∧
      max range.start 1 = column ∧ min range.stop (width + 1) = column := by
  simp only [PointsTo, Option.mem_def, clip?_eq_some_iff, isEmpty, beq_iff_eq]
  constructor
  · rintro ⟨clipped, ⟨ordered, first, last, -⟩, point, here⟩
    omega
  · rintro ⟨ordered, first, last⟩
    exact ⟨⟨column, column⟩, ⟨ordered, first.symm, last.symm, Int.le_refl column⟩, rfl, rfl⟩

end ColumnRange

namespace Snippet

open Text

/-! ## Underlines -/

private theorem getElem?_underline (marks : Text) (range : ColumnRange) (index : Nat) :
    (underline marks range)[index]? =
      if range.Holds (index + 1) then marks[index]?.map fun _ ↦ underlineMark
      else marks[index]? := by
  rw [underline, List.getElem?_mapIdx]
  by_cases held : range.Holds (index + 1)
  · rw [if_pos held]
    simp only [ColumnRange.Holds] at held
    simp [held]
  · rw [if_neg held]
    simp only [ColumnRange.Holds] at held
    simp [held]

private theorem getElem?_foldl_underline (ranges : List ColumnRange) (marks : Text) (index : Nat) :
    (ranges.foldl underline marks)[index]? =
      if ∃ range ∈ ranges, range.Holds (index + 1) then marks[index]?.map fun _ ↦ underlineMark
      else marks[index]? := by
  induction ranges generalizing marks with
  | nil => simp
  | cons range rest ih =>
    rw [List.foldl_cons, ih, getElem?_underline]
    by_cases first : range.Holds (index + 1)
    · simp [first, Option.map_map, Function.comp_def]
    · simp [first]

/-! ## Carets -/

/-- A caret on a line or directly behind it is put at its column and changes no other one. -/
theorem getElem?_putCaret_eq {marks : Text} {column : Int} (first : 1 ≤ column)
    (last : column ≤ marks.length + 1) (index : Nat) :
    (putCaret marks column)[index]? =
      if (index : Int) + 1 = column then some caretMark else marks[index]? := by
  by_cases here : (index : Int) + 1 = column
  · have place : (column - 1).toNat = index := by omega
    rw [if_pos here, ← place, getElem?_putCaret (by omega)]
  · have apart : (column - 1).toNat ≠ index := by omega
    simp only [putCaret, if_neg here]
    split
    · rw [List.getElem?_set_ne apart]
    · next behind =>
      by_cases before : index < marks.length
      · rw [List.getElem?_append_left before]
      · rw [List.getElem?_eq_none (by simp; omega), List.getElem?_eq_none (by omega)]

/-- Carets on a line or directly behind it are put at their columns and change no other one. -/
theorem getElem?_foldl_putCaret {points : List Int} {marks : Text}
    (h : ∀ column ∈ points, 1 ≤ column ∧ column ≤ marks.length + 1) (index : Nat) :
    (points.foldl putCaret marks)[index]? =
      if (index : Int) + 1 ∈ points then some caretMark else marks[index]? := by
  induction points generalizing marks with
  | nil => simp
  | cons column rest ih =>
    obtain ⟨first, last⟩ := h column List.mem_cons_self
    have longer : marks.length ≤ (putCaret marks column).length := by
      rw [length_putCaret]
      split <;> omega
    have inside : ∀ other ∈ rest, 1 ≤ other ∧ other ≤ (putCaret marks column).length + 1 := by
      intro other member
      have := h other (List.mem_cons_of_mem _ member)
      omega
    rw [List.foldl_cons, ih inside, getElem?_putCaret_eq first last]
    by_cases later : (index : Int) + 1 ∈ rest
    · simp [later]
    · simp [later]

/-! ## The line -/

/-- The columns of the ranges that are single points of a line. -/
def pointColumns (width : Int) (ranges : List ColumnRange) : List Int :=
  ((ranges.filterMap (·.clip? width)).filter (·.isEmpty)).map (·.start)

/-- The parts on a line of the other ranges. -/
def underlinedSpans (width : Int) (ranges : List ColumnRange) : List ColumnRange :=
  (ranges.filterMap (·.clip? width)).filter (!·.isEmpty)

/-- The marks that ranges leave under a line, without the caret of the diagnostic. -/
def rangeMarks (line : Text) (ranges : List ColumnRange) : Text :=
  (pointColumns line.length ranges).foldl putCaret
    ((underlinedSpans line.length ranges).foldl underline (blanks line.length))

/-- The caret of the diagnostic is put on the marks of the ranges. -/
theorem caretLine_eq_putCaret (line : Text) (caret : Int) (ranges : List ColumnRange) :
    caretLine line caret ranges = putCaret (rangeMarks line ranges) (max caret 1) := by
  simp [caretLine, rangeMarks, pointColumns, underlinedSpans, List.foldl_append]

variable {line : Text} {ranges : List ColumnRange}

/-- A column is that of a point exactly if one of the ranges is the point there. -/
theorem mem_pointColumns_iff {width column : Int} :
    column ∈ pointColumns width ranges ↔ ∃ range ∈ ranges, range.PointsTo width column := by
  simp only [pointColumns, List.mem_map, List.mem_filter, List.mem_filterMap,
    ColumnRange.PointsTo, Option.mem_def]
  constructor
  · rintro ⟨clipped, ⟨⟨range, member, clip⟩, point⟩, here⟩
    exact ⟨range, member, clipped, clip, point, here⟩
  · rintro ⟨range, member, clipped, clip, point, here⟩
    exact ⟨clipped, ⟨⟨range, member, clip⟩, point⟩, here⟩

private theorem bounds_of_mem_pointColumns {width column : Int}
    (h : column ∈ pointColumns width ranges) :
    1 ≤ column ∧ column ≤ width + 1 := by
  obtain ⟨range, -, point⟩ := mem_pointColumns_iff.mp h
  rw [ColumnRange.pointsTo_iff] at point
  omega

private theorem exists_underlinedSpans_holds_iff {width index : Nat} (inside : index < width) :
    (∃ span ∈ underlinedSpans width ranges, span.Holds (index + 1)) ↔
      ∃ range ∈ ranges, range.Holds (index + 1) := by
  simp only [underlinedSpans, List.mem_filter, List.mem_filterMap,
    ColumnRange.clip?_eq_some_iff, ColumnRange.Holds, ColumnRange.isEmpty, Bool.not_eq_true',
    beq_eq_false_iff_ne]
  constructor
  · rintro ⟨span, ⟨⟨range, member, clip⟩, -⟩, held⟩
    exact ⟨range, member, by omega⟩
  · rintro ⟨range, member, held⟩
    refine ⟨⟨max range.start 1, min range.stop (width + 1)⟩,
      ⟨⟨range, member, by omega, rfl, rfl, ?_⟩, ?_⟩, ?_⟩
    all_goals dsimp only; omega

/-- On the line, the other ranges leave an underline at each column that one of the ranges holds,
and blanks. -/
theorem getElem?_foldl_underlinedSpans (index : Nat) :
    ((underlinedSpans line.length ranges).foldl underline (blanks line.length))[index]? =
      if index < line.length then
        some (if ∃ range ∈ ranges, range.Holds (index + 1) then underlineMark else ' ')
      else none := by
  rw [getElem?_foldl_underline, blanks, Int.toNat_natCast, List.getElem?_replicate]
  by_cases inside : index < line.length
  · simp only [exists_underlinedSpans_holds_iff inside, if_pos inside, Option.map_some]
    split <;> rfl
  · simp only [if_neg inside, Option.map_none, ite_self]

/-- What ranges leave at a place: a caret if one of them is the point there, otherwise an underline
if one of them holds the column, and a blank on the rest of the line. -/
theorem getElem?_rangeMarks (index : Nat) :
    (rangeMarks line ranges)[index]? =
      if ∃ range ∈ ranges, range.PointsTo line.length (index + 1) then some caretMark
      else if index < line.length then
        some (if ∃ range ∈ ranges, range.Holds (index + 1) then underlineMark else ' ')
      else none := by
  have length : ((underlinedSpans line.length ranges).foldl underline
      (blanks line.length)).length = line.length := by
    rw [length_foldl_underline, length_blanks, Int.toNat_natCast]
  have inside : ∀ column ∈ pointColumns line.length ranges, 1 ≤ column ∧
      column ≤ ((underlinedSpans line.length ranges).foldl underline
        (blanks line.length)).length + 1 := by
    intro column member
    rw [length]
    exact bounds_of_mem_pointColumns member
  simp only [rangeMarks, getElem?_foldl_putCaret inside, mem_pointColumns_iff,
    getElem?_foldl_underlinedSpans]

/-- A line of marks that ends with the source line, or with a caret directly behind it, is that
long. -/
theorem length_eq_of_outside {marks : Text} {width : Nat} (point : Nat → Prop)
    [Decidable (point width)]
    (outside : ∀ index, marks[index]? = none ↔ width ≤ index ∧ ¬point index)
    (last : ¬point (width + 1)) :
    marks.length = if point width then width + 1 else width := by
  simp only [List.getElem?_eq_none_iff] at outside
  have atMost := (outside (width + 1)).mpr ⟨Nat.le_succ width, last⟩
  have atLeast := ((outside marks.length).mp (Nat.le_refl _)).1
  by_cases behind : point width
  · have longer : ¬marks.length ≤ width := fun short ↦ ((outside width).mp short).2 behind
    rw [if_pos behind]
    omega
  · rw [if_neg behind]
    exact Nat.le_antisymm ((outside width).mpr ⟨Nat.le_refl _, behind⟩) atLeast

/-- No range is a point further behind the line. -/
theorem not_pointsTo_beyond {width : Int} :
    ¬∃ range ∈ ranges, range.PointsTo width (width + 1 + 1) := by
  rintro ⟨range, -, point⟩
  rw [ColumnRange.pointsTo_iff] at point
  omega

/-- The marks of ranges are as many as the code points of the line, and one more if a range is the
point behind the line. -/
theorem length_rangeMarks : (rangeMarks line ranges).length =
    if ∃ range ∈ ranges, range.PointsTo line.length (line.length + 1) then line.length + 1
    else line.length := by
  apply length_eq_of_outside
    (fun index ↦ ∃ range ∈ ranges, range.PointsTo line.length ((index : Int) + 1))
  · intro index
    rw [getElem?_rangeMarks]
    by_cases point : ∃ range ∈ ranges, range.PointsTo line.length (index + 1)
    · simp [point]
    · simp [point]
  · exact_mod_cast not_pointsTo_beyond

/-- A column has a caret: the diagnostic is there, or in front of the line while the column is its
first one, or a range is the point there. -/
def HasCaret (width caret : Int) (ranges : List ColumnRange) (column : Int) : Prop :=
  column = max caret 1 ∨ ∃ range ∈ ranges, range.PointsTo width column

instance (width caret : Int) (ranges : List ColumnRange) (column : Int) :
    Decidable (HasCaret width caret ranges column) :=
  inferInstanceAs (Decidable (_ ∨ ∃ range ∈ ranges, _))

variable {caret : Int}

/-- Neither underlines nor blanks are carets. -/
theorem mark_eq_caret_iff (point inside held : Prop) [Decidable point] [Decidable inside]
    [Decidable held] :
    (if point then some caretMark
      else if inside then some (if held then underlineMark else ' ') else none) = some caretMark ↔
        point := by
  have apart : underlineMark ≠ caretMark ∧ ' ' ≠ caretMark := by decide
  by_cases here : point
  · simp [here]
  · by_cases under : held
    · simp [here, under, apart]
    · simp [here, under, apart]

/-- What stands at a place of a caret line. -/
theorem getElem?_caretLine_eq (inside : caret ≤ line.length + 1) (index : Nat) :
    (caretLine line caret ranges)[index]? =
      if HasCaret line.length caret ranges (index + 1) then some caretMark
      else if index < line.length then
        some (if ∃ range ∈ ranges, range.Holds (index + 1) then underlineMark else ' ')
      else none := by
  have atLeast : line.length ≤ (rangeMarks line ranges).length := by
    rw [length_rangeMarks]
    split <;> omega
  rw [caretLine_eq_putCaret, getElem?_putCaret_eq (Int.le_max_right _ _) (by omega),
    getElem?_rangeMarks]
  by_cases here : (index : Int) + 1 = max caret 1
  · simp [HasCaret, here]
  · simp [HasCaret, here]

/-- A caret line is as long as the line, and one longer if there is a caret behind the line. -/
theorem length_caretLine (inside : caret ≤ line.length + 1) :
    (caretLine line caret ranges).length =
      if HasCaret line.length caret ranges (line.length + 1) then line.length + 1
      else line.length := by
  apply length_eq_of_outside
    (fun index ↦ HasCaret line.length caret ranges ((index : Int) + 1))
  · intro index
    rw [getElem?_caretLine_eq inside]
    by_cases here : HasCaret line.length caret ranges (index + 1)
    · simp [here]
    · simp [here]
  · rintro (here | point)
    · omega
    · exact not_pointsTo_beyond (by exact_mod_cast point)

/-- A caret line has a caret at the column of the diagnostic and at each range that is a single
point of the line, an underline at the other columns of the line that a range holds, and blanks at
the rest of the line; it is as long as the line, or one longer for a caret behind the line. So it
depends on the set of the ranges only. -/
theorem marks_of_caretLine (line : Text) (ranges : List ColumnRange)
    (inside : caret ≤ line.length + 1) :
    let marks := caretLine line caret ranges
    let hasCaret (index : Nat) := HasCaret line.length caret ranges (index + 1)
    let held (index : Nat) := ∃ range ∈ ranges, range.Holds (index + 1)
    (∀ index : Nat, marks[index]? = some caretMark ↔ hasCaret index) ∧
    (∀ index : Nat, marks[index]? = some underlineMark ↔
      ¬hasCaret index ∧ index < line.length ∧ held index) ∧
    (∀ index : Nat, marks[index]? = some ' ' ↔
      ¬hasCaret index ∧ index < line.length ∧ ¬held index) ∧
    marks.length = (if hasCaret line.length then line.length + 1 else line.length) ∧
    ∀ other : List ColumnRange, (∀ range, range ∈ other ↔ range ∈ ranges) →
      caretLine line caret other = marks := by
  intro marks hasCaret held
  have content (index : Nat) : marks[index]? =
      if hasCaret index then some caretMark
      else if index < line.length then some (if held index then underlineMark else ' ')
      else none := getElem?_caretLine_eq inside index
  have apart : underlineMark ≠ caretMark ∧ ' ' ≠ caretMark ∧ ' ' ≠ underlineMark := by decide
  refine ⟨fun index ↦ ?caret, fun index ↦ ?underline, fun index ↦ ?blank, length_caretLine inside,
    fun other same ↦ ?sameRanges⟩
  case caret => rw [content, mark_eq_caret_iff]
  case underline =>
    rw [content]
    by_cases here : hasCaret index
    · simp [here, apart.1.symm]
    · by_cases under : held index
      · simp [here, under]
      · simp [here, under, apart]
  case blank =>
    rw [content]
    by_cases here : hasCaret index
    · simp [here, apart.2.1.symm]
    · by_cases under : held index
      · simp [here, under, apart.2.2.symm]
      · simp [here, under]
  case sameRanges =>
    apply List.ext_getElem?
    intro index
    have carets : HasCaret line.length caret other (index + 1) ↔ hasCaret index := by
      simp only [HasCaret, hasCaret, same]
    have spans : (∃ range ∈ other, range.Holds (index + 1)) ↔ held index := by
      simp only [held, same]
    rw [content, getElem?_caretLine_eq inside]
    simp only [carets, spans]

/-- An inverted range, one that starts in front of the line, one behind the line and a point, in two
orders. -/
theorem marks_of_ranges_in_any_order :
    let line : Text := "abcd".toList
    let ranges : List ColumnRange := [⟨3, 3⟩, ⟨4, 1⟩, ⟨-3, 2⟩, ⟨1, 3⟩, ⟨5, 9⟩]
    (-7 : Int) ≤ line.length + 1 ∧ caretLine line (-7) ranges = "^~^ ^".toList ∧
      caretLine line (-7) (ranges.reverse ++ ranges) = "^~^ ^".toList := by
  intro line ranges
  have inside : (-7 : Int) ≤ line.length + 1 := by decide
  have content : caretLine line (-7) ranges = "^~^ ^".toList := by decide
  have same (range : ColumnRange) : range ∈ ranges.reverse ++ ranges ↔ range ∈ ranges := by simp
  obtain ⟨-, -, -, -, sameRanges⟩ := marks_of_caretLine line ranges inside
  exact ⟨inside, content, (sameRanges _ same).trans content⟩

end Snippet

end Caret
