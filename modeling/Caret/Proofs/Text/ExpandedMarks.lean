import Caret.Proofs.Text.Annotation

/-!
# Marks on display columns

Display columns, tab expansion and the expansion of an annotation each add up the columns of a line
on their own. They agree: the code point at an index starts at the column behind the text in front
of it, and its mark fills the annotation from there to the column of the next code point. The marks
past the end of the line follow behind the last column as they are.
-/

namespace Caret.Text

variable {tabStop : Int}

/-! ## Columns -/

/-- A code point starts at the column behind the text in front of it. -/
theorem getElem?_displayColumns {text : Text} {index : Nat} (inside : index ≤ text.length)
    (column : Int) :
    (displayColumns tabStop text column)[index]? =
      some (endColumn (text.take index) tabStop column) := by
  induction text generalizing index column with
  | nil =>
    obtain rfl : index = 0 := Nat.le_zero.mp inside
    rfl
  | cons c rest ih =>
    cases index with
    | zero => rfl
    | succ index => exact ih (Nat.le_of_succ_le_succ inside) _

private theorem endColumn_take_succ {text : Text} {index : Nat} {c : Char}
    (there : text[index]? = some c) (column : Int) :
    endColumn (text.take (index + 1)) tabStop column =
      advance tabStop (endColumn (text.take index) tabStop column) c := by
  rw [List.take_add_one, there, endColumn_append]
  rfl

/-- The display column of an index of a line: that of the code point there; behind the line, columns
are counted on. -/
def IsDisplayColumn (text : Text) (tabStop : Int) (index : Nat) (column : Int) : Prop :=
  (index ≤ text.length → (displayColumns tabStop text 0)[index]? = some column) ∧
    (text.length < index →
      column = columnWidth text tabStop 0 + ((index - text.length : Nat) : Int))

/-- An index is at the column behind the text in front of it, and as much further as it is behind
the line. -/
theorem isDisplayColumn_iff {text : Text} {index : Nat} {column : Int} :
    IsDisplayColumn text tabStop index column ↔
      column = endColumn (text.take index) tabStop 0 + ((index - text.length : Nat) : Int) := by
  by_cases inside : index ≤ text.length
  · have onLine : (index - text.length : Nat) = 0 := Nat.sub_eq_zero_of_le inside
    rw [IsDisplayColumn, getElem?_displayColumns inside, onLine, Option.some_inj]
    simp [inside, Nat.not_lt.mpr inside, eq_comm]
  · have whole : text.take index = text := List.take_of_length_le (Nat.le_of_not_le inside)
    simp [IsDisplayColumn, inside, Nat.lt_of_not_le inside, whole, columnWidth]

private theorem columnWidth_expandTabs (h : 1 ≤ tabStop) (text : Text) (stop column : Int) :
    columnWidth (expandTabs tabStop text column) stop column =
      columnWidth text tabStop column := by
  have width := glyphWidth_expandTabs h text column
  rw [columnWidth, columnWidth, endColumn_of_not_mem_tab (not_mem_tab_expandTabs _ _ _)]
  omega

/-! ## Annotations -/

/-- The annotation of two texts is that of the first with its own marks, and that of the second
with the marks behind them. -/
theorem expandFrom_append_snd (s t marks : Text) (tabStop column : Int) :
    (expandFrom tabStop (s ++ t) marks column).2 =
      (expandFrom tabStop s (marks.take s.length) column).2 ++
        (expandFrom tabStop t (marks.drop s.length) (endColumn s tabStop column)).2 := by
  induction s generalizing marks column with
  | nil => simp [expandFrom, endColumn]
  | cons c rest ih =>
    cases marks with
    | nil => simp [expandFrom, ih, endColumn]
    | cons mark others => simp [expandFrom, ih, endColumn]

/-- An annotation takes the columns of its line, and one more for each mark past the end of it. -/
theorem length_expandFrom_snd (h : 1 ≤ tabStop) (text marks : Text) (column : Int) :
    ((expandFrom tabStop text marks column).2.length : Int) =
      endColumn text tabStop column - column + (marks.drop text.length).length := by
  induction text generalizing marks column with
  | nil => simp [expandFrom, endColumn]
  | cons c rest ih =>
    have forward := le_advance h column c
    have later : endColumn (c :: rest) tabStop column =
        endColumn rest tabStop (advance tabStop column c) := rfl
    have cells := length_widenMark (marks.headD ' ')
      (show 0 ≤ advance tabStop column c - column by omega)
    have tail := ih marks.tail (advance tabStop column c)
    rw [List.drop_tail] at tail
    rw [expandFrom, List.length_append, cells, later, List.length_cons]
    omega

private theorem expandFrom_snd_eq_of_getElem? {text : Text} {index : Nat} {c : Char}
    (there : text[index]? = some c) (marks : Text) (tabStop column : Int) :
    let first := endColumn (text.take index) tabStop column
    (expandFrom tabStop text marks column).2 =
      (expandFrom tabStop (text.take index) (marks.take index) column).2 ++
        (widenMark (marks.getD index ' ') (advance tabStop first c - first) ++
          (expandFrom tabStop (text.drop (index + 1)) (marks.drop (index + 1))
            (advance tabStop first c)).2) := by
  intro first
  obtain ⟨inside, rfl⟩ := List.getElem?_eq_some_iff.mp there
  have parts : text = text.take index ++ text[index] :: text.drop (index + 1) := by
    rw [List.getElem_cons_drop, List.take_append_drop]
  have length : (text.take index).length = index := List.length_take_of_le (Nat.le_of_lt inside)
  conv_lhs => rw [parts]
  rw [expandFrom_append_snd, length, expandFrom, List.tail_drop, List.headD_eq_head?_getD,
    List.head?_drop, List.getD_eq_getElem?_getD]

/-- The first cell of a widened mark shows it; the others repeat an underline and are blank for any
other mark. -/
theorem getElem?_widenMark {mark : Char} {width : Int} {cell : Nat} (inside : cell < width) :
    (widenMark mark width)[cell]? =
      some (if cell = 0 ∨ mark = underlineMark then mark else ' ') := by
  rw [widenMark, if_neg (by omega)]
  cases cell with
  | zero => simp
  | succ cell =>
    rw [List.getElem?_cons_succ, List.getElem?_replicate, if_pos (by omega)]
    simp

private theorem lt_advance_iff (h : 1 ≤ tabStop) {column : Int} {c : Char} :
    column < advance tabStop column c ↔ charWidth c ≠ 0 := by
  constructor
  · intro further none
    have tab : c ≠ '\t' := by
      rintro rfl
      exact absurd none (by decide +kernel)
    rw [advance, if_neg tab, none] at further
    omega
  · exact lt_advance h column

private theorem getElem?_widenMark_eq_caret_iff {mark : Char} {width : Int} {cell : Nat}
    (inside : cell < width) :
    (widenMark mark width)[cell]? = some caretMark ↔ cell = 0 ∧ mark = caretMark := by
  rw [getElem?_widenMark inside, Option.some_inj]
  by_cases first : cell = 0
  · simp [first]
  · by_cases under : mark = underlineMark
    · simp [first, under, show underlineMark ≠ caretMark by decide]
    · simp [first, under, show ' ' ≠ caretMark by decide]

/-- An annotation has a caret where a code point with a width is marked with one, and where there
is one behind the line. -/
theorem getElem?_expandFrom_snd_eq_caret_iff (h : 1 ≤ tabStop) (text marks : Text) (column : Int)
    (cell : Nat) :
    (expandFrom tabStop text marks column).2[cell]? = some caretMark ↔
      ∃ index : Nat, marks[index]? = some caretMark ∧ (∀ c ∈ text[index]?, charWidth c ≠ 0) ∧
        column + cell = endColumn (text.take index) tabStop column +
          ((index - text.length : Nat) : Int) := by
  induction text generalizing marks column cell with
  | nil =>
    constructor
    · intro caret
      exact ⟨cell, caret, by simp, by simp [endColumn]⟩
    · rintro ⟨index, caret, -, here⟩
      simp only [List.take_nil, endColumn, List.foldl_nil, List.length_nil, Nat.sub_zero] at here
      obtain rfl : index = cell := by omega
      exact caret
  | cons c rest ih =>
    have forward := le_advance h column c
    have later (index : Nat) : endColumn ((c :: rest).take (index + 1)) tabStop column =
        endColumn (rest.take index) tabStop (advance tabStop column c) := rfl
    have width := length_widenMark (marks.headD ' ')
      (show 0 ≤ advance tabStop column c - column by omega)
    have head : marks[0]? = some caretMark ↔ marks.headD ' ' = caretMark := by
      cases marks with
      | nil => simp [show ' ' ≠ caretMark by decide]
      | cons mark others => simp
    rw [expandFrom]
    by_cases own : cell < advance tabStop column c - column
    · rw [List.getElem?_append_left (by omega), getElem?_widenMark_eq_caret_iff own, ← head]
      constructor
      · rintro ⟨rfl, caret⟩
        refine ⟨0, caret, ?_, by simp [endColumn]⟩
        intro other first
        cases first
        have further : column < advance tabStop column c := by omega
        exact (lt_advance_iff h).mp further
      · rintro ⟨index, caret, -, here⟩
        cases index with
        | zero =>
          simp only [List.take_zero, endColumn, List.foldl_nil, Nat.zero_sub] at here
          exact ⟨by omega, caret⟩
        | succ index =>
          have := le_endColumn h (rest.take index) (advance tabStop column c)
          rw [later] at here
          omega
    · rw [List.getElem?_append_right (by omega), ih]
      constructor
      · rintro ⟨index, caret, wide, here⟩
        rw [List.getElem?_tail] at caret
        refine ⟨index + 1, caret, wide, ?_⟩
        rw [later, List.length_cons]
        omega
      · rintro ⟨index, caret, wide, here⟩
        cases index with
        | zero =>
          have := lt_advance h column (wide c rfl)
          simp only [List.take_zero, endColumn, List.foldl_nil, Nat.zero_sub] at here
          omega
        | succ index =>
          refine ⟨index, by rwa [List.getElem?_tail], wide, ?_⟩
          rw [later, List.length_cons] at here
          omega

/-- The cells of a code point hold its mark: the first one shows the mark, and the others repeat an
underline and are blank for any other mark. -/
theorem getElem?_expandAnnotated_snd (h : 1 ≤ tabStop) {text : Text} {index : Nat} {c : Char}
    (there : text[index]? = some c) (marks : Text) {first next cell : Nat}
    (start : endColumn (text.take index) tabStop 0 = first) (stop : advance tabStop first c = next)
    (behind : first ≤ cell) (inside : cell < next) :
    (expandAnnotated text marks tabStop).2[cell]? =
      some (if cell = first ∨ marks.getD index ' ' = underlineMark then
        marks.getD index ' ' else ' ') := by
  have parts := expandFrom_snd_eq_of_getElem? there marks tabStop 0
  simp only [start, stop] at parts
  have length : (text.take index).length = index :=
    List.length_take_of_le (Nat.le_of_lt (List.getElem?_eq_some_iff.mp there).1)
  have front := length_expandFrom_snd h (text.take index) (marks.take index) 0
  rw [start, length, List.drop_take_self, List.length_nil] at front
  have own := length_widenMark (marks.getD index ' ')
    (show 0 ≤ (next : Int) - first by omega)
  rw [expandAnnotated, parts, List.getElem?_append_right (by omega),
    List.getElem?_append_left (by omega), getElem?_widenMark (by omega)]
  have place : cell - (expandFrom tabStop (text.take index) (marks.take index) 0).2.length = 0 ↔
      cell = first := by omega
  simp only [place]

/-- An expanded annotation has a caret at the display columns of the carets of the annotation, but
for those of code points without a width. -/
theorem getElem?_expandAnnotated_snd_eq_caret_iff (h : 1 ≤ tabStop) (text marks : Text)
    (cell : Nat) :
    (expandAnnotated text marks tabStop).2[cell]? = some caretMark ↔
      ∃ index : Nat, marks[index]? = some caretMark ∧ (∀ c ∈ text[index]?, charWidth c ≠ 0) ∧
        IsDisplayColumn text tabStop index cell := by
  rw [expandAnnotated, getElem?_expandFrom_snd_eq_caret_iff h]
  simp only [Int.zero_add, isDisplayColumn_iff]

/-- Tabs, display columns and marks agree on a line. The expanded line is the line without its tabs
and as wide as it; the expanded annotation holds the mark of each code point with a width at its
display column, repeated up to the next code point if it is an underline and followed by blanks
otherwise; and it ends behind the columns of the line with the marks that are past its end. -/
theorem expandAnnotated_follows_line (h : 1 ≤ tabStop) (text marks : Text) :
    let expanded := expandAnnotated text marks tabStop
    let width := columnWidth text tabStop 0
    (expanded.1 = expandTabs tabStop text 0 ∧ '\t' ∉ expanded.1 ∧
      ∀ stop, columnWidth expanded.1 stop 0 = width) ∧
    (∀ (index : Nat) (c : Char), text[index]? = some c → charWidth c ≠ 0 →
      let mark := marks.getD index ' '
      ∃ first next : Nat, (displayColumns tabStop text 0)[index]? = some (first : Int) ∧
        (displayColumns tabStop text 0)[index + 1]? = some (next : Int) ∧ first < next ∧
        expanded.2[first]? = some mark ∧
        ∀ cell, first < cell → cell < next →
          expanded.2[cell]? = some (if mark = underlineMark then underlineMark else ' ')) ∧
    (expanded.2.length : Int) = width + (marks.drop text.length).length ∧
    marks.drop text.length <:+ expanded.2 := by
  intro expanded width
  refine ⟨⟨expandFrom_fst tabStop text marks 0, ?untabbed, fun stop ↦ ?width⟩,
    fun index c there wide ↦ ?marks, ?length, ?pastEnd⟩
  case untabbed =>
    rw [show expanded.1 = expandTabs tabStop text 0 from expandFrom_fst _ _ _ _]
    exact not_mem_tab_expandTabs _ _ _
  case width =>
    rw [show expanded.1 = expandTabs tabStop text 0 from expandFrom_fst _ _ _ _]
    exact columnWidth_expandTabs h text stop 0
  case marks =>
    intro mark
    have inside := (List.getElem?_eq_some_iff.mp there).1
    have forward := le_endColumn h (text.take index) 0
    obtain ⟨first, start⟩ := Int.eq_ofNat_of_zero_le forward
    have further := lt_advance h (first : Int) wide
    have later : 0 ≤ advance tabStop first c := by omega
    obtain ⟨next, stop⟩ := Int.eq_ofNat_of_zero_le later
    have cells {cell : Nat} (behind : first ≤ cell) (before : cell < next) : expanded.2[cell]? =
        some (if cell = first ∨ mark = underlineMark then mark else ' ') :=
      getElem?_expandAnnotated_snd h there marks start stop behind before
    refine ⟨first, next, ?_, ?_, by omega, ?_, ?_⟩
    · rw [getElem?_displayColumns (Nat.le_of_lt inside), start]
    · rw [getElem?_displayColumns inside, endColumn_take_succ there, start, stop]
    · rw [cells (Nat.le_refl first) (by omega), if_pos (Or.inl rfl)]
    · intro cell behind before
      rw [cells (Nat.le_of_lt behind) before]
      by_cases under : mark = underlineMark
      · simp [under]
      · simp [under, Nat.ne_of_gt behind]
  case length => exact length_expandFrom_snd h text marks 0
  case pastEnd =>
    have parts := expandFrom_append_snd text [] marks tabStop 0
    rw [List.append_nil] at parts
    exact ⟨_, parts.symm⟩

/-- A tab, a wide glyph and a combining mark, with marks past the end of the line. -/
theorem marks_below_wide_glyph :
    let text : Text := "\t界e\u0301".toList
    let expanded := expandAnnotated text "^~^ ^~".toList 4
    ((1 : Int) ≤ 4 ∧ text[1]? = some '界' ∧ charWidth '界' ≠ 0) ∧
    expanded = ("    界e\u0301".toList, "^   ~~^^~".toList) ∧
    (∃ first next : Nat, (displayColumns 4 text 0)[1]? = some (first : Int) ∧
      (displayColumns 4 text 0)[2]? = some (next : Int) ∧ first < next ∧
      expanded.2[first]? = some '~' ∧
      ∀ cell, first < cell → cell < next → expanded.2[cell]? = some '~') ∧
    "^~".toList <:+ expanded.2 := by
  intro text expanded
  have there : text[1]? = some '界' := rfl
  have wide : charWidth '界' ≠ 0 := by decide +kernel
  have shown : expanded = ("    界e\u0301".toList, "^   ~~^^~".toList) := by decide +kernel
  obtain ⟨-, marks, -, pastEnd⟩ :=
    expandAnnotated_follows_line (show (1 : Int) ≤ 4 by decide) text "^~^ ^~".toList
  exact ⟨⟨by decide, there, wide⟩, shown, marks 1 '界' there wide, pastEnd⟩

end Caret.Text
