import Caret.Proofs.Text.Cells
import Caret.Proofs.Text.ExpandedMarks
import Mathlib.Data.List.TakeWhile

/-!
# Cells and display columns

A row of cells and the display columns of a text are counted apart from each other, but the cell at
a column is meant to show the glyph that starts there. It does in a text in which every combining
mark joins a glyph of one cell. Marks in front of all glyphs take a cell of their own, so that each
glyph behind them is a cell further than its column; and marks on a wide glyph go into its second
cell, which ought to be empty.
-/

namespace Caret.Text

/-! ## Glyphs and their marks -/

/-- A glyph that starts at a display column; marks are no glyphs. -/
structure GlyphAt (text : Text) (index : Nat) (glyph : Char) (column : Nat) : Prop where
  there : text[index]? = some glyph
  shown : charWidth glyph ≠ 0
  starts : (displayColumns defaultTabStop text 0)[index]? = some (column : Int)

/-- The combining marks directly behind an index. -/
def marksBehind (text : Text) (index : Nat) : Text :=
  (text.drop (index + 1)).takeWhile (charWidth · == 0)

/-- The cells that a glyph and the marks on it take. -/
def glyphCells (glyph : Char) (marks : Text) : List Text :=
  if charWidth glyph = 2 then [[glyph], marks] else [glyph :: marks]

/-- A row shows a text by its display columns: it holds the text, it has a cell for each column, in
the cell at the column of a glyph stand the glyph and its marks, and the second cell of a wide glyph
is empty. -/
structure ByColumn (text : Text) (row : List Text) : Prop where
  flatten : row.flatten = text
  length : (row.length : Int) = displayWidth text
  first : ∀ {index : Nat} {glyph : Char} {column : Nat}, GlyphAt text index glyph column →
    row[column]? = some (glyph :: marksBehind text index)
  second : ∀ {index : Nat} {glyph : Char} {column : Nat}, GlyphAt text index glyph column →
    charWidth glyph = 2 → row[column + 1]? = some []

/-- A glyph takes as many cells as columns, with its marks. -/
theorem length_glyphCells {glyph : Char} (shown : charWidth glyph ≠ 0) (marks : Text) :
    (glyphCells glyph marks).length = charWidth glyph := by
  have le := charWidth_le glyph
  unfold glyphCells
  split
  · next wide => exact wide.symm
  · show 1 = charWidth glyph
    omega

private theorem charWidth_of_mem_marksBehind {text : Text} {index : Nat} {mark : Char}
    (member : mark ∈ marksBehind text index) : charWidth mark = 0 := by
  rw [marksBehind] at member
  have marked := List.mem_takeWhile_imp member
  exact beq_iff_eq.mp marked

private theorem charWidth_head?_dropWhile {text : Text} :
    ∀ c ∈ (text.dropWhile (charWidth · == 0)).head?, charWidth c ≠ 0 := by
  intro c first
  have stops := List.head?_dropWhile_not (charWidth · == 0) text
  rw [Option.mem_def.mp first] at stops
  exact beq_eq_false_iff_ne.mp stops

private theorem eq_append_of_getElem? {text : Text} {index : Nat} {glyph : Char}
    (there : text[index]? = some glyph) :
    text = text.take index ++ (glyph :: marksBehind text index ++
      (text.drop (index + 1)).dropWhile (charWidth · == 0)) := by
  obtain ⟨inside, rfl⟩ := List.getElem?_eq_some_iff.mp there
  rw [marksBehind, List.cons_append, List.takeWhile_append_dropWhile, List.getElem_cons_drop,
    List.take_append_drop]

/-- Marks behind a row join its last cell. -/
theorem foldl_pushCell_marks {marks : Text} (h : ∀ mark ∈ marks, charWidth mark = 0)
    (front : List Text) (last : Text) :
    marks.foldl pushCell (front ++ [last]) = front ++ [last ++ marks] := by
  induction marks generalizing last with
  | nil => rw [List.foldl_nil, List.append_nil]
  | cons mark rest ih =>
    obtain ⟨none_wide, others⟩ := List.forall_mem_cons.mp h
    have joined : pushCell (front ++ [last]) mark = front ++ [last ++ [mark]] := by
      unfold pushCell
      rw [none_wide, List.getLast?_concat]
      simp only [List.dropLast_concat]
    rw [List.foldl_cons, joined, ih others, List.append_assoc, List.singleton_append]

private theorem cells_glyph {glyph : Char} {marks : Text} (shown : charWidth glyph ≠ 0)
    (h : ∀ mark ∈ marks, charWidth mark = 0) : cells (glyph :: marks) = glyphCells glyph marks := by
  have le := charWidth_le glyph
  rw [cells, List.foldl_cons, pushCell_of_ne_zero _ shown, List.nil_append, glyphCells]
  split
  · next wide =>
    rw [wide]
    exact foldl_pushCell_marks h [[glyph]] []
  · next narrow =>
    have one : charWidth glyph = 1 := by omega
    rw [one]
    exact foldl_pushCell_marks h [] [glyph]

private theorem cells_eq_append {text : Text} {index : Nat} {glyph : Char}
    (there : text[index]? = some glyph) (shown : charWidth glyph ≠ 0) :
    cells text = cells (text.take index) ++ (glyphCells glyph (marksBehind text index) ++
      cells ((text.drop (index + 1)).dropWhile (charWidth · == 0))) := by
  have start : ∀ c ∈ (glyph :: marksBehind text index ++
      (text.drop (index + 1)).dropWhile (charWidth · == 0)).head?, charWidth c ≠ 0 := by
    rintro c first
    cases first
    exact shown
  conv_lhs => rw [eq_append_of_getElem? there]
  rw [cells_append _ start, cells_append _ charWidth_head?_dropWhile,
    cells_glyph shown fun _ ↦ charWidth_of_mem_marksBehind]

/-! ## Columns -/

variable {text : Text}

/-- Without tabs, a glyph starts at the column that is as far as the glyphs in front of it are
wide. -/
theorem glyphAt_iff (untabbed : '\t' ∉ text) {index : Nat} {glyph : Char} {column : Nat} :
    GlyphAt text index glyph column ↔ text[index]? = some glyph ∧ charWidth glyph ≠ 0 ∧
      column = glyphWidth (text.take index) := by
  have starts (there : text[index]? = some glyph) :
      (displayColumns defaultTabStop text 0)[index]? =
        some (glyphWidth (text.take index) : Int) := by
    have inside := (List.getElem?_eq_some_iff.mp there).1
    rw [getElem?_displayColumns (Nat.le_of_lt inside),
      endColumn_of_not_mem_tab fun tab ↦ untabbed (List.mem_of_mem_take tab), Int.zero_add]
  constructor
  · rintro ⟨there, shown, column_at⟩
    rw [starts there, Option.some_inj, Int.natCast_inj] at column_at
    exact ⟨there, shown, column_at.symm⟩
  · rintro ⟨there, shown, rfl⟩
    exact ⟨there, shown, starts there⟩

private theorem exists_glyph_over {column : Nat} (h : column < glyphWidth text) :
    ∃ index glyph, text[index]? = some glyph ∧ glyphWidth (text.take index) ≤ column ∧
      column < glyphWidth (text.take index) + charWidth glyph := by
  induction text generalizing column with
  | nil => exact absurd h (Nat.not_lt_zero _)
  | cons c rest ih =>
    by_cases first : column < charWidth c
    · exact ⟨0, c, rfl, Nat.zero_le _, by rwa [List.take_zero, glyphWidth, Nat.zero_add]⟩
    · rw [glyphWidth] at h
      have behind : column - charWidth c < glyphWidth rest := by omega
      obtain ⟨index, glyph, there, low, high⟩ := ih behind
      refine ⟨index + 1, glyph, there, ?_, ?_⟩
      · rw [List.take_succ_cons, glyphWidth]
        omega
      · rw [List.take_succ_cons, glyphWidth]
        omega

/-- In front of a glyph there are marks without one exactly if the text starts with such marks. -/
theorem strayCells_take {index : Nat} {glyph : Char} (there : text[index]? = some glyph)
    (shown : charWidth glyph ≠ 0) : strayCells (text.take index) = strayCells text := by
  cases index with
  | zero =>
    have none_stray : strayCells text = 0 := by
      rw [strayCells_eq_zero_iff, List.head?_eq_getElem?, there]
      rintro c first
      cases first
      exact shown
    rw [none_stray, List.take_zero]
    rfl
  | succ index =>
    cases text with
    | nil => cases there
    | cons c rest => rfl

/-- The cells of a glyph are those from its column on, as many as it is wide; marks in front of all
glyphs move them by one. -/
theorem GlyphAt.take_drop_cells {index : Nat} {glyph : Char} {column : Nat}
    (h : GlyphAt text index glyph column) (untabbed : '\t' ∉ text) :
    ((cells text).drop (strayCells text + column)).take (charWidth glyph) =
      glyphCells glyph (marksBehind text index) := by
  obtain ⟨there, shown, rfl⟩ := (glyphAt_iff untabbed).mp h
  have front : (cells (text.take index)).length =
      strayCells text + glyphWidth (text.take index) := by
    rw [length_cells_eq, strayCells_take there shown, Nat.add_comm]
  rw [cells_eq_append there shown, ← front, List.drop_left,
    ← length_glyphCells shown (marksBehind text index), List.take_left]

/-! ## Marks that are attached -/

private theorem marksBehind_eq_nil_iff {index : Nat} :
    marksBehind text index = [] ↔ ∀ c ∈ text[index + 1]?, charWidth c ≠ 0 := by
  rw [marksBehind, ← List.head?_drop]
  cases text.drop (index + 1) with
  | nil => simp
  | cons c rest => simp [List.takeWhile_cons]

/-- Marks are attached exactly if none stands in front of all glyphs and none on a wide glyph. -/
theorem marksAttached_iff :
    MarksAttached text ↔ strayCells text = 0 ∧ ∀ index glyph, text[index]? = some glyph →
      charWidth glyph = 2 → marksBehind text index = [] := by
  have behind : (text.IsChain fun a b ↦ charWidth a = 2 → charWidth b ≠ 0) ↔
      ∀ index glyph, text[index]? = some glyph → charWidth glyph = 2 →
        marksBehind text index = [] := by
    simp only [marksBehind_eq_nil_iff, List.isChain_iff_getElem]
    constructor
    · intro chain index glyph there wide c next
      obtain ⟨inside, rfl⟩ := List.getElem?_eq_some_iff.mp next
      obtain ⟨before, rfl⟩ := List.getElem?_eq_some_iff.mp there
      exact chain index inside wide
    · intro bare index inside wide
      exact bare index _ (List.getElem?_eq_getElem (Nat.lt_of_succ_lt inside)) wide _
        (List.getElem?_eq_getElem inside)
  rw [strayCells_eq_zero_iff, ← behind]
  exact ⟨fun h ↦ ⟨h.start, h.behindWide⟩, fun h ↦ ⟨h.1, h.2⟩⟩

/-- A cell of a run that was cut out of a row. -/
private theorem getElem?_of_take_drop {row run : List Text} {start count : Nat}
    (h : (row.drop start).take count = run) {offset : Nat} (inside : offset < run.length) :
    row[start + offset]? = run[offset]? := by
  subst h
  rw [List.length_take] at inside
  rw [List.getElem?_take_of_lt (by omega), List.getElem?_drop]

/-- A row of cells shows its text by the display columns exactly if the marks are attached. -/
theorem byColumn_cells_iff (untabbed : '\t' ∉ text) :
    ByColumn text (cells text) ↔ MarksAttached text := by
  constructor
  · intro shows
    have stray : strayCells text = 0 := by
      have size := shows.length
      rw [length_cells_eq, displayWidth_of_not_mem_tab untabbed] at size
      omega
    refine marksAttached_iff.mpr ⟨stray, fun index glyph there wide ↦ ?_⟩
    have glyph_at : GlyphAt text index glyph _ :=
      (glyphAt_iff untabbed).mpr ⟨there, by omega, rfl⟩
    have run := glyph_at.take_drop_cells untabbed
    rw [glyphCells, if_pos wide, stray, Nat.zero_add] at run
    have empty := shows.second glyph_at wide
    rw [getElem?_of_take_drop run (Nat.lt_succ_self 1)] at empty
    exact Option.some.inj empty
  · intro attached
    obtain ⟨stray, bare⟩ := marksAttached_iff.mp attached
    have run {index : Nat} {glyph : Char} {column : Nat} (h : GlyphAt text index glyph column) :
        ((cells text).drop column).take (charWidth glyph) =
          glyphCells glyph (marksBehind text index) := by
      have moved := h.take_drop_cells untabbed
      rwa [stray, Nat.zero_add] at moved
    refine ⟨flatten_cells text, (displayWidth_eq_length_cells untabbed attached).symm, ?_, ?_⟩
    · intro index glyph column h
      have inside : 0 < (glyphCells glyph (marksBehind text index)).length := by
        rw [length_glyphCells h.shown]
        exact Nat.pos_of_ne_zero h.shown
      have cell := getElem?_of_take_drop (run h) inside
      rw [Nat.add_zero] at cell
      rw [cell, glyphCells]
      split
      · next wide => rw [bare index glyph h.there wide]; rfl
      · rfl
    · intro index glyph column h wide
      have cut := run h
      rw [glyphCells, if_pos wide, bare index glyph h.there wide] at cut
      exact getElem?_of_take_drop cut (Nat.lt_succ_self 1)

/-- The cells of a text without tabs hold the text in its order. There is one for each display
column, and one more if marks stand in front of all glyphs. At every column there is a glyph; its
cells are those from its column on, behind that one more, and its marks stand in the last of them.
So each cell shows the glyph at its column, and the second one of a wide glyph is empty, exactly if
no mark stands in front of all glyphs or on a wide one. -/
theorem cells_by_columns (untabbed : '\t' ∉ text) :
    (cells text).flatten = text ∧
    ((cells text).length : Int) = displayWidth text + strayCells text ∧
    (∀ column : Nat, (column : Int) < displayWidth text → ∃ index glyph start,
      GlyphAt text index glyph start ∧ start ≤ column ∧ column < start + charWidth glyph) ∧
    (∀ index glyph column, GlyphAt text index glyph column →
      ((cells text).drop (strayCells text + column)).take (charWidth glyph) =
        glyphCells glyph (marksBehind text index)) ∧
    (ByColumn text (cells text) ↔ MarksAttached text) := by
  refine ⟨flatten_cells text, ?length, ?columns,
    fun index glyph column h ↦ h.take_drop_cells untabbed, byColumn_cells_iff untabbed⟩
  case length =>
    rw [length_cells_eq, displayWidth_of_not_mem_tab untabbed]
    exact Int.natCast_add _ _
  case columns =>
    intro column inside
    rw [displayWidth_of_not_mem_tab untabbed, Int.ofNat_lt] at inside
    obtain ⟨index, glyph, there, low, high⟩ := exists_glyph_over inside
    exact ⟨index, glyph, _, (glyphAt_iff untabbed).mpr ⟨there, by omega, rfl⟩, low, high⟩

/-- A wide glyph with a mark on it. -/
def markedWideGlyph : Text := ['界', '\u0301']

/-- The mark on a wide glyph stands in the second cell of the glyph. -/
theorem mark_in_second_cell :
    '\t' ∉ markedWideGlyph ∧ GlyphAt markedWideGlyph 0 '界' 0 ∧
      (cells markedWideGlyph).take 2 = [['界'], ['\u0301']] ∧
      ¬ ByColumn markedWideGlyph (cells markedWideGlyph) := by
  have untabbed : '\t' ∉ markedWideGlyph := by decide
  have glyph : GlyphAt markedWideGlyph 0 '界' 0 := ⟨rfl, by decide +kernel, rfl⟩
  have wide : charWidth '界' = 2 := by decide +kernel
  have stray : strayCells markedWideGlyph = 0 := by decide +kernel
  have own : glyphCells '界' (marksBehind markedWideGlyph 0) = [['界'], ['\u0301']] := by
    decide +kernel
  obtain ⟨-, -, -, run, attached⟩ := cells_by_columns untabbed
  have cut := run 0 '界' 0 glyph
  rw [wide, stray, own, Nat.add_zero, List.drop_zero] at cut
  refine ⟨untabbed, glyph, cut, fun shows ↦ ?_⟩
  exact absurd (attached.mp shows) (by decide +kernel)

end Caret.Text
