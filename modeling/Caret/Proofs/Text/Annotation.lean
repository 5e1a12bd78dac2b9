import Caret.Proofs.Text.Cells
import Caret.Text.Annotation

/-!
# Expanded lines

A line without its tabs starts each code point at the display column that the line with tabs
gives it, and the annotation expanded with it holds the mark of a code point at that column.
-/

namespace Caret.Text

/-- How the first cell of a code point is shown: a tab as a blank. -/
def shownGlyph (c : Char) : Char := if c = '\t' then ' ' else c

/-- A blank takes one cell. -/
theorem charWidth_space : charWidth ' ' = 1 := charWidth_of_lt (by decide)

/-- What takes cells is shown in cells. -/
theorem charWidth_shownGlyph_ne {c : Char} (h : charWidth c ≠ 0) :
    charWidth (shownGlyph c) ≠ 0 := by
  unfold shownGlyph
  split
  · rw [charWidth_space]
    decide
  · exact h

variable {tabStop : Int}

/-! ## Columns -/

/-- A tab leads at least one column further. -/
theorem lt_nextTabStop (h : 1 ≤ tabStop) (column : Int) : column < nextTabStop column tabStop :=
  Int.lt_fdiv_add_one_mul_self column (by omega)

/-- A code point does not lead back. -/
theorem le_advance (h : 1 ≤ tabStop) (column : Int) (c : Char) :
    column ≤ advance tabStop column c := by
  unfold advance
  split
  · exact Int.le_of_lt (lt_nextTabStop h column)
  · omega

/-- A code point with a width leads further; a tab always does. -/
theorem lt_advance (h : 1 ≤ tabStop) (column : Int) {c : Char} (hc : charWidth c ≠ 0) :
    column < advance tabStop column c := by
  unfold advance
  split
  · exact lt_nextTabStop h column
  · omega

/-- A text does not lead back. -/
theorem le_endColumn (h : 1 ≤ tabStop) (text : Text) (column : Int) :
    column ≤ endColumn text tabStop column := by
  induction text generalizing column with
  | nil => exact Int.le_refl column
  | cons c rest ih => exact Int.le_trans (le_advance h column c) (ih _)

/-! ## The line -/

/-- Two texts are expanded one behind the other. -/
theorem expandTabs_append (s t : Text) (tabStop column : Int) :
    expandTabs tabStop (s ++ t) column =
      expandTabs tabStop s column ++ expandTabs tabStop t (endColumn s tabStop column) := by
  induction s generalizing column with
  | nil => rfl
  | cons c rest ih =>
    simp only [List.cons_append, expandTabs, ih, List.append_assoc]
    rfl

/-- An expanded line holds no tab. -/
theorem not_mem_tab_expandTabs (tabStop : Int) (text : Text) (column : Int) :
    '\t' ∉ expandTabs tabStop text column := by
  induction text generalizing column with
  | nil => exact List.not_mem_nil
  | cons c rest ih =>
    rw [expandTabs, List.mem_append, not_or]
    refine ⟨?_, ih _⟩
    split
    · intro hm
      exact absurd (List.eq_of_mem_replicate hm) (by decide)
    · next hc =>
      rw [List.mem_singleton]
      exact Ne.symm hc

/-- Blanks are as wide as they are many. -/
theorem glyphWidth_blanks (count : Int) : glyphWidth (blanks count) = count.toNat := by
  unfold blanks
  induction count.toNat with
  | zero => rfl
  | succ count ih => rw [List.replicate_succ, glyphWidth, charWidth_space, ih, Nat.add_comm]

/-- An expanded line is as wide as the line with its tabs. -/
theorem glyphWidth_expandTabs (h : 1 ≤ tabStop) (text : Text) (column : Int) :
    (glyphWidth (expandTabs tabStop text column) : Int) =
      endColumn text tabStop column - column := by
  induction text generalizing column with
  | nil => simp [expandTabs, glyphWidth, endColumn]
  | cons c rest ih =>
    have hw : (glyphWidth (if c = '\t' then blanks (advance tabStop column c - column) else [c]) :
        Int) = advance tabStop column c - column := by
      have hle := le_advance h column c
      split
      · rw [glyphWidth_blanks]
        omega
      · next hc =>
        simp only [glyphWidth, advance, if_neg hc]
        omega
    have hr := ih (advance tabStop column c)
    have he : endColumn (c :: rest) tabStop column =
        endColumn rest tabStop (advance tabStop column c) := rfl
    simp only [expandTabs, glyphWidth_append]
    omega

/-- An expanded line starts with the first cell of its first code point. -/
theorem head?_expandTabs (h : 1 ≤ tabStop) (text : Text) (column : Int) :
    (expandTabs tabStop text column).head? = text.head?.map shownGlyph := by
  cases text with
  | nil => rfl
  | cons c rest =>
    simp only [expandTabs, List.head?_cons, Option.map_some, shownGlyph]
    split
    · next hc =>
      have hlt := lt_nextTabStop h column
      have hn : blanks (advance tabStop column c - column) ≠ [] := by
        rw [Ne, ← List.length_eq_zero_iff, length_blanks, advance, if_pos hc]
        omega
      rw [List.head?_append_of_ne_nil _ hn, blanks, List.head?_replicate, if_neg]
      rw [Ne, ← List.length_eq_zero_iff, length_blanks] at hn
      exact hn
    · rfl

/-- Expanding a line leaves its marks at glyphs of one cell. -/
theorem MarksAttached.expandTabs {line : Text} (h : MarksAttached line) (ht : 1 ≤ tabStop)
    (column : Int) : MarksAttached (expandTabs tabStop line column) := by
  refine ⟨?_, ?_⟩
  · intro c hc
    rw [head?_expandTabs ht] at hc
    obtain ⟨a, ha, rfl⟩ := Option.map_eq_some_iff.mp hc
    exact charWidth_shownGlyph_ne (h.start a ha)
  · have hchain := h.behindWide
    clear h
    induction line generalizing column with
    | nil => exact List.isChain_nil
    | cons c rest ih =>
      have hr := ih (advance tabStop column c) hchain.tail
      rw [Text.expandTabs]
      split
      · apply List.IsChain.append _ hr
        · intro x hx y _ wide
          rw [List.eq_of_mem_replicate (List.mem_of_getLast? hx), charWidth_space] at wide
          cases wide
        · exact List.isChain_replicate_of_rel _ (by rw [charWidth_space]; decide)
      · apply List.IsChain.append (List.isChain_singleton c) hr
        intro x hx y hy wide
        cases hx
        rw [head?_expandTabs ht] at hy
        obtain ⟨a, ha, rfl⟩ := Option.map_eq_some_iff.mp hy
        cases rest with
        | nil => cases ha
        | cons b others =>
          cases ha
          exact charWidth_shownGlyph_ne (hchain.rel wide)

/-! ## The marks -/

/-- A mark takes the cells that it is widened to. -/
theorem length_widenMark (mark : Char) {width : Int} (h : 0 ≤ width) :
    (widenMark mark width).length = width.toNat := by
  unfold widenMark
  split
  · next hz => rw [hz]; rfl
  · rw [List.length_cons, List.length_replicate]
    omega

/-- The mark of a code point that takes a cell, or of the place behind the line, stands at its
display column. -/
theorem getElem?_expandFrom_snd (h : 1 ≤ tabStop) {front behind marks : Text} {mark : Char}
    (hmark : marks[front.length]? = some mark) (hw : ∀ c ∈ behind.head?, charWidth c ≠ 0)
    (column : Int) :
    (expandFrom tabStop (front ++ behind) marks column).2[
      (endColumn front tabStop column - column).toNat]? = some mark := by
  induction front generalizing marks column with
  | nil =>
    have hz : (endColumn [] tabStop column - column).toNat = 0 := by
      simp [endColumn]
    cases behind with
    | nil => rw [hz]; exact hmark
    | cons c rest =>
      have hlt := lt_advance h column (hw c rfl)
      cases marks with
      | nil => cases hmark
      | cons m others =>
        cases hmark
        have hm : ∃ fill, widenMark mark (advance tabStop column c - column) = mark :: fill :=
          ⟨_, if_neg (by omega)⟩
        obtain ⟨fill, hm⟩ := hm
        rw [hz, List.nil_append, expandFrom, List.headD_cons, hm]
        rfl
  | cons c rest ih =>
    cases marks with
    | nil => cases hmark
    | cons m others =>
      have hle := le_advance h column c
      have hre := le_endColumn h rest (advance tabStop column c)
      have he : endColumn (c :: rest) tabStop column =
          endColumn rest tabStop (advance tabStop column c) := rfl
      have hl : (widenMark m (advance tabStop column c - column)).length =
          (advance tabStop column c - column).toNat := length_widenMark m (by omega)
      have hothers : others[rest.length]? = some mark := hmark
      have hr := ih hothers (advance tabStop column c)
      have hi : (endColumn (c :: rest) tabStop column - column).toNat =
          (advance tabStop column c - column).toNat +
            (endColumn rest tabStop (advance tabStop column c) -
              advance tabStop column c).toNat := by omega
      simp only [List.cons_append, expandFrom, List.headD_cons, List.tail_cons]
      rw [hi, List.getElem?_append_right (by omega), hl, Nat.add_sub_cancel_left]
      exact hr

private theorem count_widenMark (mark : Char) (width : Int) :
    (widenMark mark width).count caretMark ≤ [mark].count caretMark := by
  have hfill : caretMark ≠ if mark = underlineMark then mark else ' ' := by
    split
    · next hm => rw [hm]; decide
    · decide
  unfold widenMark
  split
  · exact Nat.zero_le _
  · rw [List.count_cons, List.count_cons, List.count_nil, List.count_eq_zero_of_not_mem]
    intro hm
    exact hfill (List.eq_of_mem_replicate hm)

/-- Expanding an annotation adds no caret. -/
theorem count_expandFrom_snd_le (tabStop : Int) (line marks : Text) (column : Int) :
    (expandFrom tabStop line marks column).2.count caretMark ≤ marks.count caretMark := by
  induction line generalizing marks column with
  | nil => exact Nat.le_refl _
  | cons c rest ih =>
    have hr := ih marks.tail (advance tabStop column c)
    have hw := count_widenMark (marks.headD ' ') (advance tabStop column c - column)
    rw [expandFrom, List.count_append]
    cases marks with
    | nil =>
      have hs : [' '].count caretMark = 0 := by decide
      simp only [List.headD_nil, hs] at hw
      simp only [List.headD_nil, List.tail_nil] at hr ⊢
      omega
    | cons m others =>
      rw [List.count_cons]
      simp only [List.headD_cons, List.tail_cons, List.count_cons, List.count_nil] at hw hr ⊢
      omega

/-! ## Lines of marks -/

/-- A line has blanks, underlines and carets only. -/
def OnlyMarks (marks : Text) : Prop :=
  ∀ mark ∈ marks, mark = ' ' ∨ mark = underlineMark ∨ mark = caretMark

instance (marks : Text) : Decidable (OnlyMarks marks) :=
  List.decidableBAll (fun mark ↦ mark = ' ' ∨ mark = underlineMark ∨ mark = caretMark) marks

namespace OnlyMarks

/-- Blanks are marks. -/
theorem replicate_space (count : Nat) : OnlyMarks (List.replicate count ' ') :=
  fun _ hm ↦ Or.inl (List.eq_of_mem_replicate hm)

/-- Marks stand behind marks. -/
theorem append {first second : Text} (h : OnlyMarks first) (next : OnlyMarks second) :
    OnlyMarks (first ++ second) := by
  intro mark hm
  rcases List.mem_append.mp hm with early | late
  · exact h mark early
  · exact next mark late

/-- A part of a line of marks has marks only. -/
theorem of_subset {marks part : Text} (h : OnlyMarks marks) (hs : part ⊆ marks) :
    OnlyMarks part :=
  fun mark hm ↦ h mark (hs hm)

private theorem widenMark {mark : Char}
    (h : mark = ' ' ∨ mark = underlineMark ∨ mark = caretMark) (width : Int) :
    OnlyMarks (widenMark mark width) := by
  unfold Text.widenMark
  split
  · exact List.forall_mem_nil _
  · intro other hm
    rcases List.mem_cons.mp hm with rfl | filled
    · exact h
    · rw [List.eq_of_mem_replicate filled]
      split
      · exact h
      · exact Or.inl rfl

/-- Expanding an annotation gives a line of marks. -/
theorem expandFrom {marks : Text} (h : OnlyMarks marks) (tabStop : Int) (line : Text)
    (column : Int) : OnlyMarks (expandFrom tabStop line marks column).2 := by
  induction line generalizing marks column with
  | nil => exact h
  | cons c rest ih =>
    cases marks with
    | nil => exact (widenMark (Or.inl rfl) _).append (ih h _)
    | cons mark others =>
      exact (widenMark (h mark List.mem_cons_self) _).append
        (ih (h.of_subset (List.subset_cons_self _ _)) _)

/-- Marks are letters of Latin scripts. -/
theorem plain {marks : Text} (h : OnlyMarks marks) :
    ∀ c ∈ marks, c ≠ '\t' ∧ c.toNat < 0x300 := by
  intro c hc
  rcases h c hc with rfl | rfl | rfl <;> decide

/-- A line of marks has one mark for each display column, so that the caret at an index stands
at that column. -/
theorem exists_caret_at {marks : Text} (h : OnlyMarks marks) {column : Nat}
    (hcaret : marks[column]? = some caretMark) :
    ∃ before after, marks = before ++ caretMark :: after ∧ displayWidth before = column := by
  obtain ⟨hlt, hget⟩ := List.getElem?_eq_some_iff.mp hcaret
  refine ⟨marks.take column, marks.drop (column + 1), ?_, ?_⟩
  · rw [← hget, List.getElem_cons_drop, List.take_append_drop]
  · have front : OnlyMarks (marks.take column) := h.of_subset (List.take_subset _ _)
    rw [displayWidth_eq_length front.plain, List.length_take, Nat.min_eq_left (Nat.le_of_lt hlt)]

end OnlyMarks

end Caret.Text
