import Caret.Proofs.Snippet.Region
import Caret.Proofs.Text.Runs

/-!
# Growth by words

The region around the marks of a snippet grows to the start of the last word in front of it and to
the end of a word behind it, as long as the word fits, and ends when neither does. The search for
the end of a word passes over the glyph behind the region; where this is the last glyph of a word,
the end that is found is that of the word behind.
-/

namespace Caret.Snippet

open Text

/-! ## Glyphs of a row -/

/-- Each empty cell of a row is the second one of a glyph that is no blank. -/
def OfGlyphs (row : List Text) : Prop :=
  ∀ index, isContinuation row index = true →
    0 < index ∧ isContinuation row (index - 1) = false ∧ isSpaceCell row (index - 1) = false

/-- The cells of a text are those of its glyphs. -/
theorem ofGlyphs_cells (text : Text) : OfGlyphs (cells text) := by
  intro index hc
  have hnil : (cells text)[index]? = some [] := by simpa [isContinuation] using hc
  cases index with
  | zero => exact absurd hnil (getElem?_cells_zero_ne text)
  | succ before =>
    obtain ⟨cell, hcell, hb⟩ := exists_cell_before_nil hnil
    have hne : cell ≠ [] ∧ cell ≠ [' '] := by
      constructor <;> rintro rfl <;> cases hb
    simp [isContinuation, isSpaceCell, hcell, hne]

/-- The second cell of a glyph is no blank. -/
theorem isSpaceCell_of_isContinuation {row : List Text} {index : Nat}
    (h : isContinuation row index = true) : isSpaceCell row index = false := by
  have hnil : row[index]? = some [] := by simpa [isContinuation] using h
  rw [isSpaceCell, hnil]
  rfl

namespace OfGlyphs

variable {row : List Text} (glyphs : OfGlyphs row)

include glyphs

/-- The glyph in front of a cell starts one or two cells in front of it. -/
theorem previousGlyph_succ (index : Nat) :
    previousGlyph row (index + 1) = if isContinuation row index then index - 1 else index := by
  rw [previousGlyph]
  cases hc : isContinuation row index with
  | false => rw [Bool.and_false, if_neg Bool.false_ne_true, if_neg Bool.false_ne_true]
  | true =>
    obtain ⟨hpos, hfirst, -⟩ := glyphs index hc
    rw [if_pos rfl, if_pos (by simpa using hpos)]
    obtain ⟨before, rfl⟩ := Nat.exists_eq_add_one_of_ne_zero (by omega : index ≠ 0)
    rw [previousGlyph, Nat.add_sub_cancel] at *
    rw [hfirst, Bool.and_false, if_neg Bool.false_ne_true]

private theorem isSpaceCell_previousGlyph {index : Nat} (h : 0 < index) :
    isSpaceCell row (previousGlyph row index) = isSpaceCell row (index - 1) := by
  obtain ⟨before, rfl⟩ := Nat.exists_eq_add_one_of_ne_zero (by omega : index ≠ 0)
  rw [glyphs.previousGlyph_succ, Nat.add_sub_cancel]
  split
  · next hc => rw [(glyphs before hc).2.2, isSpaceCell_of_isContinuation hc]
  · rfl

end OfGlyphs

variable {row : List Text}

/-- In the empty cells from a place on, a glyph goes on. -/
theorem isContinuation_of_lt_runLength {index between : Nat} (h : index ≤ between)
    (hn : between < index + runLength row (· = []) index) : isContinuation row between = true := by
  have hrun : between - index < runLength row (· = []) index := by omega
  rw [runLength] at hrun
  obtain ⟨cell, hcell⟩ : ∃ cell, (row.drop index)[between - index]? = some cell :=
    ⟨_, List.getElem?_eq_getElem
      (Nat.lt_of_lt_of_le hrun (List.takeWhile_sublist _).length_le)⟩
  have hnil := test_of_lt_length_takeWhile hcell hrun
  rw [List.getElem?_drop, Nat.add_sub_cancel' h] at hcell
  simp only [decide_eq_true_eq] at hnil
  simp [isContinuation, hcell, hnil]

/-- Between a cell and the glyph behind it, a glyph goes on. -/
theorem isContinuation_of_lt_nextGlyph {index between : Nat} (h : index < between)
    (hn : between < nextGlyph row index) : isContinuation row between = true :=
  isContinuation_of_lt_runLength h hn

/-! ## Words -/

/-- A word starts at a cell. -/
def StartsWord (row : List Text) (index : Nat) : Prop :=
  isSpaceCell row index = false ∧ (index = 0 ∨ isSpaceCell row (index - 1) = true)

/-- A word ends in front of a cell. -/
def EndsWord (row : List Text) (index : Nat) : Prop :=
  (index = row.length ∨ isSpaceCell row index = true) ∧ 0 < index ∧
    isSpaceCell row (index - 1) = false

/-- The start of the last word that starts in front of a cell, or the start of the row if there is
none. -/
structure LastWordStart (row : List Text) (start word : Nat) : Prop where
  lt : word < start
  starts : word = 0 ∨ StartsWord row word
  last : ∀ index, word < index → index < start → ¬StartsWord row index

/-- The end of the first word that ends behind a cell, or the end of the row if there is none. -/
structure FirstWordEnd (row : List Text) (stop word : Nat) : Prop where
  lt : stop < word
  le : word ≤ row.length
  ends : word = row.length ∨ EndsWord row word
  first : ∀ index, stop < index → index < word → ¬EndsWord row index

section Left

variable (glyphs : OfGlyphs row)

include glyphs

private theorem not_startsWord_of_previousGlyph_lt {start index : Nat}
    (h : previousGlyph row start < index) (hi : index < start) : ¬StartsWord row index := by
  obtain ⟨before, rfl⟩ := Nat.exists_eq_add_one_of_ne_zero (by omega : start ≠ 0)
  rw [glyphs.previousGlyph_succ] at h
  split at h
  · next hc =>
    obtain ⟨hpos, -, hspace⟩ := glyphs before hc
    have hindex : index = before := by omega
    rintro ⟨-, hz | hs⟩
    · omega
    · rw [hindex, hspace] at hs
      cases hs
  · omega

private theorem skipSpacesBack_spec {bound index : Nat} (h : index ≤ bound) :
    (skipSpacesBack row bound index = 0 ∨
        isSpaceCell row (skipSpacesBack row bound index) = false) ∧
      ∀ between, skipSpacesBack row bound index < between → between ≤ index →
        ¬StartsWord row between := by
  induction bound generalizing index with
  | zero => exact ⟨.inl (Nat.le_zero.mp h), fun between h1 h2 ↦ absurd h1 (Nat.not_lt.mpr h2)⟩
  | succ bound ih =>
    rw [skipSpacesBack]
    split
    · next hc =>
      rw [Bool.and_eq_true, decide_eq_true_eq] at hc
      have hp := previousGlyph_le row index
      obtain ⟨hend, hnone⟩ := ih (show previousGlyph row index ≤ bound by omega)
      refine ⟨hend, fun between h1 h2 ↦ ?_⟩
      by_cases hle : between ≤ previousGlyph row index
      · exact hnone between h1 hle
      · by_cases heq : between = index
        · rintro ⟨hs, -⟩
          rw [heq, hc.2] at hs
          cases hs
        · exact not_startsWord_of_previousGlyph_lt glyphs (Nat.lt_of_not_le hle) (by omega)
    · next hc =>
      refine ⟨?_, fun between h1 h2 ↦ absurd h1 (Nat.not_lt.mpr h2)⟩
      by_cases hz : index = 0
      · exact .inl hz
      · exact .inr (by simpa [Nat.pos_of_ne_zero hz] using hc)

private theorem wordStart_spec {bound index : Nat} (h : index ≤ bound)
    (hs : index = 0 ∨ isSpaceCell row index = false) :
    (wordStart row bound index = 0 ∨ StartsWord row (wordStart row bound index)) ∧
      ∀ between, wordStart row bound index < between → between ≤ index →
        ¬StartsWord row between := by
  induction bound generalizing index with
  | zero => exact ⟨.inl (Nat.le_zero.mp h), fun between h1 h2 ↦ absurd h1 (Nat.not_lt.mpr h2)⟩
  | succ bound ih =>
    simp only [wordStart]
    split
    · next hz => exact ⟨.inl hz, fun between h1 h2 ↦ absurd h1 (Nat.not_lt.mpr h2)⟩
    next hz =>
    have hp := previousGlyph_le row index
    have hsame := glyphs.isSpaceCell_previousGlyph (Nat.pos_of_ne_zero hz)
    split
    · next hspace =>
      rw [hsame] at hspace
      exact ⟨.inr ⟨hs.resolve_left hz, .inr hspace⟩,
        fun between h1 h2 ↦ absurd h1 (Nat.not_lt.mpr h2)⟩
    · next hspace =>
      rw [Bool.not_eq_true] at hspace
      obtain ⟨hstart, hnone⟩ := ih (show previousGlyph row index ≤ bound by omega) (.inr hspace)
      refine ⟨hstart, fun between h1 h2 ↦ ?_⟩
      by_cases hle : between ≤ previousGlyph row index
      · exact hnone between h1 hle
      · by_cases heq : between = index
        · rintro ⟨-, hzero | hb⟩
          · omega
          · rw [heq, ← hsame, hspace] at hb
            cases hb
        · exact not_startsWord_of_previousGlyph_lt glyphs (Nat.lt_of_not_le hle) (by omega)

private theorem lastWordStart_extendLeft {start : Nat} (hpos : 0 < start)
    (hle : start ≤ row.length) :
    LastWordStart row start (extendLeft row start) := by
  have hp := previousGlyph_le row start
  rw [extendLeft]
  generalize hg : skipSpacesBack row row.length (previousGlyph row start) = glyph
  have hgp : glyph ≤ previousGlyph row start := hg ▸ skipSpacesBack_le _ _
  obtain ⟨hend, hblank⟩ := skipSpacesBack_spec glyphs
    (show previousGlyph row start ≤ row.length by omega)
  rw [hg] at hend hblank
  obtain ⟨hstart, hword⟩ := wordStart_spec glyphs (show glyph ≤ row.length by omega) hend
  have hwg := wordStart_le row row.length glyph
  refine ⟨by omega, hstart, fun index h1 h2 ↦ ?_⟩
  by_cases hw : index ≤ glyph
  · exact hword index h1 hw
  · by_cases hb : index ≤ previousGlyph row start
    · exact hblank index (by omega) hb
    · exact not_startsWord_of_previousGlyph_lt glyphs (by omega) h2

end Left

section Right

private theorem skipRight_spec (test : Nat → Bool) (bound : Nat) {index : Nat}
    (hle : index ≤ row.length) (h : row.length - index ≤ bound) :
    (skipRight row test bound index = row.length ∨
        test (skipRight row test bound index) = false) ∧
      ∀ between, index ≤ between → between < skipRight row test bound index →
        test between = true ∨ isContinuation row between = true := by
  induction bound generalizing index with
  | zero =>
    exact ⟨.inl (by rw [skipRight]; omega), fun between h1 h2 ↦ absurd h2 (Nat.not_lt.mpr h1)⟩
  | succ bound ih =>
    rw [skipRight]
    split
    · next hc =>
      rw [Bool.and_eq_true, decide_eq_true_eq] at hc
      have hnext := lt_nextGlyph row index
      obtain ⟨hend, hrun⟩ := ih (nextGlyph_le hc.1) (by omega)
      refine ⟨hend, fun between h1 h2 ↦ ?_⟩
      by_cases hb : nextGlyph row index ≤ between
      · exact hrun between hb h2
      · by_cases heq : between = index
        · exact .inl (heq ▸ hc.2)
        · exact .inr (isContinuation_of_lt_nextGlyph (show index < between by omega) (by omega))
    · next hc =>
      refine ⟨?_, fun between h1 h2 ↦ absurd h2 (Nat.not_lt.mpr h1)⟩
      by_cases hlen : index = row.length
      · exact .inl hlen
      · have hlt : index < row.length := by omega
        exact .inr (by simpa [hlt] using hc)

/-- From a glyph on, the blanks there and then a word are passed over. -/
private theorem firstWordEnd_skipRight (glyphs : OfGlyphs row) {next : Nat}
    (hglyph : isContinuation row next = false) (hlt : next < row.length) :
    FirstWordEnd row next (skipRight row (!isSpaceCell row ·) row.length
      (skipRight row (isSpaceCell row) row.length next)) := by
  obtain ⟨hnw, hwl, hwg⟩ := skipRight_bounds (isSpaceCell row) row.length hglyph (Nat.le_of_lt hlt)
  obtain ⟨hword, hblank⟩ := skipRight_spec (isSpaceCell row) row.length
    (Nat.le_of_lt hlt) (by omega)
  generalize skipRight row (isSpaceCell row) row.length next = word at *
  obtain ⟨hws, hsl, -⟩ := skipRight_bounds (!isSpaceCell row ·) row.length hwg hwl
  obtain ⟨hend, hrun⟩ := skipRight_spec (!isSpaceCell row ·) row.length hwl (by omega)
  generalize skipRight row (!isSpaceCell row ·) row.length word = stop at *
  -- The cells in front of the word are blanks, since the search starts at a glyph.
  have hblanks (index : Nat) (h1 : next ≤ index) (h2 : index < word) :
      isSpaceCell row index = true := by
    rcases hblank index h1 h2 with hs | hc
    · exact hs
    · obtain ⟨-, hfirst, hs⟩ := glyphs index hc
      have hne : index ≠ next := by
        rintro rfl
        rw [hc] at hglyph
        cases hglyph
      rcases hblank (index - 1) (by omega) (by omega) with hs' | hc'
      · rw [hs] at hs'
        cases hs'
      · rw [hfirst] at hc'
        cases hc'
  have hshown (index : Nat) (h1 : word ≤ index) (h2 : index < stop) :
      isSpaceCell row index = false := by
    rcases hrun index h1 h2 with hs | hc
    · simpa using hs
    · exact isSpaceCell_of_isContinuation hc
  have hws' : stop < row.length → word < stop := by
    intro hin
    refine Nat.lt_of_le_of_ne hws ?_
    rintro rfl
    have hs := hword.resolve_left (by omega)
    have hs' := hend.resolve_left (by omega)
    simp [hs] at hs'
  refine ⟨?lt, hsl, ?ends, ?first⟩
  case lt =>
    by_cases hin : stop < row.length
    · have := hws' hin
      omega
    · omega
  case ends =>
    by_cases hin : stop < row.length
    · have hpos := hws' hin
      refine .inr ⟨.inr ?_, by omega, hshown (stop - 1) (by omega) (by omega)⟩
      simpa using hend.resolve_left (by omega)
    · exact .inl (by omega)
  case first =>
    rintro index h1 h2 ⟨hlen | hs, -, hbefore⟩
    · omega
    by_cases hw : word ≤ index
    · rw [hshown index hw h2] at hs
      cases hs
    · rw [hblanks (index - 1) (by omega) (by omega)] at hbefore
      cases hbefore

/-- To the right, growth reaches the end of the first word that ends behind the region, or, if
only the last glyph of this word is left, the end of the word behind it. -/
theorem firstWordEnd_extendRight (glyphs : OfGlyphs row) {stop : Nat} (h : stop < row.length) :
    FirstWordEnd row stop (extendRight row stop) ∨
      FirstWordEnd row stop (nextGlyph row stop) ∧
        FirstWordEnd row (nextGlyph row stop) (extendRight row stop) := by
  have hstop := lt_nextGlyph row stop
  have hnext := nextGlyph_le h
  -- No word ends inside of the glyph behind the region.
  have hinside (index : Nat) (h1 : stop < index) (h2 : index < nextGlyph row stop) :
      ¬EndsWord row index := by
    rintro ⟨hlen | hs, -⟩
    · omega
    · rw [isSpaceCell_of_isContinuation (isContinuation_of_lt_nextGlyph h1 h2)] at hs
      cases hs
  by_cases hlt : nextGlyph row stop < row.length
  · have hword : FirstWordEnd row (nextGlyph row stop) (extendRight row stop) :=
      firstWordEnd_skipRight glyphs (isContinuation_nextGlyph stop) hlt
    by_cases hends : EndsWord row (nextGlyph row stop)
    · exact .inr ⟨⟨hstop, hnext, .inr hends, hinside⟩, hword⟩
    · refine .inl ⟨Nat.lt_trans hstop hword.lt, hword.le, hword.ends, fun index h1 h2 ↦ ?_⟩
      rcases Nat.lt_trichotomy index (nextGlyph row stop) with hi | rfl | hi
      · exact hinside index h1 hi
      · exact hends
      · exact hword.first index hi h2
  · have hend : nextGlyph row stop = row.length := by omega
    obtain ⟨hge, hle, -⟩ := extendRight_bounds h
    have hlast : extendRight row stop = row.length := by omega
    rw [hlast]
    exact .inl ⟨h, Nat.le_refl _, .inl rfl, fun index h1 h2 ↦ hinside index h1 (by omega)⟩

end Right

/-! ## The end of growth -/

/-- Growth to both sides ends: each side is at the end of the row, or the span and the next word
there do not fit into the room. To the right, a single last glyph of a word is taken with the word
behind it only, so that these have to fit. -/
structure Span.Grown (row : List Text) (room : Int) (span : Span) : Prop where
  left : span.start = 0 ∨
    ∃ word, LastWordStart row span.start word ∧ room < (span.stop : Int) - word
  right : span.stop = row.length ∨
    ∃ word, FirstWordEnd row span.stop word ∧
      (room < (word : Int) - span.start ∨
        word = nextGlyph row span.stop ∧
          ∃ next, FirstWordEnd row word next ∧ room < (next : Int) - span.start)

namespace Span

variable {target : Int} {span : Span}

/-- To the left, a round of growth takes the word there if it fits. -/
theorem start_growOnce (row : List Text) (target : Int) (span : Span) :
    (span.growOnce row target).start =
      if 0 < span.start ∧ (span.stop : Int) - extendLeft row span.start ≤ target then
        extendLeft row span.start
      else span.start := by
  unfold growOnce
  extract_lets left grown right
  have hstart : grown.start = if 0 < span.start ∧ (span.stop : Int) - left ≤ target then left
      else span.start := by
    unfold grown
    split <;> rfl
  rw [← hstart]
  split <;> rfl

/-- To the right, a round of growth takes the word there if it fits beside the one in front. -/
theorem stop_growOnce (row : List Text) (target : Int) (span : Span) :
    (span.growOnce row target).stop =
      if span.stop < row.length ∧
          (extendRight row span.stop : Int) - (span.growOnce row target).start ≤ target then
        extendRight row span.stop
      else span.stop := by
  unfold growOnce
  extract_lets left grown right
  have hstop : grown.stop = span.stop := by
    unfold grown
    split <;> rfl
  have hright : right = extendRight row span.stop := congrArg (extendRight row) hstop
  have hstart : (if grown.stop < row.length ∧ (right : Int) - grown.start ≤ target then
      (⟨grown.start, right⟩ : Span) else grown).start = grown.start := by
    split <;> rfl
  rw [hstart, ← hright, ← hstop]
  split <;> rfl

private theorem width_growOnce_le (h : (span.stop : Int) - span.start ≤ target) :
    ((span.growOnce row target).stop : Int) - (span.growOnce row target).start ≤ target := by
  rw [stop_growOnce]
  split
  · next hfits => exact hfits.2
  · rw [start_growOnce]
    split
    · next hfits => exact hfits.2
    · exact h

/-- Growth does not leave the room. -/
theorem width_grow_le (h : (span.stop : Int) - span.start ≤ target) (bound : Nat) :
    ((span.grow row target bound).stop : Int) - (span.grow row target bound).start ≤ target := by
  induction bound generalizing span with
  | zero => exact h
  | succ bound ih =>
    simp only [grow]
    split
    · exact h
    · exact ih (width_growOnce_le h)

/-- Each round that changes the span makes it wider, so that growth ends before its bound. -/
theorem Whole.growOnce_grow (h : span.Whole row) (hz : isContinuation row 0 = false)
    (target : Int) {bound : Nat} (hb : span.start + (row.length - span.stop) < bound) :
    (span.grow row target bound).growOnce row target = span.grow row target bound := by
  induction bound generalizing span with
  | zero => exact absurd hb (Nat.not_lt_zero _)
  | succ bound ih =>
    obtain ⟨hw, hc⟩ := h.growOnce hz target
    simp only [Span.grow]
    split
    · next hsame => exact hsame
    · next hchanged =>
      have hstart := hc.start_le
      have hstop := hc.le_stop
      have hle := hw.stop_le
      have hne : ¬((span.growOnce row target).start = span.start ∧
          (span.growOnce row target).stop = span.stop) := by
        rintro ⟨h1, h2⟩
        exact hchanged (congrArg₂ Span.mk h1 h2)
      exact ih hw (by omega)

/-- A span that a round does not change is at the ends of the row or next to words that do not
fit. -/
theorem Whole.grown_of_fixed (glyphs : OfGlyphs row) (h : span.Whole row)
    (hle : span.start ≤ row.length) (hfixed : span.growOnce row target = span) :
    span.Grown row target := by
  have hstart := start_growOnce row target span
  have hstop := stop_growOnce row target span
  rw [hfixed] at hstart hstop
  refine ⟨?left, ?right⟩
  case left =>
    rcases Nat.eq_zero_or_pos span.start with hz | hpos
    · exact .inl hz
    have hword := lastWordStart_extendLeft glyphs hpos hle
    refine .inr ⟨_, hword, Int.not_le.mp fun hfits ↦ ?_⟩
    rw [if_pos ⟨hpos, hfits⟩] at hstart
    have := hword.lt
    omega
  case right =>
    rcases Nat.eq_or_lt_of_le h.stop_le with hend | hlt
    · exact .inl hend
    have hwide : target < (extendRight row span.stop : Int) - span.start := by
      refine Int.not_le.mp fun hfits ↦ ?_
      rw [if_pos ⟨hlt, hfits⟩] at hstop
      have hnext := (extendRight_bounds hlt).1
      have := lt_nextGlyph row span.stop
      omega
    rcases firstWordEnd_extendRight glyphs hlt with hword | ⟨hlast, hword⟩
    · exact .inr ⟨_, hword, .inl hwide⟩
    · exact .inr ⟨_, hlast, .inr ⟨rfl, _, hword, hwide⟩⟩

end Span

end Caret.Snippet
