import Caret.Proofs.Snippet.Trimming
import Caret.Proofs.Snippet.WordGrowth

/-!
# How wide trimmed lines are

The span that has to stay is the smallest one in whole glyphs with every mark and every insertion.
A caret line without marks counts with its end, so that this end and the insertions behind it stay
together. If the terminal is more than the reserve wider than the span that has to stay, the
trimmed lines fit, and a word at either side of what is shown would not.
-/

namespace Caret.Snippet

open Text

/-! ## The span that has to stay -/

/-- A span of columns has every mark and every insertion and ends with whole glyphs of the source;
a caret line without marks has its end in it. -/
structure Span.Holds (lines : Lines) (span : Span) : Prop where
  start_le_stop : span.start ≤ span.stop
  start : isContinuation (cells lines.source) span.start = false
  stop : isContinuation (cells lines.source) span.stop = false
  ink : ∀ column, lines.IsInked column → span.start ≤ column ∧ column < span.stop
  unmarked : (∀ mark ∈ lines.caret, mark = ' ') →
    span.start ≤ lines.caret.length ∧ lines.caret.length ≤ span.stop

/-- The smallest such span. -/
structure Lines.Requires (lines : Lines) (span : Span) : Prop where
  holds : span.Holds lines
  least : ∀ other : Span, other.Holds lines → other.Covers span

private theorem exists_ends_of_inkOf {row : List Text} (h : (inkOf row).start < (inkOf row).stop) :
    (∃ cell ∈ row[(inkOf row).start]?, isBlankCell cell = false) ∧
      ∃ cell ∈ row[(inkOf row).stop - 1]?, isBlankCell cell = false := by
  simp only [inkOf, inkSpan] at h ⊢
  generalize hlead : (row.takeWhile isBlankCell).length = lead at h ⊢
  generalize htail : (row.reverse.takeWhile isBlankCell).length = tail at h ⊢
  have hfirst : lead < row.length := by omega
  have hlast : tail < row.reverse.length := by
    rw [List.length_reverse]
    omega
  constructor
  · have hcell := List.getElem?_eq_getElem hfirst
    exact ⟨_, hcell, getElem?_length_takeWhile (by rwa [hlead])⟩
  · have hcell := List.getElem?_eq_getElem hlast
    have hblank := getElem?_length_takeWhile (by rwa [htail])
    rw [List.length_reverse] at hlast
    rw [List.getElem?_reverse hlast] at hcell
    rw [show row.length - min (row.length - lead) tail - 1 = row.length - 1 - tail by omega]
    exact ⟨_, hcell, hblank⟩

/-- A span with all cells that show something covers the span of ink. -/
theorem covers_inkOf {row : List Text} {outer : Span} (h : (inkOf row).start < (inkOf row).stop)
    (ink : ∀ column, (∃ cell ∈ row[column]?, isBlankCell cell = false) →
      outer.start ≤ column ∧ column < outer.stop) : outer.Covers (inkOf row) := by
  obtain ⟨hfirst, hlast⟩ := exists_ends_of_inkOf h
  have h1 := (ink _ hfirst).1
  have h2 := (ink _ hlast).2
  exact ⟨h1, by omega⟩

/-- A row without ink has its end as the span of ink. -/
theorem inkOf_of_blank {row : List Text} (h : ∀ cell ∈ row, isBlankCell cell = true) :
    inkOf row = ⟨row.length, row.length⟩ := by
  have hlead : row.takeWhile isBlankCell = row := List.takeWhile_eq_self_iff.mpr h
  simp only [inkOf, inkSpan, hlead, Nat.sub_self, Nat.zero_min, Nat.sub_zero]

private theorem forall_blank_of_inkOf {row : List Text}
    (h : ¬(inkOf row).start < (inkOf row).stop) : ∀ cell ∈ row, isBlankCell cell = true := by
  intro cell hcell
  obtain ⟨column, hcolumn⟩ := List.mem_iff_getElem?.mp hcell
  cases hb : isBlankCell cell with
  | true => rfl
  | false =>
    have := mem_inkOf hcolumn hb
    omega

variable {lines : Lines}

private theorem isInked_of_markCells {column : Nat}
    (h : ∃ cell ∈ (markCells lines.caret)[column]?, isBlankCell cell = false) :
    lines.IsInked column := by
  obtain ⟨cell, hcell, hb⟩ := h
  rw [markCells, List.getElem?_map, Option.mem_def, Option.map_eq_some_iff] at hcell
  obtain ⟨mark, hmark, rfl⟩ := hcell
  refine .inl ⟨mark, hmark, ?_⟩
  rintro rfl
  cases hb

private theorem forall_blank_markCells :
    (∀ cell ∈ markCells lines.caret, isBlankCell cell = true) ↔
      ∀ mark ∈ lines.caret, mark = ' ' := by
  simp [markCells, isBlankCell]

/-- A span that holds all ends of a span without regard to glyphs holds it in whole glyphs. -/
private theorem covers_wholeGlyphs {row : List Text} (glyphs : OfGlyphs row) {inner outer : Span}
    (h : outer.Covers inner) (hstart : isContinuation row outer.start = false)
    (hstop : isContinuation row outer.stop = false) : outer.Covers (inner.wholeGlyphs row) := by
  have h1 := h.start_le
  have h2 := h.le_stop
  constructor
  · simp only [Span.wholeGlyphs]
    split
    · next hc =>
      have hne : outer.start ≠ inner.start := by
        intro e
        rw [e, hc] at hstart
        cases hstart
      obtain ⟨hpos, hfirst, -⟩ := glyphs inner.start hc
      obtain ⟨before, hb⟩ := Nat.exists_eq_add_one_of_ne_zero (by omega : inner.start ≠ 0)
      rw [hb, Nat.add_sub_cancel] at hfirst
      rw [hb, glyphs.previousGlyph_succ, hfirst, if_neg Bool.false_ne_true]
      omega
    · exact h1
  · refine Nat.not_lt.mp fun hlt ↦ ?_
    rw [isContinuation_of_lt_runLength h2 hlt] at hstop
    cases hstop

/-- What trimming keeps at least is the smallest span that holds the marks and insertions. -/
theorem requires_requiredSpan (lines : Lines) :
    lines.Requires (requiredSpan (cells lines.source) lines) := by
  obtain ⟨hle, hstart, hstop⟩ := requiredSpan_whole (isContinuation_cells_zero lines.source) lines
  refine ⟨⟨hle, hstart, hstop, fun column ↦ mem_requiredSpan _, ?unmarked⟩, ?least⟩
  case unmarked =>
    intro hblank
    have hmarks : inkOf (markCells lines.caret) = ⟨lines.caret.length, lines.caret.length⟩ := by
      rw [inkOf_of_blank (forall_blank_markCells.mpr hblank), markCells, List.length_map]
    unfold requiredSpan
    rw [hmarks]
    extract_lets marks insertions both
    have hboth : both.start ≤ lines.caret.length ∧ lines.caret.length ≤ both.stop := by
      unfold both
      split
      · exact ⟨Nat.min_le_left _ _, Nat.le_max_left _ _⟩
      · exact ⟨Nat.le_refl _, Nat.le_refl _⟩
    obtain ⟨h1, h2⟩ := wholeGlyphs_bounds (cells lines.source) both
    omega
  case least =>
    intro other hother
    unfold requiredSpan
    extract_lets marks insertions both
    refine covers_wholeGlyphs (ofGlyphs_cells _) ?_ hother.start hother.stop
    have hmarks : other.Covers marks := by
      by_cases hlt : marks.start < marks.stop
      · exact covers_inkOf hlt fun column hcell ↦ hother.ink column (isInked_of_markCells hcell)
      · have hblank := forall_blank_of_inkOf hlt
        obtain ⟨h1, h2⟩ := hother.unmarked (forall_blank_markCells.mp hblank)
        have hend : marks = ⟨lines.caret.length, lines.caret.length⟩ := by
          rw [← List.length_map (f := fun mark : Char ↦ [mark])]
          exact inkOf_of_blank hblank
        rw [hend]
        exact ⟨h1, h2⟩
    unfold both
    split
    · next hlt =>
      have hinsertions : other.Covers insertions :=
        covers_inkOf hlt fun column hcell ↦ hother.ink column (.inr hcell)
      exact ⟨Nat.le_min.mpr ⟨hmarks.start_le, hinsertions.start_le⟩,
        Nat.max_le.mpr ⟨hmarks.le_stop, hinsertions.le_stop⟩⟩
    · exact hmarks

/-! ## The span that is kept -/

/-- The columns of a span behind the end of a row. -/
def Span.outside (row : List Text) (span : Span) : Nat :=
  (span.stop - row.length) - (span.start - row.length)

/-- In a terminal that is more than the reserve wider than the span that has to stay, what is kept
fits beside the reserve, and has grown as far as it can. -/
theorem keptSpan_grown (lines : Lines) {columns : Int} :
    let row := cells lines.source
    let required := requiredSpan row lines
    let room := columns - ellipsisReserve - required.outside row
    (required.stop : Int) - required.start + ellipsisReserve < columns →
      (keptSpan row lines columns).2 = required.outside row ∧
        ((keptSpan row lines columns).1.stop : Int) - (keptSpan row lines columns).1.start ≤ room ∧
        (keptSpan row lines columns).1.Grown row room := by
  intro row required room h
  have hz : isContinuation row 0 = false := isContinuation_cells_zero _
  obtain ⟨hle, hcs, hce⟩ : required.start ≤ required.stop ∧
    isContinuation row required.start = false ∧ isContinuation row required.stop = false :=
    requiredSpan_whole hz lines
  unfold keptSpan
  extract_lets onSource outside reserve target
  have hout : outside = required.outside row := by
    unfold outside onSource Span.outside
    dsimp only
    omega
  have hwidth : (onSource.stop : Int) - onSource.start + outside =
      (required.stop : Int) - required.start := by
    unfold outside onSource
    dsimp only
    omega
  have htarget : target = room := by
    unfold target
    rw [if_pos (by omega)]
    unfold room reserve
    omega
  have hwhole : onSource.Whole row :=
    ⟨isContinuation_min hcs, isContinuation_min hce, Nat.min_le_right _ _⟩
  have horder : onSource.start ≤ onSource.stop := by
    unfold onSource
    dsimp only
    omega
  rw [htarget]
  have hin := hwhole.stop_le
  have hfixed := hwhole.growOnce_grow hz room
    (show onSource.start + (row.length - onSource.stop) < row.length + 1 by omega)
  obtain ⟨hw, hc⟩ := hwhole.grow hz room (row.length + 1)
  refine ⟨hout, Span.width_grow_le (by omega) _, ?_⟩
  exact hw.grown_of_fixed (ofGlyphs_cells _)
    (Nat.le_trans hc.start_le (Nat.le_trans horder hwhole.stop_le)) hfixed

/-! ## Widths -/

/-- The lines of a snippet as they are before trimming: without tabs, with each combining mark on
a glyph of one cell, and with marks only below the source. -/
structure Lines.Expanded (lines : Lines) : Prop where
  source_untabbed : '\t' ∉ lines.source
  source_attached : MarksAttached lines.source
  caret_marks : OnlyMarks lines.caret
  fixit_untabbed : '\t' ∉ lines.fixit.getD []
  fixit_attached : MarksAttached (lines.fixit.getD [])

/-- The lines of a snippet are not wider than a terminal. -/
structure Lines.FitIn (lines : Lines) (columns : Int) : Prop where
  source : displayWidth lines.source ≤ columns
  caret : displayWidth lines.caret ≤ columns
  fixit : displayWidth (lines.fixit.getD []) ≤ columns

/-- What stands for a part that is not shown is at most as wide as the ellipsis. -/
theorem displayWidth_elision_le (ellipsis : Text)
    (plain : ∀ c ∈ ellipsis, c ≠ '\t' ∧ c.toNat < 0x300) (part : Text) :
    '\t' ∉ elision ellipsis part ∧ displayWidth (elision ellipsis part) ≤ ellipsis.length := by
  unfold elision
  split
  · exact ⟨List.not_mem_nil, Int.natCast_nonneg _⟩
  · exact ⟨fun hm ↦ (plain _ hm).1 rfl, Int.le_of_eq (displayWidth_eq_length plain)⟩

namespace Lines.Expanded

variable {columns : Int} (h : lines.Expanded)

include h

private theorem fitIn_of_width_le (hle : (lines.width : Int) ≤ columns) : lines.FitIn columns := by
  have hsource := displayWidth_eq_length_cells h.source_untabbed h.source_attached
  have hcaret := displayWidth_eq_length h.caret_marks.plain
  have hfixit := displayWidth_eq_length_cells h.fixit_untabbed h.fixit_attached
  unfold Lines.width fixitCells at hle
  constructor <;> omega

/-- Lines that are cut to a span are as wide as the span, the columns behind the source and the
ellipses. -/
theorem fitIn_cut {span : Span} {outside : Nat} (keeps : span.Keeps lines)
    (hle : (span.stop : Int) - span.start + outside + ellipsisReserve ≤ columns) :
    (lines.cut span outside).FitIn columns := by
  have horder := keeps.start_le_stop
  have hshift : displayWidth (shift span) ≤ frontEllipsis.length := by
    rw [displayWidth_eq_length (plain_shift span), shift]
    split <;> simp
  have hreserve : (ellipsisReserve : Int) = frontEllipsis.length + backEllipsis.length := rfl
  have huntabbed : '\t' ∉ shift span := fun hm ↦ (plain_shift span _ hm).1 rfl
  refine ⟨?source, ?caret, ?fixit⟩
  case source =>
    obtain ⟨front, kept, behind, -, hk, hkept, excerpt, -⟩ :=
      keeps.exists_excerpt h.source_attached h.fixit_attached outside
    obtain ⟨hfront, hfrontWidth⟩ :=
      displayWidth_elision_le frontEllipsis (plain_of_all (by decide)) front
    obtain ⟨hback, hbackWidth⟩ :=
      displayWidth_elision_le backEllipsis (plain_of_all (by decide)) behind
    have htext : '\t' ∉ kept := by
      intro hm
      apply h.source_untabbed
      rw [excerpt.parts]
      exact List.mem_append_right _ (List.mem_append_left _ hm)
    have hfrontText : '\t' ∉ elision frontEllipsis front ++ kept := by
      rw [List.mem_append, not_or]
      exact ⟨hfront, htext⟩
    rw [excerpt.shown, displayWidth_append hfrontText hback, displayWidth_append hfront htext,
      displayWidth_eq_length_cells htext hkept]
    omega
  case caret =>
    have hslice :
        OnlyMarks (spanText (markCells lines.caret) span.start (span.stop + outside)) := by
      rw [spanText_markCells]
      exact h.caret_marks.of_subset fun mark hm ↦ List.mem_of_mem_take (List.mem_of_mem_drop hm)
    have hlength := congrArg List.length
      (spanText_markCells lines.caret span.start (span.stop + outside))
    rw [List.length_drop, List.length_take] at hlength
    rw [Lines.cut, displayWidth_append huntabbed fun hm ↦ (hslice.plain _ hm).1 rfl,
      displayWidth_eq_length hslice.plain]
    omega
  case fixit =>
    rw [getD_fixit_cut]
    split
    · have hnil : displayWidth [] = 0 := rfl
      omega
    have hstart := keeps.isContinuation_fixitCells
    obtain ⟨hattached, hcells⟩ := cells_spanText h.fixit_attached hstart (span.stop + outside)
    have hslice : '\t' ∉ spanText (fixitCells lines.fixit) span.start (span.stop + outside) := by
      intro hm
      apply h.fixit_untabbed
      rw [← flatten_cells (lines.fixit.getD []),
        flatten_eq_spanText _ (show span.start ≤ span.stop + outside by omega)]
      exact List.mem_append_right _ (List.mem_append_left _ hm)
    -- A wide glyph may go one column beyond the end of the slice.
    have hsize : (cells (spanText (fixitCells lines.fixit) span.start (span.stop + outside))).length
        ≤ span.stop + outside + 1 - span.start := by
      unfold fixitCells
      rw [hcells, List.length_drop, List.length_take]
      split <;> omega
    have hellipsis : backEllipsis.length = 3 := rfl
    rw [displayWidth_append huntabbed hslice, displayWidth_eq_length_cells hslice hattached]
    omega

end Lines.Expanded

/-- If a terminal is more than the reserve wider than the smallest span with all marks and
insertions, the trimmed lines fit, and what is shown of the source has grown word by word until
neither side had a word that fits. -/
theorem trimLines_fit (lines : Lines) (columns : Int) (expanded : lines.Expanded) :
    ∃ required, lines.Requires required ∧
      ((required.stop : Int) - required.start + ellipsisReserve < columns →
        (trimLines lines columns).FitIn columns ∧
          ∃ front kept behind,
            Excerpt lines.source (trimLines lines columns).source front kept behind ∧
            Span.Grown (cells lines.source)
              (columns - ellipsisReserve - required.outside (cells lines.source))
              ⟨(cells front).length, (cells front).length + (cells kept).length⟩) := by
  refine ⟨requiredSpan (cells lines.source) lines, requires_requiredSpan lines, fun h ↦ ?_⟩
  obtain ⟨houtside, hroom, hgrown⟩ := keptSpan_grown lines h
  have keeps := keptSpan_keeps lines columns
  rw [trimLines_eq]
  split
  · next hle =>
    refine ⟨expanded.fitIn_of_width_le hle, [], lines.source, [],
      ⟨by simp, by simp [cells], by simp [elision]⟩, .inl rfl, .inl ?_⟩
    simp [cells]
  · refine ⟨expanded.fitIn_cut keeps (by omega), ?_⟩
    obtain ⟨front, kept, behind, hl, hk, -, excerpt, -⟩ :=
      keeps.exists_excerpt expanded.source_attached expanded.fixit_attached
        (keptSpan (cells lines.source) lines columns).2
    refine ⟨front, kept, behind, excerpt, ?_⟩
    rw [hl, hk]
    exact hgrown

/-- A caret below the first of the two letters of a word. -/
def wordLines : Lines where
  source := "aaaaaaaaaa if bbbbbbbbbbbbbbbbbbbb".toList
  caret := "           ^".toList
  fixit := none

/-- The lines fit, but the other letter of the word is left out although there is room for it. -/
theorem trimLines_wordLines_fit :
    (trimLines wordLines 24).FitIn 24 ∧
      (trimLines wordLines 24).source = "aaaaaaaaaa i...".toList ∧
      FirstWordEnd (cells wordLines.source) 12 13 ∧ (13 : Int) - 0 ≤ 24 - ellipsisReserve := by
  have plain : ∀ c ∈ wordLines.source, c.toNat < 0x300 :=
    fun c hc ↦ (plain_of_all (by decide) c hc).2
  have row : cells wordLines.source = wordLines.source.map fun c ↦ [c] := cells_of_plain plain
  have expanded : wordLines.Expanded :=
    ⟨by decide, .of_plain plain, by decide, by decide, by decide⟩
  have holds : Span.Holds wordLines ⟨11, 12⟩ := by
    refine ⟨by decide, by rw [row]; decide, by rw [row]; decide, ?_, fun hblank ↦ ?_⟩
    · rintro column (⟨mark, hmark, hne⟩ | ⟨cell, hcell, -⟩)
      · have hblank : ∀ other < 11, wordLines.caret[other]? = some ' ' := by decide
        have hlt : column < 12 := (List.getElem?_eq_some_iff.mp hmark).1
        refine ⟨Nat.not_lt.mp fun hfront ↦ hne ?_, hlt⟩
        rw [Option.mem_def, hblank column hfront] at hmark
        cases hmark
        rfl
      · cases hcell
    · exact absurd (hblank caretMark (by decide)) (by decide)
  obtain ⟨required, requires, fits⟩ := trimLines_fit wordLines 24 expanded
  have hcovers := requires.least _ holds
  have hstart := hcovers.start_le
  have hstop := hcovers.le_stop
  have hreserve : (ellipsisReserve : Int) = 8 := rfl
  dsimp only at hstart hstop
  have ends : EndsWord (cells wordLines.source) 13 := by
    rw [row]
    exact ⟨.inr (by decide), by decide, by decide⟩
  exact ⟨(fits (by omega)).1, by decide +kernel,
    ⟨by decide, by rw [row]; decide, .inr ends, fun index h1 h2 ↦ by omega⟩, by decide⟩

end Caret.Snippet
