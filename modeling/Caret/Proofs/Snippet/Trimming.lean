import Caret.Proofs.Snippet.Region
import Caret.Proofs.Text.Runs

/-!
# What trimming keeps

A trimmed source line is one run of whole glyphs of the line, with an ellipsis for each side that
was cut. The marks and the insertions below it are all kept, and each column of the run has the
glyph, the mark and the insertion that it had.
-/

namespace Caret.Snippet

open Text

/-! ## Slices of a row -/

section Slices

variable {row : List Text} {start stop : Nat}

/-- A row put together is its slice between the slices in front and behind. -/
theorem flatten_eq_spanText (row : List Text) (h : start ≤ stop) :
    row.flatten =
      (row.take start).flatten ++ (spanText row start stop ++ (row.drop stop).flatten) := by
  have hfront : (row.take stop).take start = row.take start := by
    rw [List.take_take, Nat.min_eq_left h]
  rw [spanText, ← List.flatten_append, ← List.flatten_append, ← List.append_assoc, ← hfront,
    List.take_append_drop, List.take_append_drop]

private theorem eq_space_of_mem_flatten {part : List Text}
    (h : ∀ cell ∈ part, isBlankCell cell = true) : ∀ c ∈ part.flatten, c = ' ' := by
  intro c hc
  obtain ⟨cell, hcell, hmem⟩ := List.mem_flatten.mp hc
  have hblank := h cell hcell
  simp only [isBlankCell, Bool.or_eq_true, decide_eq_true_eq] at hblank
  rcases hblank with rfl | rfl
  · exact List.mem_singleton.mp hmem
  · cases hmem

/-- A slice that has all cells that show something is the whole text but for blanks around it. -/
theorem withoutBlanks_spanText (h : start ≤ stop)
    (ink : ∀ column, ∀ cell ∈ row[column]?, isBlankCell cell = false →
      start ≤ column ∧ column < stop) :
    withoutBlanks (spanText row start stop) = withoutBlanks row.flatten := by
  rw [flatten_eq_spanText row h, withoutBlanks_append]
  · apply eq_space_of_mem_flatten
    intro cell hcell
    obtain ⟨column, hcolumn⟩ := List.mem_iff_getElem?.mp hcell
    rw [List.getElem?_take] at hcolumn
    split at hcolumn
    · cases hb : isBlankCell cell with
      | true => rfl
      | false =>
        have := ink column cell hcolumn hb
        omega
    · cases hcolumn
  · apply eq_space_of_mem_flatten
    intro cell hcell
    obtain ⟨column, hcolumn⟩ := List.mem_iff_getElem?.mp hcell
    rw [List.getElem?_drop] at hcolumn
    cases hb : isBlankCell cell with
    | true => rfl
    | false =>
      have := ink (stop + column) cell hcolumn hb
      omega

/-- The cells of a slice that starts with a glyph are those of the row; if it ends inside of a wide
glyph, it has the second cell of this glyph as well. -/
theorem cells_spanText {text : Text} (h : MarksAttached text)
    (hs : isContinuation (cells text) start = false) (stop : Nat) :
    MarksAttached (spanText (cells text) start stop) ∧
      cells (spanText (cells text) start stop) =
        ((cells text).take (if isContinuation (cells text) stop then stop + 1 else stop)).drop
          start := by
  have hcell : (cells text)[start]? ≠ some [] := by simpa [isContinuation] using hs
  by_cases hle : start ≤ (cells text).length
  · obtain ⟨front, rest, rfl, hl, hrest, hrow⟩ := exists_append_cells h hle hcell
    obtain ⟨shown, hidden, rfl, hshown, hcells⟩ := exists_flatten_take_cells hrest (stop - start)
    have hdrop : (cells (front ++ (shown ++ hidden))).drop start = cells (shown ++ hidden) := by
      rw [hrow, ← hl, List.drop_left]
    have htext : spanText (cells (front ++ (shown ++ hidden))) start stop = shown := by
      rw [spanText, List.drop_take, hdrop, hshown]
    rw [htext, hcells, List.drop_take, hdrop]
    refine ⟨hrest.left, ?_⟩
    by_cases hin : start ≤ stop
    · rw [isContinuation, hrow, List.getElem?_append_right (by omega), hl]
      by_cases hnil : (cells (shown ++ hidden))[stop - start]? = some []
      · rw [if_pos hnil, if_pos (by simpa using hnil), Nat.sub_add_comm hin]
      · rw [if_neg hnil, if_neg (by simpa using hnil)]
    · -- A slice whose ends are not in order is empty.
      have hfirst := getElem?_cells_zero_ne (shown ++ hidden)
      rw [Nat.sub_eq_zero_of_le (by omega), if_neg hfirst]
      split
      · rw [Nat.sub_eq_zero_of_le (by omega)]
      · rw [Nat.sub_eq_zero_of_le (by omega)]
  · have hnone (count : Nat) : ((cells text).take count).drop start = [] :=
      List.drop_eq_nil_of_le (by rw [List.length_take]; omega)
    rw [spanText, hnone, hnone]
    exact ⟨⟨by simp, .nil⟩, rfl⟩

private theorem getElem?_cells_spanText {text : Text} (h : MarksAttached text)
    (hs : isContinuation (cells text) start = false) {offset : Nat} (hlt : start + offset < stop) :
    (cells (spanText (cells text) start stop))[offset]? = (cells text)[start + offset]? := by
  rw [(cells_spanText h hs stop).2, List.getElem?_drop, List.getElem?_take_of_lt]
  split <;> omega

end Slices

/-! ## Trimmed lines -/

/-- The columns that the lines of a snippet take. -/
def Lines.width (lines : Lines) : Nat :=
  max (cells lines.source).length (max lines.caret.length (fixitCells lines.fixit).length)

/-- What stands below an ellipsis in front. -/
def shift (span : Span) : Text := if 0 < span.start then blanks frontEllipsis.length else []

/-- The lines of a snippet cut to a span of the source, and as many columns behind the source as
have to stay. -/
def Lines.cut (lines : Lines) (span : Span) (outside : Nat) : Lines where
  source :=
    (if 0 < span.start then frontEllipsis else []) ++
      spanText (cells lines.source) span.start span.stop ++
      (if span.stop < (cells lines.source).length then backEllipsis else [])
  caret := shift span ++ spanText (markCells lines.caret) span.start (span.stop + outside)
  fixit :=
    if fixitCells lines.fixit = [] then none
    else some (shift span ++ spanText (fixitCells lines.fixit) span.start (span.stop + outside))

/-- What stands below an ellipsis is blank. -/
theorem space_of_mem_shift (span : Span) : ∀ c ∈ shift span, c = ' ' := by
  intro c hc
  rw [shift] at hc
  split at hc
  · exact List.eq_of_mem_replicate hc
  · cases hc

/-- What stands below an ellipsis is plain. -/
theorem plain_shift (span : Span) : ∀ c ∈ shift span, c ≠ '\t' ∧ c.toNat < 0x300 := by
  intro c hc
  rw [space_of_mem_shift span c hc]
  decide

/-- The cells of marks put together are the marks. -/
theorem flatten_markCells (caret : Text) : (markCells caret).flatten = caret := by
  rw [markCells, ← List.flatMap_def, List.flatMap_singleton']

/-- A slice of marks has the marks at its columns. -/
theorem spanText_markCells (caret : Text) (start stop : Nat) :
    spanText (markCells caret) start stop = (caret.take stop).drop start := by
  rw [spanText, markCells, ← List.map_take, ← List.map_drop]
  exact flatten_markCells _

/-- The text of an insertion line that is cut. -/
theorem getD_fixit_cut (lines : Lines) (span : Span) (outside : Nat) :
    (lines.cut span outside).fixit.getD [] =
      if fixitCells lines.fixit = [] then []
      else shift span ++ spanText (fixitCells lines.fixit) span.start (span.stop + outside) := by
  rw [Lines.cut]
  dsimp only
  split <;> rfl

/-- Lines that are too wide are cut to the span that is kept. -/
theorem trimLines_eq (lines : Lines) (columns : Int) :
    trimLines lines columns =
      if (lines.width : Int) ≤ columns then lines
      else lines.cut (keptSpan (cells lines.source) lines columns).1
        (keptSpan (cells lines.source) lines columns).2 := by
  unfold trimLines Lines.cut
  simp only [spanText_markCells]
  rfl

/-- A span that can be cut out of the lines: it is in whole glyphs of the source, and no mark or
insertion stands in front of it. -/
structure Span.Keeps (lines : Lines) (span : Span) : Prop where
  whole : span.Whole (cells lines.source)
  start_le_stop : span.start ≤ span.stop
  start_le : ∀ column, lines.IsInked column → span.start ≤ column

/-- The span that trimming keeps can be cut out. -/
theorem keptSpan_keeps (lines : Lines) (columns : Int) :
    (keptSpan (cells lines.source) lines columns).1.Keeps lines := by
  have hz := isContinuation_cells_zero lines.source
  obtain ⟨hw, hc⟩ := keptSpan_whole hz lines columns
  have hreq := (requiredSpan_whole hz lines).1
  have h1 := hc.start_le
  have h2 := hc.le_stop
  dsimp only at h1 h2
  refine ⟨hw, by omega, fun column hcolumn ↦ ?_⟩
  have hfirst := (mem_requiredSpan (cells lines.source) hcolumn).1
  omega

/-- A line shows one run of whole glyphs of a source line; what is cut in front of the run and
behind it is replaced by an ellipsis each. -/
structure Excerpt (source shown front kept behind : Text) : Prop where
  parts : source = front ++ (kept ++ behind)
  glyphs : cells source = cells front ++ (cells kept ++ cells behind)
  shown : shown = elision frontEllipsis front ++ kept ++ elision backEllipsis behind

/-- Each column of the run that is shown has the glyph, the mark and the insertion that it had;
all three are moved as far as the run. -/
def KeepsColumns (lines out : Lines) (front kept : Text) : Prop :=
  ∀ offset < (cells kept).length,
    let old := (cells front).length + offset
    let new := (elision frontEllipsis front).length + offset
    (cells out.source)[new]? = (cells lines.source)[old]? ∧
      out.caret[new]? = lines.caret[old]? ∧
      (fixitCells out.fixit)[new]? = (fixitCells lines.fixit)[old]?

namespace Span.Keeps

variable {lines : Lines} {span : Span} {outside : Nat} (h : span.Keeps lines)

include h

private theorem exists_parts (hm : MarksAttached lines.source) :
    ∃ front kept behind, lines.source = front ++ (kept ++ behind) ∧
      cells lines.source = cells front ++ (cells kept ++ cells behind) ∧ MarksAttached kept ∧
      (cells front).length = span.start ∧ span.start + (cells kept).length = span.stop ∧
      span.stop + (cells behind).length = (cells lines.source).length ∧
      spanText (cells lines.source) span.start span.stop = kept := by
  have hle := h.whole.stop_le
  have horder := h.start_le_stop
  have hs : (cells lines.source)[span.start]? ≠ some [] := by
    simpa [isContinuation] using h.whole.start
  obtain ⟨front, rest, htext, hl, hrest, hrow⟩ := exists_append_cells hm (by omega) hs
  have hlength := congrArg List.length hrow
  rw [List.length_append] at hlength
  have he : (cells rest)[span.stop - span.start]? ≠ some [] := by
    have := h.whole.stop
    rwa [isContinuation, hrow, List.getElem?_append_right (by omega), hl, beq_eq_false_iff_ne]
      at this
  obtain ⟨kept, behind, rfl, hk, -, hrow'⟩ := exists_append_cells hrest (by omega) he
  have hlength' := congrArg List.length hrow'
  rw [List.length_append] at hlength'
  refine ⟨front, kept, behind, htext, by rw [hrow, hrow'], hrest.left, hl, by omega, by omega, ?_⟩
  rw [spanText, List.drop_take, hrow, ← hl, List.drop_left, hrow', hl, ← hk, List.take_left,
    flatten_cells]

/-- No glyph of the insertion is cut at the start of the span. -/
theorem isContinuation_fixitCells : isContinuation (fixitCells lines.fixit) span.start = false := by
  apply beq_false_of_ne
  intro hnil
  cases hs : span.start with
  | zero =>
    rw [hs] at hnil
    exact getElem?_cells_zero_ne _ hnil
  | succ before =>
    rw [hs] at hnil
    obtain ⟨cell, hcell, hb⟩ := exists_cell_before_nil hnil
    have := h.start_le before (.inr ⟨cell, hcell, hb⟩)
    omega

private theorem withoutBlanks_caret
    (last : ∀ column, lines.IsInked column → column < span.stop + outside) :
    withoutBlanks (lines.cut span outside).caret = withoutBlanks lines.caret := by
  have hblank := withoutBlanks_append_left
    (spanText (markCells lines.caret) span.start (span.stop + outside)) (space_of_mem_shift span)
  have horder := h.start_le_stop
  rw [Lines.cut, hblank, withoutBlanks_spanText (by omega), flatten_markCells]
  intro column cell hcell hb
  rw [markCells, List.getElem?_map, Option.mem_def, Option.map_eq_some_iff] at hcell
  obtain ⟨mark, hmark, rfl⟩ := hcell
  have hinked : lines.IsInked column := by
    refine .inl ⟨mark, hmark, ?_⟩
    rintro rfl
    cases hb
  exact ⟨h.start_le column hinked, last column hinked⟩

private theorem withoutBlanks_fixit
    (last : ∀ column, lines.IsInked column → column < span.stop + outside) :
    withoutBlanks ((lines.cut span outside).fixit.getD []) =
      withoutBlanks (lines.fixit.getD []) := by
  have hblank := withoutBlanks_append_left
    (spanText (fixitCells lines.fixit) span.start (span.stop + outside)) (space_of_mem_shift span)
  have horder := h.start_le_stop
  have htext : (fixitCells lines.fixit).flatten = lines.fixit.getD [] := flatten_cells _
  rw [← htext, getD_fixit_cut]
  split
  · next hnone => rw [hnone]; rfl
  · rw [hblank, withoutBlanks_spanText (by omega)]
    intro column cell hcell hb
    exact ⟨h.start_le column (.inr ⟨cell, hcell, hb⟩), last column (.inr ⟨cell, hcell, hb⟩)⟩

/-- Cutting shows one run of the source, and moves what stands below with it. -/
theorem exists_excerpt (hm : MarksAttached lines.source)
    (hf : MarksAttached (lines.fixit.getD [])) (outside : Nat) :
    ∃ front kept behind, (cells front).length = span.start ∧
      span.start + (cells kept).length = span.stop ∧ MarksAttached kept ∧
      Excerpt lines.source (lines.cut span outside).source front kept behind ∧
        KeepsColumns lines (lines.cut span outside) front kept := by
  obtain ⟨front, kept, behind, hsource, hrow, hkept, hl, hk, hb, htext⟩ := h.exists_parts hm
  have hshown : (lines.cut span outside).source =
      elision frontEllipsis front ++ kept ++ elision backEllipsis behind := by
    rw [Lines.cut, htext, elision_eq_ite_cells, elision_eq_ite_cells, hl]
    simp only [show span.stop < (cells lines.source).length ↔ 0 < (cells behind).length by omega]
  have hmoved : (elision frontEllipsis front).length = (shift span).length := by
    rw [elision_eq_ite_cells, hl, shift]
    split <;> simp
  refine ⟨front, kept, behind, hl, hk, hkept, ⟨hsource, hrow, hshown⟩, ?_⟩
  intro offset hoffset
  dsimp only
  refine ⟨?source, ?caret, ?fixit⟩
  case source =>
    have hback : ∀ c ∈ (elision backEllipsis behind).head?, charWidth c ≠ 0 := by
      unfold elision
      split
      · simp
      · intro c hc
        cases hc
        rw [charWidth_of_lt (by decide)]
        decide
    have hplain := plain_elision front
    have hsize : (cells (elision frontEllipsis front ++ kept)).length =
        (elision frontEllipsis front).length + (cells kept).length := by
      rw [cells_append _ hkept.start, List.length_append,
        cells_of_plain fun c hc ↦ (hplain c hc).2, List.length_map]
    rw [hshown, cells_append _ hback, List.getElem?_append_left (by omega),
      getElem?_cells_plain_append hplain hkept.start, hrow, List.getElem?_append_right (by omega),
      Nat.add_sub_cancel_left, List.getElem?_append_left hoffset]
  case caret =>
    rw [Lines.cut, hmoved, hl, spanText_markCells,
      List.getElem?_append_right (Nat.le_add_right _ _), Nat.add_sub_cancel_left,
      List.getElem?_drop, List.getElem?_take_of_lt (by omega)]
  case fixit =>
    have hstart := h.isContinuation_fixitCells
    rw [fixitCells, getD_fixit_cut, hmoved, hl]
    split
    · next hnone => rw [hnone]; rfl
    · exact (getElem?_cells_plain_append (plain_shift span) (cells_spanText hf hstart _).1.start
        offset).trans (getElem?_cells_spanText hf hstart (by omega))

end Span.Keeps

/-- Trimming loses no mark and no insertion, shows one run of whole glyphs of the source with an
ellipsis exactly at the sides that were cut, and moves the marks and the insertions below the run
as far as the run. -/
theorem trimLines_keeps_marks_aligned (lines : Lines) (columns : Int)
    (sourceMarks : MarksAttached lines.source)
    (fixitMarks : MarksAttached (lines.fixit.getD []))
    (reach : (∃ column, lines.IsInked column) →
      ∃ first ≤ (cells lines.source).length, lines.IsInked first) :
    let out := trimLines lines columns
    withoutBlanks out.caret = withoutBlanks lines.caret ∧
      withoutBlanks (out.fixit.getD []) = withoutBlanks (lines.fixit.getD []) ∧
      ∃ front kept behind, Excerpt lines.source out.source front kept behind ∧
        KeepsColumns lines out front kept := by
  intro out
  have hout : out = _ := trimLines_eq lines columns
  rw [hout]
  split
  · refine ⟨rfl, rfl, [], lines.source, [], ⟨by simp, by simp [cells], by simp [elision]⟩, ?_⟩
    intro offset _
    simp [elision, cells]
  · have keeps := keptSpan_keeps lines columns
    have last (column : Nat) (hcolumn : lines.IsInked column) :
        column < (keptSpan (cells lines.source) lines columns).1.stop +
          (keptSpan (cells lines.source) lines columns).2 := by
      obtain ⟨first, hle, hfirst⟩ := reach ⟨column, hcolumn⟩
      exact (keptSpan_bounds (isContinuation_cells_zero _) columns hfirst hle hcolumn).2.2
    obtain ⟨front, kept, behind, -, -, -, excerpt, columns⟩ :=
      keeps.exists_excerpt sourceMarks fixitMarks _
    exact ⟨keeps.withoutBlanks_caret last, keeps.withoutBlanks_fixit last, front, kept, behind,
      excerpt, columns⟩

/-- Lines whose marks and insertion stand below a wide glyph and a glyph with a combining mark. -/
def wideLines : Lines where
  source := "alpha beta 界e\u0301mma delta epsilon".toList
  caret := "           ~^~".toList
  fixit := some "           界x".toList

/-- The run that starts one word in front of a wide glyph. -/
theorem trimLines_wideLines_aligned :
    (trimLines wideLines 16).source = "  ...beta 界e\u0301...".toList ∧
      withoutBlanks (trimLines wideLines 16).caret = "~^~".toList ∧
      ∃ front kept behind,
        Excerpt wideLines.source (trimLines wideLines 16).source front kept behind ∧
          KeepsColumns wideLines (trimLines wideLines 16) front kept := by
  have first : wideLines.IsInked 11 := .inl ⟨'~', by decide, by decide⟩
  obtain ⟨hcaret, -, hrun⟩ := trimLines_keeps_marks_aligned wideLines 16
    (by decide +kernel) (by decide +kernel) fun _ ↦ ⟨11, by decide +kernel, first⟩
  exact ⟨by decide +kernel, hcaret.trans (by decide +kernel), hrun⟩

end Caret.Snippet
