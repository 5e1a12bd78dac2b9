import Caret.Proofs.Text.Annotation
import Caret.Proofs.Text.Runs
import Caret.Text.Annotation
import Caret.Snippet.Region

/-!
# The region that is kept

Growing a region moves its ends outwards from glyph to glyph, so that a trimmed line never shows
half of a wide glyph and never loses a mark. What is left of a line is a part of it between what
is hidden in front and what is cut behind, each replaced by its ellipsis.
-/

namespace Caret.Snippet

open Text

/-! ## Ends of glyphs -/

private theorem isContinuation_of_le {row : List Text} {index : Nat} (h : row.length ≤ index) :
    isContinuation row index = false := by
  rw [isContinuation, List.getElem?_eq_none h]
  rfl

/-- The row of a text starts with a glyph. -/
theorem isContinuation_cells_zero (text : Text) : isContinuation (cells text) 0 = false :=
  beq_false_of_ne (getElem?_cells_zero_ne text)

variable {row : List Text}

/-- The glyph in front of a cell starts where no other goes on. -/
theorem isContinuation_previousGlyph (h : isContinuation row 0 = false) (index : Nat) :
    isContinuation row (previousGlyph row index) = false := by
  induction index with
  | zero => exact h
  | succ index ih =>
    rw [previousGlyph]
    split
    · exact ih
    · next hc =>
      by_cases hz : index = 0
      · rw [hz]
        exact h
      · simpa [Nat.pos_of_ne_zero hz] using hc

/-- The search for a glyph that is no blank goes back. -/
theorem skipSpacesBack_le (bound index : Nat) :
    skipSpacesBack row bound index ≤ index := by
  induction bound generalizing index with
  | zero => exact Nat.le_refl index
  | succ bound ih =>
    rw [skipSpacesBack]
    split
    · have := previousGlyph_le row index
      exact Nat.le_trans (ih _) (by omega)
    · exact Nat.le_refl index

private theorem isContinuation_skipSpacesBack (h : isContinuation row 0 = false)
    (bound : Nat) {index : Nat} (hi : isContinuation row index = false) :
    isContinuation row (skipSpacesBack row bound index) = false := by
  induction bound generalizing index with
  | zero => exact hi
  | succ bound ih =>
    rw [skipSpacesBack]
    split
    · exact ih (isContinuation_previousGlyph h index)
    · exact hi

/-- A word starts at or in front of each of its glyphs. -/
theorem wordStart_le (row : List Text) (bound index : Nat) : wordStart row bound index ≤ index := by
  induction bound generalizing index with
  | zero => exact Nat.le_refl index
  | succ bound ih =>
    have := previousGlyph_le row index
    simp only [wordStart]
    split
    · exact Nat.le_refl index
    · split
      · exact Nat.le_refl index
      · exact Nat.le_trans (ih _) (by omega)

private theorem isContinuation_wordStart (h : isContinuation row 0 = false)
    (bound : Nat) {index : Nat} (hi : isContinuation row index = false) :
    isContinuation row (wordStart row bound index) = false := by
  induction bound generalizing index with
  | zero => exact hi
  | succ bound ih =>
    simp only [wordStart]
    split
    · exact hi
    · split
      · exact hi
      · exact ih (isContinuation_previousGlyph h index)

private theorem extendLeft_le (start : Nat) : extendLeft row start ≤ start :=
  Nat.le_trans (wordStart_le _ _ _)
    (Nat.le_trans (skipSpacesBack_le _ _)
      (Nat.le_trans (previousGlyph_le row start) (Nat.sub_le start 1)))

private theorem isContinuation_extendLeft (h : isContinuation row 0 = false) (start : Nat) :
    isContinuation row (extendLeft row start) = false :=
  isContinuation_wordStart h _
    (isContinuation_skipSpacesBack h _ (isContinuation_previousGlyph h start))

/-- Behind the empty cells from a place on, no glyph goes on. -/
theorem isContinuation_add_runLength (index : Nat) :
    isContinuation row (index + runLength row (· = []) index) = false := by
  apply beq_false_of_ne
  intro h
  rw [runLength, ← List.getElem?_drop] at h
  have := getElem?_length_takeWhile h
  simp at this

private theorem add_runLength_le {index : Nat} (h : index ≤ row.length) (test : Text → Bool) :
    index + runLength row test index ≤ row.length := by
  have := (List.takeWhile_sublist (l := row.drop index) test).length_le
  rw [List.length_drop] at this
  rw [runLength]
  omega

/-- The glyph behind a cell starts behind it. -/
theorem lt_nextGlyph (row : List Text) (index : Nat) : index < nextGlyph row index :=
  Nat.lt_of_lt_of_le (Nat.lt_succ_self index) (Nat.le_add_right _ _)

/-- The glyph behind a cell starts where no other goes on. -/
theorem isContinuation_nextGlyph (index : Nat) :
    isContinuation row (nextGlyph row index) = false :=
  isContinuation_add_runLength (index + 1)

/-- The glyph behind a cell of the row starts in the row or at its end. -/
theorem nextGlyph_le {index : Nat} (h : index < row.length) :
    nextGlyph row index ≤ row.length :=
  add_runLength_le h _

/-- The search for the end of a run goes ahead, from glyph to glyph, in the row. -/
theorem skipRight_bounds (test : Nat → Bool) (bound : Nat) {index : Nat}
    (hi : isContinuation row index = false) (hle : index ≤ row.length) :
    index ≤ skipRight row test bound index ∧ skipRight row test bound index ≤ row.length ∧
      isContinuation row (skipRight row test bound index) = false := by
  induction bound generalizing index with
  | zero => exact ⟨Nat.le_refl index, hle, hi⟩
  | succ bound ih =>
    rw [skipRight]
    split
    · next hc =>
      have hlt : index < row.length := by simpa using (Bool.and_eq_true_iff.mp hc).1
      obtain ⟨hge, hle', hcell⟩ := ih (isContinuation_nextGlyph index) (nextGlyph_le hlt)
      exact ⟨Nat.le_trans (Nat.le_of_lt (lt_nextGlyph row index)) hge, hle', hcell⟩
    · exact ⟨Nat.le_refl index, hle, hi⟩

/-- The word behind a cell ends behind the glyph there, with a glyph of the row. -/
theorem extendRight_bounds {stop : Nat} (h : stop < row.length) :
    nextGlyph row stop ≤ extendRight row stop ∧ extendRight row stop ≤ row.length ∧
      isContinuation row (extendRight row stop) = false := by
  obtain ⟨hge, hle, hskip⟩ :=
    skipRight_bounds (isSpaceCell row) row.length (isContinuation_nextGlyph stop) (nextGlyph_le h)
  obtain ⟨hge', hle', hend⟩ :=
    skipRight_bounds (!isSpaceCell row ·) row.length hskip hle
  exact ⟨Nat.le_trans hge hge', hle', hend⟩

/-! ## Growth -/

/-- The span lies in the row and neither end is inside of a glyph. -/
structure Span.Whole (row : List Text) (span : Span) : Prop where
  start : isContinuation row span.start = false
  stop : isContinuation row span.stop = false
  stop_le : span.stop ≤ row.length

/-- The one span reaches at least as far as the other to both sides. -/
structure Span.Covers (outer inner : Span) : Prop where
  start_le : outer.start ≤ inner.start
  le_stop : inner.stop ≤ outer.stop

/-- A round of growth keeps whole glyphs and takes nothing back. -/
theorem Span.Whole.growOnce {span : Span} (h : span.Whole row)
    (hz : isContinuation row 0 = false) (target : Int) :
    (span.growOnce row target).Whole row ∧ (span.growOnce row target).Covers span := by
  unfold Span.growOnce
  extract_lets left grown right
  have hgrown : grown.Whole row ∧ grown.Covers span := by
    unfold grown
    split
    · exact ⟨⟨isContinuation_extendLeft hz span.start, h.stop, h.stop_le⟩,
        ⟨extendLeft_le span.start, Nat.le_refl _⟩⟩
    · exact ⟨h, Nat.le_refl _, Nat.le_refl _⟩
  obtain ⟨hw, hc⟩ := hgrown
  split
  · next hr =>
    obtain ⟨hge, hle, hcell⟩ := extendRight_bounds hr.1
    have hnext := lt_nextGlyph row grown.stop
    have hstop := hc.le_stop
    exact ⟨⟨hw.start, hcell, hle⟩, hc.start_le, by dsimp only; omega⟩
  · exact ⟨hw, hc⟩

/-- Growth keeps whole glyphs and takes nothing back. -/
theorem Span.Whole.grow {span : Span} (h : span.Whole row)
    (hz : isContinuation row 0 = false) (target : Int) (bound : Nat) :
    (span.grow row target bound).Whole row ∧ (span.grow row target bound).Covers span := by
  induction bound generalizing span with
  | zero => exact ⟨h, Nat.le_refl _, Nat.le_refl _⟩
  | succ bound ih =>
    obtain ⟨hw, hc⟩ := h.growOnce hz target
    simp only [Span.grow]
    split
    · exact ⟨h, Nat.le_refl _, Nat.le_refl _⟩
    · obtain ⟨hw', hc'⟩ := ih hw
      exact ⟨hw', Nat.le_trans hc'.start_le hc.start_le, Nat.le_trans hc.le_stop hc'.le_stop⟩

/-! ## What has to stay -/

/-- A cell that shows something lies in the span of ink. -/
theorem mem_inkOf {index : Nat} {cell : Text} (h : row[index]? = some cell)
    (hc : isBlankCell cell = false) : (inkOf row).start ≤ index ∧ index < (inkOf row).stop := by
  have hi : index < row.length := (List.getElem?_eq_some_iff.mp h).1
  have hrev : row.reverse[row.length - 1 - index]? = some cell := by
    rw [List.getElem?_reverse (by omega), show row.length - 1 - (row.length - 1 - index) = index
      by omega, h]
  have hfirst := length_takeWhile_le_of_getElem? h hc
  have hlast := length_takeWhile_le_of_getElem? hrev hc
  simp only [inkOf, inkSpan]
  omega

private theorem inkOf_start_le_stop (row : List Text) : (inkOf row).start ≤ (inkOf row).stop := by
  have := (List.takeWhile_sublist (l := row) isBlankCell).length_le
  simp only [inkOf, inkSpan]
  omega

/-- A column that shows a mark or a glyph of an insertion. -/
def Lines.IsInked (lines : Lines) (column : Nat) : Prop :=
  (∃ mark ∈ lines.caret[column]?, mark ≠ ' ') ∨
    ∃ cell ∈ (fixitCells lines.fixit)[column]?, isBlankCell cell = false

/-- A span is widened to whole glyphs. -/
theorem wholeGlyphs_bounds (row : List Text) (span : Span) :
    (span.wholeGlyphs row).start ≤ span.start ∧ span.stop ≤ (span.wholeGlyphs row).stop := by
  have := previousGlyph_le row span.start
  refine ⟨?_, Nat.le_add_right _ _⟩
  unfold Span.wholeGlyphs
  split
  · dsimp only
    omega
  · exact Nat.le_refl _

/-- The ends of the span that has to stay are in order, and neither is inside of a glyph. -/
theorem requiredSpan_whole (hz : isContinuation row 0 = false) (lines : Lines) :
    (requiredSpan row lines).start ≤ (requiredSpan row lines).stop ∧
      isContinuation row (requiredSpan row lines).start = false ∧
      isContinuation row (requiredSpan row lines).stop = false := by
  unfold requiredSpan
  extract_lets marks insertions both
  have hmarks : marks.start ≤ marks.stop := inkOf_start_le_stop _
  have hboth : both.start ≤ both.stop := by
    unfold both
    split
    · simp only [Span.union]
      omega
    · exact hmarks
  obtain ⟨hstart, hstop⟩ := wholeGlyphs_bounds row both
  refine ⟨by omega, ?_, isContinuation_add_runLength both.stop⟩
  simp only [Span.wholeGlyphs]
  split
  · exact isContinuation_previousGlyph hz both.start
  · next hc => simpa using hc

/-- The span that has to stay holds every mark and every insertion. -/
theorem mem_requiredSpan (row : List Text) {lines : Lines} {column : Nat}
    (h : lines.IsInked column) :
    (requiredSpan row lines).start ≤ column ∧ column < (requiredSpan row lines).stop := by
  unfold requiredSpan
  extract_lets marks insertions both
  have hboth : both.start ≤ column ∧ column < both.stop := by
    rcases h with ⟨mark, hm, hb⟩ | ⟨cell, hc, hb⟩
    · have hcell : (markCells lines.caret)[column]? = some [mark] := by
        rw [markCells, List.getElem?_map, hm]
        rfl
      have hmarks : marks.start ≤ column ∧ column < marks.stop :=
        mem_inkOf hcell (by simp [isBlankCell, hb])
      unfold both
      split
      · simp only [Span.union]
        omega
      · exact hmarks
    · have hinsertions : insertions.start ≤ column ∧ column < insertions.stop := mem_inkOf hc hb
      unfold both
      rw [if_pos (by omega)]
      simp only [Span.union]
      omega
  obtain ⟨hstart, hstop⟩ := wholeGlyphs_bounds row both
  omega

/-- The part of a place in the row is not inside of a glyph if the place is not. -/
theorem isContinuation_min {index : Nat} (h : isContinuation row index = false) :
    isContinuation row (min index row.length) = false := by
  by_cases hle : index ≤ row.length
  · rw [Nat.min_eq_left hle, h]
  · rw [Nat.min_eq_right (by omega), isContinuation_of_le (Nat.le_refl _)]

/-- What is kept of a row is whole, and covers what has to stay of the row. -/
theorem keptSpan_whole (hz : isContinuation row 0 = false) (lines : Lines) (columns : Int) :
    (keptSpan row lines columns).1.Whole row ∧
      (keptSpan row lines columns).1.Covers
        ⟨min (requiredSpan row lines).start row.length,
          min (requiredSpan row lines).stop row.length⟩ := by
  obtain ⟨-, hcs, hce⟩ := requiredSpan_whole hz lines
  unfold keptSpan
  extract_lets required onSource outside reserve target
  have hwhole : onSource.Whole row :=
    ⟨isContinuation_min hcs, isContinuation_min hce, Nat.min_le_right _ _⟩
  exact hwhole.grow hz target (row.length + 1)

/-- If a mark or an insertion stands below the row or directly behind it, every column that shows
one stays. -/
theorem keptSpan_bounds (hz : isContinuation row 0 = false) {lines : Lines} (columns : Int)
    {first column : Nat} (hfirst : lines.IsInked first) (hle : first ≤ row.length)
    (h : lines.IsInked column) :
    (keptSpan row lines columns).1.start ≤ column ∧
      min (column + 1) row.length ≤ (keptSpan row lines columns).1.stop ∧
      column < (keptSpan row lines columns).1.stop + (keptSpan row lines columns).2 := by
  obtain ⟨-, hc⟩ := keptSpan_whole hz lines columns
  obtain ⟨hstart, hstop⟩ := mem_requiredSpan row hfirst
  obtain ⟨hstart', hstop'⟩ := mem_requiredSpan row h
  have houtside : (keptSpan row lines columns).2 =
      ((requiredSpan row lines).stop - (requiredSpan row lines).start) -
        (min (requiredSpan row lines).stop row.length -
          min (requiredSpan row lines).start row.length) := rfl
  have h1 := hc.start_le
  have h2 := hc.le_stop
  dsimp only at h1 h2
  omega

/-! ## What is shown -/

/-- What stands for a part of a line that is not shown. -/
def elision (ellipsis part : Text) : Text := if part = [] then [] else ellipsis

/-- A part of a line is replaced if it has cells. -/
theorem elision_eq_ite_cells (ellipsis part : Text) :
    elision ellipsis part = if 0 < (cells part).length then ellipsis else [] := by
  simp only [elision, ← length_cells_eq_zero_iff]
  split
  · rw [if_neg (by omega)]
  · rw [if_pos (by omega)]

/-- A whole span that holds the end of the text in front of a place shows a last part of this
text and a first part of the text behind the place. -/
theorem Span.Whole.spanText_append {front behind : Text} {span : Span}
    (hfront : MarksAttached front) (hbehind : MarksAttached behind)
    (hrow : cells (front ++ behind) = cells front ++ cells behind)
    (h : span.Whole (cells (front ++ behind))) (hstart : span.start ≤ (cells front).length)
    (hstop : (cells front).length ≤ span.stop) :
    ∃ hidden shown rest cut, front = hidden ++ shown ∧ behind = rest ++ cut ∧
      MarksAttached shown ∧ (cells hidden).length = span.start ∧
      span.start + (cells shown).length = (cells front).length ∧
      (cells rest).length = span.stop - (cells front).length ∧
      (cells cut).length = (cells (front ++ behind)).length - span.stop ∧
      spanText (cells (front ++ behind)) span.start span.stop = shown ++ rest := by
  have hle := h.stop_le
  have hcs := h.start
  have hce := h.stop
  rw [hrow] at hle hcs hce
  rw [List.length_append] at hle
  have hs : (cells front)[span.start]? ≠ some [] := by
    intro e
    have hlt := (List.getElem?_eq_some_iff.mp e).1
    rw [isContinuation, List.getElem?_append_left hlt, e] at hcs
    cases hcs
  have he : (cells behind)[span.stop - (cells front).length]? ≠ some [] := by
    intro e
    rw [isContinuation, List.getElem?_append_right hstop, e] at hce
    cases hce
  obtain ⟨hidden, shown, rfl, hh, hshown, hcf⟩ := exists_append_cells hfront hstart hs
  obtain ⟨rest, cut, rfl, hr, -, hcb⟩ := exists_append_cells hbehind (by omega) he
  have hlf := congrArg List.length hcf
  have hlb := congrArg List.length hcb
  rw [List.length_append] at hlf hlb
  refine ⟨hidden, shown, rest, cut, rfl, rfl, hshown, hh, by omega, hr, ?_, ?_⟩
  · rw [hrow, List.length_append]
    omega
  · rw [spanText, hrow, List.take_append, List.take_of_length_le (by omega), hcb, ← hr,
      List.take_left, hcf, List.append_assoc, ← hh, List.drop_left, List.flatten_append,
      flatten_cells, flatten_cells]

/-- A source line shows a line whose text is `front` in front of a place and `behind` behind it,
in full or in part with an ellipsis for each part that is not shown, and the mark line under it
has a caret at the cell of the place. Of a place on the line, the glyph there is shown; a place
behind the line is the end of the source line. -/
def HasCaretCell (front behind source marks : Text) : Prop :=
  ∃ hidden shown rest cut, front = hidden ++ shown ∧ behind = rest ++ cut ∧
    (rest = [] → cut = []) ∧
    source = elision frontEllipsis hidden ++ shown ++ rest ++ elision backEllipsis cut ∧
    marks[(displayWidth (elision frontEllipsis hidden ++ shown)).toNat]? = some caretMark

/-- The ellipsis in front is plain. -/
theorem plain_elision (hidden : Text) :
    ∀ c ∈ elision frontEllipsis hidden, c ≠ '\t' ∧ c.toNat < 0x300 := by
  unfold elision
  split
  · exact List.forall_mem_nil _
  · exact plain_of_all (by decide)

private theorem displayWidth_elision_append {hidden shown : Text} (ht : '\t' ∉ shown)
    (h : MarksAttached shown) :
    displayWidth (elision frontEllipsis hidden ++ shown) =
      (elision frontEllipsis hidden).length + (cells shown).length := by
  have he := plain_elision hidden
  rw [displayWidth_append (fun hm ↦ (he _ hm).1 rfl) ht, displayWidth_eq_length he,
    displayWidth_eq_length_cells ht h]

variable {front behind : Text} {lines : Lines}

/-- A line that is shown in full has its caret where the place is. -/
theorem hasCaretCell_of_untrimmed (ht : '\t' ∉ front) (hfront : MarksAttached front)
    (hcaret : lines.caret[(cells front).length]? = some caretMark) :
    HasCaretCell front behind (front ++ behind) lines.caret := by
  refine ⟨[], front, behind, [], rfl, by simp, by simp, by simp [elision], ?_⟩
  rw [displayWidth_elision_append ht hfront]
  simpa [elision] using hcaret

/-- Trimming shifts the caret with the glyph above it. -/
theorem hasCaretCell_trimLines (ht : '\t' ∉ front) (hfront : MarksAttached front)
    (hbehind : MarksAttached behind)
    (hrow : cells (front ++ behind) = cells front ++ cells behind)
    (hsource : lines.source = front ++ behind)
    (hcaret : lines.caret[(cells front).length]? = some caretMark) (columns : Int) :
    HasCaretCell front behind (trimLines lines columns).source (trimLines lines columns).caret := by
  unfold trimLines
  extract_lets row width
  split
  · rw [hsource]
    exact hasCaretCell_of_untrimmed ht hfront hcaret
  have hr : row = cells (front ++ behind) := by rw [← hsource]
  have hlen := congrArg List.length hrow
  rw [List.length_append] at hlen
  have hz : isContinuation row 0 = false := isContinuation_cells_zero _
  have hinked : lines.IsInked (cells front).length := .inl ⟨caretMark, hcaret, by decide⟩
  have hw := (keptSpan_whole hz lines columns).1
  obtain ⟨hstart, hstop, hend⟩ :=
    keptSpan_bounds hz columns hinked (by rw [hr]; omega) hinked
  generalize keptSpan row lines columns = kept at *
  obtain ⟨span, outside⟩ := kept
  dsimp only at hw hstart hstop hend ⊢
  rw [hr] at hw hstop
  obtain ⟨hidden, shown, rest, cut, hf, hb, hshown, hlh, hls, hlr, hlc, htext⟩ :=
    hw.spanText_append hfront hbehind hrow hstart (by omega)
  have hshift : (if span.start > 0 then blanks (frontEllipsis.length : Nat) else []).length =
      (elision frontEllipsis hidden).length := by
    rw [elision_eq_ite_cells, hlh]
    split <;> simp
  have hle := hw.stop_le
  rw [hf, List.mem_append, not_or] at ht
  refine ⟨hidden, shown, rest, cut, hf, hb, ?_, ?_, ?_⟩
  · rw [← length_cells_eq_zero_iff, ← length_cells_eq_zero_iff]
    omega
  · rw [hr, htext, elision_eq_ite_cells, elision_eq_ite_cells, hlh, hlc]
    simp only [List.append_assoc, Nat.sub_pos_iff_lt, gt_iff_lt]
  · have hi : ((elision frontEllipsis hidden).length + (cells shown).length : Int).toNat =
        (elision frontEllipsis hidden).length + (cells shown).length := by omega
    rw [displayWidth_elision_append ht.2 hshown, hi, ← hshift,
      List.getElem?_append_right (by omega), Nat.add_sub_cancel_left, List.getElem?_drop,
      List.getElem?_take_of_lt (by omega)]
    rw [hls]
    exact hcaret

/-- Trimming gives a line of marks. -/
theorem onlyMarks_trimLines {lines : Lines} (h : OnlyMarks lines.caret) (columns : Int) :
    OnlyMarks (trimLines lines columns).caret := by
  unfold trimLines
  extract_lets row width
  split
  · exact h
  · generalize keptSpan row lines columns = kept
    dsimp only
    apply OnlyMarks.append
    · split
      · exact OnlyMarks.replicate_space _
      · exact List.forall_mem_nil _
    · exact h.of_subset (fun mark hm ↦ List.mem_of_mem_take (List.mem_of_mem_drop hm))

/-- Trimming adds no caret. -/
theorem count_caret_trimLines_le (lines : Lines) (columns : Int) :
    (trimLines lines columns).caret.count caretMark ≤ lines.caret.count caretMark := by
  unfold trimLines
  extract_lets row width
  split
  · exact Nat.le_refl _
  · generalize keptSpan row lines columns = kept
    have hshift : (if kept.1.start > 0 then blanks (frontEllipsis.length : Nat) else []).count
        caretMark = 0 := by
      split
      · decide
      · rfl
    dsimp only
    rw [List.count_append, hshift, Nat.zero_add]
    exact ((List.drop_sublist _ _).trans (List.take_sublist _ _)).count_le _

end Caret.Snippet
