import Caret.Proofs.Snippet.Region
import Caret.Snippet.Basic

/-!
# The caret below its place

The marks under a line have the caret at the column of the location, whatever ranges are marked
as well. Expansion, trimming and margins move the source line and the caret line by the same
number of display columns, so that the caret of a printed snippet stands below the code point of
its location, or directly behind the line.
-/

namespace Caret.Snippet

open Text

/-! ## The marks of a line -/

private theorem length_le_foldl_putCaret (points : List Int) (marks : Text) :
    marks.length ≤ (points.foldl putCaret marks).length := by
  induction points generalizing marks with
  | nil => exact Nat.le_refl _
  | cons column rest ih =>
    have hput : marks.length ≤ (putCaret marks column).length := by
      rw [length_putCaret]
      split <;> omega
    exact Nat.le_trans hput (ih _)

/-- Underlines do not make a line longer or shorter. -/
theorem length_foldl_underline (ranges : List ColumnRange) (marks : Text) :
    (ranges.foldl underline marks).length = marks.length := by
  induction ranges generalizing marks with
  | nil => rfl
  | cons range rest ih => rw [List.foldl_cons, ih, length_underline]

/-- A caret that is put on a line or directly behind it stands at its column. -/
theorem getElem?_putCaret {marks : Text} {column : Int} (h : (column - 1).toNat ≤ marks.length) :
    (putCaret marks column)[(column - 1).toNat]? = some caretMark := by
  unfold putCaret
  extract_lets index
  split
  · next hlt => exact List.getElem?_set_self hlt
  · next hge =>
    have he : (column - 1).toNat = marks.length := Nat.le_antisymm h (Nat.not_lt.mp hge)
    rw [he, List.getElem?_concat_length]

private theorem getElem?_caretLine {line : Text} {column : Int} (h₁ : 1 ≤ column)
    (h₂ : column ≤ line.length + 1) (ranges : List ColumnRange) :
    (caretLine line column ranges)[(column - 1).toNat]? = some caretMark := by
  unfold caretLine
  extract_lets clipped underlined points
  have hlen : line.length ≤ ((clipped.filter (·.isEmpty)).map (·.start) |>.foldl putCaret
      underlined).length := by
    refine Nat.le_trans (Nat.le_of_eq ?_) (length_le_foldl_putCaret _ _)
    rw [length_foldl_underline, length_blanks]
    omega
  unfold points
  rw [List.foldl_append, Int.max_eq_left h₁]
  exact getElem?_putCaret (by omega)

private theorem not_mem_underline {marks : Text} (h : caretMark ∉ marks) (range : ColumnRange) :
    caretMark ∉ underline marks range := by
  intro hm
  obtain ⟨index, hi, he⟩ := List.mem_mapIdx.mp hm
  split at he
  · exact absurd he (by decide)
  · exact h (he ▸ List.getElem_mem hi)

private theorem not_mem_foldl_underline (ranges : List ColumnRange) {marks : Text}
    (h : caretMark ∉ marks) : caretMark ∉ ranges.foldl underline marks := by
  induction ranges generalizing marks with
  | nil => exact h
  | cons range rest ih => exact ih (not_mem_underline h range)

private theorem onlyMarks_underline {marks : Text} (h : OnlyMarks marks) (range : ColumnRange) :
    OnlyMarks (underline marks range) := by
  intro mark hm
  obtain ⟨index, hi, he⟩ := List.mem_mapIdx.mp hm
  split at he
  · exact Or.inr (Or.inl he.symm)
  · exact h mark (he ▸ List.getElem_mem hi)

private theorem onlyMarks_putCaret {marks : Text} (h : OnlyMarks marks) (column : Int) :
    OnlyMarks (putCaret marks column) := by
  unfold putCaret
  extract_lets index
  split
  · intro mark hm
    rcases List.mem_or_eq_of_mem_set hm with other | caret
    · exact h mark other
    · exact Or.inr (Or.inr caret)
  · apply h.append
    intro mark hm
    exact Or.inr (Or.inr (List.mem_singleton.mp hm))

private theorem onlyMarks_caretLine (line : Text) (column : Int) (ranges : List ColumnRange) :
    OnlyMarks (caretLine line column ranges) := by
  have underlined (ranges : List ColumnRange) {marks : Text} (h : OnlyMarks marks) :
      OnlyMarks (ranges.foldl underline marks) := by
    induction ranges generalizing marks with
    | nil => exact h
    | cons range rest ih => exact ih (onlyMarks_underline h range)
  have pointed (points : List Int) {marks : Text} (h : OnlyMarks marks) :
      OnlyMarks (points.foldl putCaret marks) := by
    induction points generalizing marks with
    | nil => exact h
    | cons point rest ih => exact ih (onlyMarks_putCaret h point)
  unfold caretLine
  exact pointed _ (underlined _ (OnlyMarks.replicate_space _))

private theorem count_putCaret_le (marks : Text) (column : Int) :
    (putCaret marks column).count caretMark ≤ marks.count caretMark + 1 := by
  unfold putCaret
  extract_lets index
  split
  · next hlt =>
    rw [List.count_set hlt]
    simp only [beq_self_eq_true, if_true]
    omega
  · rw [List.count_append]
    exact Nat.le_refl _

private theorem count_foldl_putCaret_le (points : List Int) (marks : Text) :
    (points.foldl putCaret marks).count caretMark ≤ marks.count caretMark + points.length := by
  induction points generalizing marks with
  | nil => exact Nat.le_refl _
  | cons column rest ih =>
    have h₁ := ih (putCaret marks column)
    have h₂ := count_putCaret_le marks column
    rw [List.foldl_cons, List.length_cons]
    omega

private theorem count_caretLine_le (line : Text) (column : Int) (ranges : List ColumnRange) :
    (caretLine line column ranges).count caretMark ≤ ranges.length + 1 := by
  unfold caretLine
  extract_lets clipped underlined points
  have hu : underlined.count caretMark = 0 := by
    apply List.count_eq_zero_of_not_mem
    apply not_mem_foldl_underline
    intro hm
    exact absurd (List.eq_of_mem_replicate hm) (by decide)
  have hp : points.length ≤ ranges.length + 1 := by
    unfold points clipped
    rw [List.length_append, List.length_map, List.length_singleton]
    exact Nat.succ_le_succ
      (Nat.le_trans (List.length_filter_le _ _) (List.length_filterMap_le _ _))
  have hc := count_foldl_putCaret_le points underlined
  omega

private theorem getElem?_dropTrailingSpaces {marks : Text} {index : Nat} {mark : Char}
    (h : marks[index]? = some mark) (hm : mark ≠ ' ') :
    (SnippetLines.dropTrailingSpaces marks)[index]? = some mark := by
  have hsplit : marks = SnippetLines.dropTrailingSpaces marks ++
      (marks.reverse.takeWhile (· = ' ')).reverse := by
    rw [SnippetLines.dropTrailingSpaces, ← List.reverse_append, List.takeWhile_append_dropWhile,
      List.reverse_reverse]
  rw [hsplit, List.getElem?_append] at h
  split at h
  · exact h
  · have hmem := List.mem_of_getElem? h
    rw [List.mem_reverse] at hmem
    have hblank := List.all_eq_true.mp List.all_takeWhile mark hmem
    exact absurd (of_decide_eq_true hblank) hm

private theorem dropTrailingSpaces_subset (marks : Text) :
    SnippetLines.dropTrailingSpaces marks ⊆ marks := by
  intro mark hm
  rw [SnippetLines.dropTrailingSpaces, List.mem_reverse] at hm
  exact List.mem_reverse.mp ((List.dropWhile_sublist _).subset hm)

private theorem count_dropTrailingSpaces_le (marks : Text) (mark : Char) :
    (SnippetLines.dropTrailingSpaces marks).count mark ≤ marks.count mark := by
  rw [SnippetLines.dropTrailingSpaces, List.count_reverse]
  have := (List.dropWhile_sublist (l := marks.reverse) (· = ' ')).count_le mark
  rwa [List.count_reverse] at this

/-! ## Margins -/

/-- A number is written in digits behind a sign. -/
private theorem mem_ofInt {n : Int} {c : Char} (h : c ∈ ofInt n) :
    c ≠ '\t' ∧ c.toNat < 0x300 := by
  have digit {k : Nat} (hc : c ∈ (toString k).toList) : c ≠ '\t' ∧ c.toNat < 0x300 := by
    rw [Nat.toString_eq_repr, Nat.toList_repr] at hc
    have hd := Nat.isDigit_of_mem_toDigits (by decide) (by decide) hc
    refine ⟨?_, ?_⟩
    · rintro rfl
      cases hd
    · have hle : c.val ≤ 57 := (by simpa [Char.isDigit] using hd : _ ∧ c.val ≤ 57).2
      have hle' : c.toNat ≤ 57 := hle
      omega
  cases n with
  | ofNat k => exact digit h
  | negSucc k =>
    have hs : ofInt (Int.negSucc k) = '-' :: (toString (k + 1)).toList := by
      change ("-" ++ toString (k + 1)).toList = _
      rw [String.toList_append]
      rfl
    rw [hs] at h
    rcases List.mem_cons.mp h with rfl | h
    · decide
    · exact digit h

private theorem displayWidth_margins (line : Int) (options : Options) :
    displayWidth (SnippetLines.margins line options).1 =
      displayWidth (SnippetLines.margins line options).2 := by
  have blank (count : Nat) {c : Char} (h : c ∈ List.replicate count ' ') :
      c ≠ '\t' ∧ c.toNat < 0x300 := by
    rw [List.eq_of_mem_replicate h]
    decide
  have rule {c : Char} (h : c ∈ " | ".toList) : c ≠ '\t' ∧ c.toNat < 0x300 :=
    plain_of_all (by decide) c h
  unfold SnippetLines.margins
  split
  · extract_lets number width
    have hle : number.length ≤ width := Nat.le_max_right _ _
    rw [displayWidth_eq_length, displayWidth_eq_length]
    · simp only [List.length_append, List.length_cons, List.length_replicate]
      have h₁ : " | ".toList.length = 3 := rfl
      have h₂ : "| ".toList.length = 2 := rfl
      omega
    · intro c hc
      rcases List.mem_append.mp hc with hc | hc
      · exact blank _ hc
      · exact rule (List.mem_cons_of_mem _ hc)
    · intro c hc
      rcases List.mem_append.mp hc with hc | hc
      · rcases List.mem_append.mp hc with hc | hc
        · exact blank (_ + 1) hc
        · exact mem_ofInt hc
      · exact rule hc
  · split <;> rfl

private theorem format_of_plain (snippet : SnippetLines) {options : Options}
    (h : options.showColors = false) :
    snippet.format options =
      ((SnippetLines.margins snippet.line options).1 ++ snippet.source) ::
        ((SnippetLines.margins snippet.line options).2 ++ snippet.caret) ::
          if snippet.fixit.getD [] = [] then []
          else [(SnippetLines.margins snippet.line options).2 ++ snippet.fixit.getD []] := by
  rw [SnippetLines.format, h]
  rfl

/-! ## The snippet of a location -/

private theorem place?_of_isFile {map : SourceMap} {loc : Location} {line : Text}
    (hfile : loc.isFile = true)
    (hline : map.lineText? loc.file (map.lineNumber loc.file loc.offset) = some line) :
    place? map loc = some ⟨loc.file, map.lineNumber loc.file loc.offset,
      map.columnNumber loc.file loc.offset, line⟩ := by
  have hm : loc.isMacro = false := by
    have := (Bool.and_eq_true_iff.mp hfile).2
    simpa [Location.isMacro] using this
  have hn : map.lineNumber loc.file loc.offset ≠ 0 := by
    intro hz
    rw [hz] at hline
    cases hf : map.file? loc.file <;> simp [SourceMap.lineText?, hf, Source.lineText?,
      Source.lineStart?] at hline
  simp only [place?, map.expansionSite_of_not_isMacro hm]
  rw [if_neg hn, hline]
  rfl

/-- The caret line of a snippet has marks only. -/
theorem onlyMarks_of_build? {map : SourceMap} {loc : Location} {ranges : List SourceRange}
    {hints : List FixItHint} {options : Options} {snippet : SnippetLines}
    (h : build? map loc ranges hints options = some snippet) : OnlyMarks snippet.caret := by
  obtain ⟨place, -, rfl⟩ := Option.map_eq_some_iff.mp h
  have hfull : OnlyMarks (fullLines map place ranges hints options).caret :=
    (onlyMarks_caretLine _ _ _).expandFrom _ _ _
  apply OnlyMarks.of_subset _ (dropTrailingSpaces_subset _)
  split
  · exact onlyMarks_trimLines hfull _
  · exact hfull

/-- The caret line of a snippet has at most one caret for each range beside that of its
location. -/
theorem count_caret_of_build?_le {map : SourceMap} {loc : Location} {ranges : List SourceRange}
    {hints : List FixItHint} {options : Options} {snippet : SnippetLines}
    (h : build? map loc ranges hints options = some snippet) :
    snippet.caret.count caretMark ≤ ranges.length + 1 := by
  obtain ⟨place, -, rfl⟩ := Option.map_eq_some_iff.mp h
  have hfull : (fullLines map place ranges hints options).caret.count caretMark ≤
      ranges.length + 1 :=
    Nat.le_trans (count_expandFrom_snd_le _ _ _ _) (Nat.le_trans (count_caretLine_le _ _ _)
      (Nat.succ_le_succ (List.length_filterMap_le _ _)))
  refine Nat.le_trans (count_dropTrailingSpaces_le _ _) ?_
  split
  · exact Nat.le_trans (count_caret_trimLines_le _ _) hfull
  · exact hfull

/-- A source line shows a line whose text is `front` in front of a place and `behind` behind it,
in full or in part with an ellipsis for each part that is not shown, and the mark line under it
has a caret at the display column of the place. Of a place on the line, the glyph there is
shown; a place behind the line is the end of the source line. -/
def PointsAt (front behind source marks : Text) : Prop :=
  ∃ hidden shown rest cut before after, front = hidden ++ shown ∧ behind = rest ++ cut ∧
    (rest = [] → cut = []) ∧
    source = elision frontEllipsis hidden ++ shown ++ rest ++ elision backEllipsis cut ∧
    marks = before ++ caretMark :: after ∧
    displayWidth before = displayWidth (elision frontEllipsis hidden ++ shown)

private theorem HasCaretCell.dropTrailingSpaces {front behind source marks : Text}
    (h : HasCaretCell front behind source marks) :
    HasCaretCell front behind source (SnippetLines.dropTrailingSpaces marks) := by
  obtain ⟨hidden, shown, rest, cut, hf, hb, hr, hs, hm⟩ := h
  exact ⟨hidden, shown, rest, cut, hf, hb, hr, hs, getElem?_dropTrailingSpaces hm (by decide)⟩

/-- The cell of a mark is its display column, since every mark takes one column. -/
private theorem HasCaretCell.pointsAt {front behind source marks : Text}
    (h : HasCaretCell front behind source marks) (ht : '\t' ∉ front) (plain : OnlyMarks marks) :
    PointsAt front behind source marks := by
  obtain ⟨hidden, shown, rest, cut, hf, hb, hr, hs, hm⟩ := h
  obtain ⟨before, after, hmarks, hwidth⟩ := plain.exists_caret_at hm
  refine ⟨hidden, shown, rest, cut, before, after, hf, hb, hr, hs, hmarks, ?_⟩
  have untabbed : '\t' ∉ elision frontEllipsis hidden ++ shown := by
    rw [hf] at ht
    intro hm
    rcases List.mem_append.mp hm with early | late
    · exact (plain_elision hidden _ early).1 rfl
    · exact ht (List.mem_append_right _ late)
  rw [hwidth, displayWidth_of_not_mem_tab untabbed, Int.toNat_natCast]

/-- The marks of a line that are expanded with it have the caret at the display column of its
place, and the line can be cut there. -/
private theorem expanded_at {line : Text} {index : Nat} {tabStop : Int} (ht : 1 ≤ tabStop)
    (hle : index ≤ line.length) (hmarks : MarksAttached line)
    (hwidth : ∀ c ∈ (line.drop index).head?, charWidth c ≠ 0) {marks : Text}
    (hcaret : marks[index]? = some caretMark) :
    let front := expandTabs tabStop (line.take index) 0
    let behind := expandTabs tabStop (line.drop index) (endColumn (line.take index) tabStop 0)
    (expandAnnotated line marks tabStop).1 = front ++ behind ∧
      MarksAttached front ∧ MarksAttached behind ∧
      cells (front ++ behind) = cells front ++ cells behind ∧
      (expandAnnotated line marks tabStop).2[(cells front).length]? = some caretMark := by
  intro front behind
  have hline : expandTabs tabStop line 0 = front ++ behind := by
    rw [← expandTabs_append, List.take_append_drop]
  have hall : MarksAttached (front ++ behind) := hline ▸ hmarks.expandTabs ht 0
  have hhead : ∀ c ∈ behind.head?, charWidth c ≠ 0 := by
    intro c hc
    rw [head?_expandTabs ht] at hc
    obtain ⟨a, ha, rfl⟩ := Option.map_eq_some_iff.mp hc
    exact charWidth_shownGlyph_ne (hwidth a ha)
  have hlen : index = (line.take index).length := by
    rw [List.length_take, Nat.min_eq_left hle]
  rw [hlen] at hcaret
  have hmark := getElem?_expandFrom_snd ht hcaret hwidth 0
  have hcol : (endColumn (line.take index) tabStop 0 - 0).toNat = (cells front).length := by
    rw [length_cells hall.left, ← glyphWidth_expandTabs ht, Int.toNat_natCast]
  rw [List.take_append_drop, hcol] at hmark
  refine ⟨?_, hall.left, hall.right hhead, cells_append front hhead, hmark⟩
  rw [expandAnnotated, expandFrom_fst, hline]

/-- The caret of a snippet stands below the code point of its location, or directly behind the
line, also if the line is trimmed; there is at most one more caret for each range. The printed
lines stand behind equally wide margins. -/
theorem caret_below_location (map : SourceMap) (loc : Location) (ranges : List SourceRange)
    (hints : List FixItHint) (options : Options) (line : Text) (hfile : loc.isFile = true)
    (hline : map.lineText? loc.file (map.lineNumber loc.file loc.offset) = some line)
    (hfirst : 1 ≤ map.columnNumber loc.file loc.offset)
    (hlast : map.columnNumber loc.file loc.offset ≤ line.length + 1)
    (htab : 1 ≤ options.tabStop) (hmarks : MarksAttached line)
    (hwidth : ∀ c ∈ (line.drop (map.columnNumber loc.file loc.offset - 1).toNat).head?,
      charWidth c ≠ 0) :
    let index := (map.columnNumber loc.file loc.offset - 1).toNat
    (∃ snippet, build? map loc ranges hints options = some snippet ∧
      PointsAt (expandTabs options.tabStop (line.take index) 0)
        (expandTabs options.tabStop (line.drop index)
          (endColumn (line.take index) options.tabStop 0))
        snippet.source snippet.caret ∧
      snippet.caret.count caretMark ≤ ranges.length + 1) ∧
    ∀ (snippet : SnippetLines) (plain : Options), plain.showColors = false →
      ∃ sourceMargin margin below, displayWidth sourceMargin = displayWidth margin ∧
        snippet.format plain =
          (sourceMargin ++ snippet.source) :: (margin ++ snippet.caret) :: below := by
  intro index
  refine ⟨?_, ?_⟩
  · let place : Place := ⟨loc.file, map.lineNumber loc.file loc.offset,
      map.columnNumber loc.file loc.offset, line⟩
    let projected := ranges.filterMap (project? map · place.line place.file place.text)
    have hle : index ≤ line.length := by omega
    have hmark : (caretLine line place.column projected)[index]? = some caretMark :=
      getElem?_caretLine hfirst hlast projected
    obtain ⟨hsource, hfront, hbehind, hrow, hcaret⟩ := expanded_at htab hle hmarks hwidth hmark
    have hfull : (fullLines map place ranges hints options).source = _ := hsource
    have huntabbed : '\t' ∉ expandTabs options.tabStop (line.take index) 0 :=
      not_mem_tab_expandTabs _ _ _
    obtain ⟨snippet, hbuild, hcell⟩ : ∃ snippet,
        build? map loc ranges hints options = some snippet ∧
          HasCaretCell _ _ snippet.source snippet.caret := by
      simp only [build?, place?_of_isFile hfile hline, Option.map_some]
      refine ⟨_, rfl, HasCaretCell.dropTrailingSpaces ?_⟩
      split
      · exact hasCaretCell_trimLines huntabbed hfront hbehind hrow hfull hcaret _
      · rw [show (fullLines map place ranges hints options).source = _ from hsource]
        exact hasCaretCell_of_untrimmed huntabbed hfront hcaret
    exact ⟨snippet, hbuild, hcell.pointsAt huntabbed (onlyMarks_of_build? hbuild),
      count_caret_of_build?_le hbuild⟩
  · intro snippet plain hplain
    exact ⟨_, _, _, displayWidth_margins snippet.line plain, format_of_plain snippet hplain⟩

/-- A line with a tab, a wide glyph and a combining mark that is too wide for sixteen columns. -/
def crowdedLine : Text := "\tlong 界e\u0301 + more words here".toList

/-- A file whose second line is crowded. -/
def crowdedMap : SourceMap :=
  { files := [{ name := "a.c".toList, text := 'x' :: '\n' :: crowdedLine }] }

/-- The caret below the wide glyph of a trimmed line. -/
theorem caret_below_wide_glyph :
    ∃ snippet, build? crowdedMap (.inFile 1 8) [] [] { wrapColumn := 16, tabStop := 4 } =
        some snippet ∧
      PointsAt (expandTabs 4 (crowdedLine.take 6) 0)
        (expandTabs 4 (crowdedLine.drop 6) (endColumn (crowdedLine.take 6) 4 0))
        snippet.source snippet.caret ∧
      snippet.caret.count caretMark ≤ 1 := by
  have hcolumn : (crowdedMap.columnNumber 1 8 - 1).toNat = 6 := by decide +kernel
  have hstart : ∀ c ∈ crowdedLine.head?, charWidth c ≠ 0 := by
    intro c hc
    cases Option.mem_def.mp hc
    decide +kernel
  have hwidth : ∀ c ∈ (crowdedLine.drop 6).head?, charWidth c ≠ 0 := by
    intro c hc
    cases Option.mem_def.mp hc
    decide +kernel
  have h := (caret_below_location crowdedMap (.inFile 1 8) [] []
    { wrapColumn := 16, tabStop := 4 } crowdedLine (by decide +kernel) (by decide +kernel)
    (by decide +kernel) (by decide +kernel) (by decide +kernel) ⟨hstart, by decide +kernel⟩
    (by rw [Location.inFile, hcolumn]; exact hwidth)).1
  simp only [Location.inFile, hcolumn] at h
  exact h

end Caret.Snippet
