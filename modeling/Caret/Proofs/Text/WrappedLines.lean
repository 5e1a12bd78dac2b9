import Caret.Proofs.Text.Annotation
import Caret.Text.Wrapping

/-!
# The lines of a wrapped message

A wrapped message is put together from lines of units with a blank between neighbours. The units
are the pieces that were placed; a line goes on until a unit is placed on the next one. Each part
of the message between its own line breaks is a block of lines of its own, and all of its units
are parts of it.
-/

namespace Caret.Text

/-- The last of several texts is joined to the others with the separator. -/
theorem join_concat {separator : Text} {pieces : List Text} (h : pieces ≠ []) (last : Text) :
    join separator (pieces ++ [last]) = join separator pieces ++ separator ++ last := by
  induction pieces with
  | nil => exact absurd rfl h
  | cons piece rest ih =>
    cases rest with
    | nil => rfl
    | cons next others =>
      have inner := ih (List.cons_ne_nil next others)
      rw [List.cons_append, join_cons (by simp), inner, join_cons (List.cons_ne_nil next others)]
      simp only [List.append_assoc]

private theorem join_append {separator : Text} {first second : List Text} (h : first ≠ [])
    (next : second ≠ []) :
    join separator (first ++ second) =
      join separator first ++ separator ++ join separator second := by
  induction first with
  | nil => exact absurd rfl h
  | cons piece rest ih =>
    cases rest with
    | nil => exact join_cons next
    | cons other others =>
      have inner := ih (List.cons_ne_nil other others)
      rw [List.cons_append, join_cons (by simp), inner, join_cons (List.cons_ne_nil other others)]
      simp only [List.append_assoc]

/-- Each of the joined texts is a part of the whole. -/
theorem infix_join (separator : Text) {pieces : List Text} {piece : Text} (h : piece ∈ pieces) :
    piece <:+: join separator pieces := by
  induction pieces with
  | nil => cases h
  | cons first rest ih =>
    cases rest with
    | nil =>
      rw [List.mem_singleton.mp h]
      exact List.infix_rfl
    | cons next others =>
      rw [join_cons (List.cons_ne_nil next others)]
      rcases List.mem_cons.mp h with rfl | later
      · exact ((List.prefix_append _ _).trans (List.prefix_append _ _)).isInfix
      · exact (ih later).trans (List.suffix_append _ _).isInfix

/-- A code point of a joined text is one of the separator or of a piece. -/
theorem mem_join {separator : Text} {pieces : List Text} {c : Char}
    (h : c ∈ join separator pieces) : c ∈ separator ∨ ∃ piece ∈ pieces, c ∈ piece := by
  induction pieces with
  | nil => cases h
  | cons first rest ih =>
    cases rest with
    | nil => exact Or.inr ⟨first, List.mem_cons_self, h⟩
    | cons next others =>
      rw [join_cons (List.cons_ne_nil next others), List.mem_append, List.mem_append] at h
      rcases h with (here | between) | behind
      · exact Or.inr ⟨first, List.mem_cons_self, here⟩
      · exact Or.inl between
      · exact (ih behind).imp_right fun ⟨piece, member, inside⟩ ↦
          ⟨piece, List.mem_cons_of_mem _ member, inside⟩

/-- The pieces of a cut text are parts of it. -/
theorem infix_of_mem_splitAt {mark : Char} {text piece : Text} (h : piece ∈ splitAt mark text) :
    piece <:+: text := by
  have part := infix_join [mark] h
  rwa [join_splitAt] at part

private theorem glyphWidth_le_of_infix {part text : Text} (h : part <:+: text) :
    glyphWidth part ≤ glyphWidth text := by
  obtain ⟨front, behind, rfl⟩ := h
  rw [glyphWidth_append, glyphWidth_append]
  omega

private theorem splitAt_join {mark : Char} {pieces : List Text} (h : pieces ≠ [])
    (free : ∀ piece ∈ pieces, mark ∉ piece) : splitAt mark (join [mark] pieces) = pieces := by
  have cut (piece : Text) (rest : Text) (outside : mark ∉ piece) :
      splitAt mark (piece ++ mark :: rest) = piece :: splitAt mark rest := by
    induction piece with
    | nil =>
      rw [List.nil_append, splitAt]
      split
      · next none => exact absurd none (splitAt_ne_nil mark rest)
      · next first others same => rw [if_pos rfl, same]
    | cons c behind ih =>
      rw [List.mem_cons, not_or] at outside
      rw [List.cons_append, splitAt, ih outside.2]
      exact if_neg (Ne.symm outside.1)
  have uncut (piece : Text) (outside : mark ∉ piece) : splitAt mark piece = [piece] := by
    induction piece with
    | nil => rfl
    | cons c behind ih =>
      rw [List.mem_cons, not_or] at outside
      rw [splitAt, ih outside.2]
      exact if_neg (Ne.symm outside.1)
  induction pieces with
  | nil => exact absurd rfl h
  | cons piece rest ih =>
    obtain ⟨here, later⟩ := List.forall_mem_cons.mp free
    cases rest with
    | nil => exact uncut piece here
    | cons next others =>
      rw [join_cons (List.cons_ne_nil next others), List.append_assoc]
      have behind := ih (List.cons_ne_nil next others) later
      exact (cut piece _ here).trans (congrArg (piece :: ·) behind)

/-! ## Lines of units -/

/-- A line of a wrapped message: the column at which its text starts, and its units. -/
structure UnitLine where
  start : Int
  units : List Text

namespace UnitLine

/-- The text of a line, with the blanks in front of it. -/
def text (line : UnitLine) : Text := blanks line.start ++ join [' '] line.units

/-- The column behind a line. -/
def stop (line : UnitLine) : Int := line.start + glyphWidth (join [' '] line.units)

/-- A line with one unit more. -/
def push (line : UnitLine) (unit : Text) : UnitLine :=
  { line with units := line.units ++ [unit] }

/-- What stands in front of the next unit of a line: nothing at its start, and else a blank. -/
def gap (line : UnitLine) : Int := if line.units.isEmpty then 0 else 1

private theorem text_push (line : UnitLine) (unit : Text) :
    (line.push unit).text = line.text ++ (blanks line.gap ++ unit) := by
  unfold text push gap
  cases units : line.units with
  | nil => simp [join, blanks]
  | cons first rest =>
    simp only [join_concat (List.cons_ne_nil first rest), List.append_assoc]
    rfl

/-- The column behind a line moves by the gap and the next unit. -/
theorem stop_push (line : UnitLine) (unit : Text) :
    (line.push unit).stop = line.stop + line.gap + glyphWidth unit := by
  unfold stop push gap
  cases units : line.units with
  | nil => simp [join, glyphWidth]
  | cons first rest =>
    have blank : glyphWidth [' '] = 1 := by rw [glyphWidth, charWidth_of_lt (by decide)]; rfl
    simp only [join_concat (List.cons_ne_nil first rest), glyphWidth_append, blank,
      List.isEmpty_cons, Bool.false_eq_true, if_false]
    omega

/-- A line without units is the blanks in front of it. -/
theorem stop_mk_nil (start : Int) : (mk start []).stop = start := by
  simp [stop, join, glyphWidth]

/-- No code point of a line is one that is neither a blank nor in a unit. -/
theorem not_mem_text {line : UnitLine} {c : Char} (blank : c ≠ ' ')
    (h : ∀ unit ∈ line.units, c ∉ unit) : c ∉ line.text := by
  intro inside
  rcases List.mem_append.mp inside with margin | joined
  · exact blank (List.eq_of_mem_replicate margin)
  · rcases mem_join joined with between | ⟨unit, member, there⟩
    · exact blank (List.mem_singleton.mp between)
    · exact h unit member there

/-- The text of a line ends where the line stops. -/
theorem displayWidth_text {line : UnitLine} (start : 0 ≤ line.start)
    (tabFree : ∀ unit ∈ line.units, '\t' ∉ unit) : displayWidth line.text = line.stop := by
  rw [displayWidth_of_not_mem_tab (not_mem_text (by decide) tabFree), text, glyphWidth_append,
    glyphWidth_blanks, stop]
  omega

/-- A line stops behind each of its units. -/
theorem start_add_glyphWidth_le_stop {line : UnitLine} {unit : Text} (h : unit ∈ line.units) :
    line.start + glyphWidth unit ≤ line.stop := by
  have part := glyphWidth_le_of_infix (infix_join [' '] h)
  unfold stop
  omega

end UnitLine

/-- The lines of placed words, the first of which goes on with `line`. -/
def linesFrom (line : UnitLine) : List PlacedWord → List UnitLine
  | [] => [line]
  | placed :: rest =>
    if placed.breaksLine then line :: linesFrom ⟨placed.gap, [placed.word]⟩ rest
    else linesFrom (line.push placed.word) rest

/-- The first line of placed words is the one they go on with. -/
theorem exists_linesFrom_eq_cons (line : UnitLine) (placed : List PlacedWord) :
    ∃ behind rest, linesFrom line placed = ⟨line.start, line.units ++ behind⟩ :: rest := by
  induction placed generalizing line with
  | nil => exact ⟨[], [], by rw [List.append_nil]; rfl⟩
  | cons word rest ih =>
    rw [linesFrom]
    split
    · exact ⟨[], _, by rw [List.append_nil]⟩
    · obtain ⟨behind, others, first⟩ := ih (line.push word.word)
      exact ⟨word.word :: behind, others, by rw [first, UnitLine.push, List.append_assoc]; rfl⟩

/-- There is at least the line that placed words go on with. -/
theorem linesFrom_ne_nil (line : UnitLine) (placed : List PlacedWord) :
    linesFrom line placed ≠ [] := by
  obtain ⟨behind, rest, first⟩ := exists_linesFrom_eq_cons line placed
  rw [first]
  exact List.cons_ne_nil _ _

/-- Every line of placed words but the first holds one. -/
theorem units_ne_nil_of_mem_tail_linesFrom (line : UnitLine) (placed : List PlacedWord) :
    ∀ other ∈ (linesFrom line placed).tail, other.units ≠ [] := by
  induction placed generalizing line with
  | nil => exact List.forall_mem_nil _
  | cons word rest ih =>
    rw [linesFrom]
    split
    · have behind := ih ⟨word.gap, [word.word]⟩
      obtain ⟨units, others, first⟩ := exists_linesFrom_eq_cons ⟨word.gap, [word.word]⟩ rest
      rw [first] at behind ⊢
      exact List.forall_mem_cons.mpr ⟨List.cons_ne_nil _ _, behind⟩
    · exact ih _

/-- The units of the lines are the placed words. -/
theorem flatMap_units_linesFrom (line : UnitLine) (placed : List PlacedWord) :
    (linesFrom line placed).flatMap (·.units) = line.units ++ placed.map (·.word) := by
  induction placed generalizing line with
  | nil => simp [linesFrom]
  | cons word rest ih =>
    rw [linesFrom]
    split
    · rw [List.flatMap_cons, ih]
      rfl
    · rw [ih, UnitLine.push, List.append_assoc]
      rfl

/-! ## Placed words -/

variable (columns indentation : Int)

/-- A word goes on with the line if it fits or if nothing is gained by a break; otherwise it does
not fit and starts a line. -/
theorem placeWord_cases (column : Int) (atLineStart : Bool) (word : Text) :
    placeWord columns indentation column atLineStart word =
        ⟨false, if atLineStart then 0 else 1, word⟩ ∧
      (column + (if atLineStart then 0 else 1) + displayWidth word ≤ columns ∨
        atLineStart = true ∧
          column ≤ continuationColumn columns indentation (displayWidth word)) ∨
    placeWord columns indentation column atLineStart word =
        ⟨true, continuationColumn columns indentation (displayWidth word), word⟩ ∧
      columns < column + (if atLineStart then 0 else 1) + displayWidth word ∧
      (atLineStart = true →
        continuationColumn columns indentation (displayWidth word) < column) := by
  by_cases fits : column + (if atLineStart then 0 else 1) + displayWidth word ≤ columns ∨
      (atLineStart ∧ column ≤ continuationColumn columns indentation (displayWidth word))
  · exact Or.inl ⟨if_pos fits, fits⟩
  · rw [not_or, not_and] at fits
    exact Or.inr ⟨if_neg (by simpa using fits), Int.not_le.mp fits.1,
      fun first ↦ Int.not_le.mp (fits.2 first)⟩

/-- No line starts in front of the first column. -/
theorem continuationColumn_nonneg (positive : 0 ≤ indentation) (width : Int) :
    0 ≤ continuationColumn columns indentation width := by
  unfold continuationColumn
  split <;> omega

/-- Placing a word does not change it. -/
theorem word_placeWord (column : Int) (atLineStart : Bool) (word : Text) :
    (placeWord columns indentation column atLineStart word).word = word := by
  rcases placeWord_cases columns indentation column atLineStart word with ⟨here, -⟩ | ⟨here, -⟩ <;>
    rw [here]

/-! ## Paragraphs -/

/-- The rest of a paragraph behind a word is a part of the paragraph. -/
theorem infix_of_dropWhile {text rest : Text} {c : Char} (h : text.dropWhile isBlank = c :: rest)
    (length : Nat) : (c :: rest).take length <:+: text ∧ rest.drop (length - 1) <:+: text := by
  have behind : c :: rest <:+ text := h ▸ List.dropWhile_suffix isBlank
  exact ⟨(List.take_prefix _ _).isInfix.trans behind.isInfix,
    ((List.drop_suffix _ _).trans ((List.suffix_cons c rest).trans behind)).isInfix⟩

/-- Behind the white space at its start a paragraph goes on with another code point. -/
theorem isBlank_of_dropWhile {text rest : Text} {c : Char}
    (h : text.dropWhile isBlank = c :: rest) : isBlank c = false := by
  simpa [h] using List.head?_dropWhile_not isBlank text

private theorem join_linesFrom_fillParagraph (text : Text) (column : Int) (line : UnitLine) :
    join ['\n'] ((linesFrom line
        (fillParagraph columns indentation text column line.units.isEmpty)).map (·.text)) =
      line.text ++
        (fillParagraph columns indentation text column line.units.isEmpty).flatMap (·.text) := by
  generalize state : line.units.isEmpty = atLineStart
  fun_induction fillParagraph columns indentation text column atLineStart generalizing line with
  | case1 => simp [linesFrom, join]
  | case2 text column atLineStart c rest found length placed ih =>
    have same : placed.word = (c :: rest).take length := word_placeWord ..
    rw [linesFrom, List.flatMap_cons]
    rcases placeWord_cases columns indentation column atLineStart ((c :: rest).take length) with
      ⟨here, -⟩ | ⟨here, -⟩
    · have stays : placed.breaksLine = false := congrArg PlacedWord.breaksLine here
      have shown : placed.text = blanks line.gap ++ placed.word := by
        rw [same, UnitLine.gap, state]
        exact congrArg PlacedWord.text here
      rw [if_neg (by simp [stays]), ih _ (by simp [UnitLine.push]), UnitLine.text_push, shown,
        List.append_assoc]
    · have breaks : placed.breaksLine = true := congrArg PlacedWord.breaksLine here
      have margin :
          placed.gap = continuationColumn columns indentation (displayWidth placed.word) :=
        same ▸ congrArg PlacedWord.gap here
      have shown : placed.text = '\n' :: (UnitLine.mk placed.gap [placed.word]).text := by
        rw [margin, same]
        exact congrArg PlacedWord.text here
      rw [if_pos breaks, List.map_cons, join_cons (by simpa using linesFrom_ne_nil _ _), ih _ rfl,
        shown]
      simp only [List.append_assoc, List.cons_append, List.nil_append]

private theorem infix_of_mem_fillParagraph (text : Text) (column : Int) (atLineStart : Bool) :
    ∀ placed ∈ fillParagraph columns indentation text column atLineStart,
      placed.word <:+: text := by
  fun_induction fillParagraph columns indentation text column atLineStart with
  | case1 => exact List.forall_mem_nil _
  | case2 text column atLineStart c rest found length placed ih =>
    obtain ⟨wordPart, restPart⟩ := infix_of_dropWhile found length
    have same : placed.word = (c :: rest).take length := word_placeWord ..
    exact List.forall_mem_cons.mpr
      ⟨same ▸ wordPart, fun other member ↦ (ih other member).trans restPart⟩

/-- A text starts with a code point that is not white space. -/
def StartsSolid (text : Text) : Prop := ∃ c ∈ text.head?, isBlank c = false

/-- Every word of a paragraph starts with a code point that is not white space. -/
theorem startsSolid_of_mem_fillParagraph (text : Text) (column : Int) (atLineStart : Bool) :
    ∀ placed ∈ fillParagraph columns indentation text column atLineStart,
      StartsSolid placed.word := by
  fun_induction fillParagraph columns indentation text column atLineStart with
  | case1 => exact List.forall_mem_nil _
  | case2 text column atLineStart c rest found length placed ih =>
    have same : placed.word = (c :: rest).take length := word_placeWord ..
    have positive : 0 < length := wordLength_pos columns (List.cons_ne_nil c rest) column
    refine List.forall_mem_cons.mpr ⟨⟨c, ?_, isBlank_of_dropWhile found⟩, ih⟩
    rw [same, List.head?_take, if_neg (Nat.pos_iff_ne_zero.mp positive)]
    rfl

/-! ## Messages -/

/-- The lines of paragraphs, the first of which starts at `column`. -/
def paragraphLines : List Text → Int → List UnitLine
  | [], _ => []
  | paragraph :: rest, column =>
    linesFrom ⟨column, []⟩ (fillParagraph columns indentation paragraph column true) ++
      paragraphLines rest indentation

/-- The lines of paragraphs, those of each of them together. -/
def paragraphBlocks : List Text → Int → List (List UnitLine)
  | [], _ => []
  | paragraph :: rest, column =>
    linesFrom ⟨column, []⟩ (fillParagraph columns indentation paragraph column true) ::
      paragraphBlocks rest indentation

/-- The lines of paragraphs are those of their blocks. -/
theorem flatten_paragraphBlocks (paragraphs : List Text) (column : Int) :
    (paragraphBlocks columns indentation paragraphs column).flatten =
      paragraphLines columns indentation paragraphs column := by
  induction paragraphs generalizing column with
  | nil => rfl
  | cons paragraph rest ih => rw [paragraphBlocks, List.flatten_cons, ih, paragraphLines]

private theorem paragraphLines_ne_nil {paragraphs : List Text} (h : paragraphs ≠ [])
    (column : Int) :
    paragraphLines columns indentation paragraphs column ≠ [] := by
  cases paragraphs with
  | nil => exact absurd rfl h
  | cons paragraph rest => exact List.append_ne_nil_of_left_ne_nil (linesFrom_ne_nil _ _) _

/-- The units of the lines of paragraphs are their words. -/
theorem flatMap_units_paragraphLines (paragraphs : List Text) (column : Int) :
    (paragraphLines columns indentation paragraphs column).flatMap (·.units) =
      (fillParagraphs columns indentation paragraphs column).flatten.map (·.word) := by
  induction paragraphs generalizing column with
  | nil => rfl
  | cons paragraph rest ih =>
    rw [paragraphLines, List.flatMap_append, flatMap_units_linesFrom, ih, fillParagraphs,
      List.flatten_cons, List.map_append]
    rfl

/-- The filled paragraphs make up the text of their lines; each but the first stands behind a
line break and its indentation. -/
theorem join_paragraphLines {paragraphs : List Text} (h : paragraphs ≠ []) (column : Int) :
    join ['\n'] ((paragraphLines columns indentation paragraphs column).map (·.text)) =
      blanks column ++ join ('\n' :: blanks indentation)
        ((fillParagraphs columns indentation paragraphs column).map fun filled ↦
          filled.flatMap (·.text)) := by
  induction paragraphs generalizing column with
  | nil => exact absurd rfl h
  | cons paragraph rest ih =>
    have first := join_linesFrom_fillParagraph columns indentation paragraph column ⟨column, []⟩
    have margin : (UnitLine.mk column []).text = blanks column := List.append_nil _
    rw [margin] at first
    cases rest with
    | nil => simpa [paragraphLines, fillParagraphs, join] using first
    | cons next others =>
      have behind := ih (List.cons_ne_nil next others) indentation
      have filled : fillParagraphs columns indentation (paragraph :: next :: others) column =
          fillParagraph columns indentation paragraph column true ::
            fillParagraphs columns indentation (next :: others) indentation := rfl
      rw [List.isEmpty_nil] at first
      rw [paragraphLines, List.map_append, join_append (by simpa using linesFrom_ne_nil _ _)
        (by simp [paragraphLines, linesFrom_ne_nil]), behind, first, filled, List.map_cons,
        join_cons (by simp [fillParagraphs])]
      simp only [List.append_assoc, List.cons_append, List.nil_append]

/-- Every word of some paragraphs is one of a paragraph that starts a line. -/
theorem exists_of_mem_fillParagraphs (paragraphs : List Text) (column : Int) :
    ∀ placed ∈ (fillParagraphs columns indentation paragraphs column).flatten,
      ∃ paragraph ∈ paragraphs, ∃ start,
        placed ∈ fillParagraph columns indentation paragraph start true := by
  induction paragraphs generalizing column with
  | nil => exact List.forall_mem_nil _
  | cons paragraph rest ih =>
    rw [fillParagraphs, List.flatten_cons]
    refine List.forall_mem_append.mpr ⟨?_, ?_⟩
    · intro placed member
      exact ⟨paragraph, List.mem_cons_self, column, member⟩
    · intro placed member
      obtain ⟨other, inside, start, here⟩ := ih indentation placed member
      exact ⟨other, List.mem_cons_of_mem _ inside, start, here⟩

/-- Every word of some paragraphs is a part of one of them. -/
theorem infix_of_mem_fillParagraphs (paragraphs : List Text) (column : Int) :
    ∀ placed ∈ (fillParagraphs columns indentation paragraphs column).flatten,
      ∃ paragraph ∈ paragraphs, placed.word <:+: paragraph := by
  intro placed member
  obtain ⟨paragraph, inside, start, here⟩ :=
    exists_of_mem_fillParagraphs columns indentation paragraphs column placed member
  exact ⟨paragraph, inside,
    infix_of_mem_fillParagraph columns indentation paragraph start true placed here⟩

/-- Every word of some paragraphs starts with a code point that is not white space. -/
theorem startsSolid_of_mem_fillParagraphs (paragraphs : List Text) (column : Int) :
    ∀ placed ∈ (fillParagraphs columns indentation paragraphs column).flatten,
      StartsSolid placed.word := by
  intro placed member
  obtain ⟨paragraph, -, start, here⟩ :=
    exists_of_mem_fillParagraphs columns indentation paragraphs column placed member
  exact startsSolid_of_mem_fillParagraph columns indentation paragraph start true placed here

/-- Continuation lines start at a column of the line. -/
theorem defaultIndentation_nonneg {columns column : Int} (start : 0 ≤ column) :
    0 ≤ defaultIndentation columns column := by
  unfold defaultIndentation
  split
  · exact start
  · decide

/-- The units of paragraphs hold no line break. -/
theorem not_mem_of_mem_fillParagraphs (message : Text) (column : Int) :
    ∀ placed ∈ (fillParagraphs columns indentation (splitAt '\n' message) column).flatten,
      '\n' ∉ placed.word := by
  intro placed member mark
  obtain ⟨paragraph, inside, part⟩ := infix_of_mem_fillParagraphs columns indentation _ column
    placed member
  exact not_mem_of_mem_splitAt inside (part.subset mark)

/-- The lines of a wrapped message, of which the first is counted from the column at which the
message starts, are the lines of its paragraphs. -/
theorem splitAt_wrap (message : Text) (columns column : Int) (indentation : Option Int) :
    splitAt '\n' (blanks column ++ (wrap message columns column indentation).text) =
      (paragraphLines columns (indentation.getD (defaultIndentation columns column))
        (splitAt '\n' message) column).map (·.text) := by
  generalize width : indentation.getD (defaultIndentation columns column) = margin
  have lines : paragraphLines columns margin (splitAt '\n' message) column ≠ [] :=
    paragraphLines_ne_nil columns margin (splitAt_ne_nil '\n' message) column
  have whole := join_paragraphLines columns margin (splitAt_ne_nil '\n' message) column
  have text : (wrap message columns column indentation).text = join ('\n' :: blanks margin)
      ((fillParagraphs columns margin (splitAt '\n' message) column).map fun words ↦
        words.flatMap (·.text)) := by rw [wrap, width]
  rw [text, ← whole]
  apply splitAt_join (by simpa using lines)
  intro piece member
  obtain ⟨line, inside, rfl⟩ := List.mem_map.mp member
  refine UnitLine.not_mem_text (by decide) fun unit here ↦ ?_
  have unit_mem : unit ∈ (paragraphLines columns margin (splitAt '\n' message) column).flatMap
      (·.units) := List.mem_flatMap.mpr ⟨line, inside, here⟩
  rw [flatMap_units_paragraphLines] at unit_mem
  obtain ⟨placed, known, rfl⟩ := List.mem_map.mp unit_mem
  exact not_mem_of_mem_fillParagraphs columns margin message column placed known

end Caret.Text
