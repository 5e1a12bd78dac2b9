import Caret.Proofs.Text.WrappedWords
import Mathlib.Order.Bounds.Basic

/-!
# Greedy filling

In a message in which no word starts with an opener the units are the words, and wrapping fills
lines with them greedily: a word goes on with the line as long as the line keeps to the width, and
otherwise starts the next one, at the indentation or as far to the left of it as it has to. A word
that fits no line has one of its own.
-/

namespace Caret.Text

/-! ## Words without openers -/

/-- No word of a text starts with an opener. -/
def PlainWords (text : Text) : Prop := ∀ word ∈ words text, word.head?.any opens = false

instance (text : Text) : Decidable (PlainWords text) :=
  inferInstanceAs (Decidable (∀ word ∈ words text, word.head?.any opens = false))

/-- A run without white space has none. -/
theorem isBlank_of_mem_take_solidLength {text : Text} {c : Char}
    (h : c ∈ text.take (solidLength text)) : isBlank c = false := by
  rw [solidLength, ← List.prefix_iff_eq_take.mp (List.takeWhile_prefix _)] at h
  simpa using List.all_eq_true.mp List.all_takeWhile c h

/-- The first word of a text that does not start with white space is its run up to the first. -/
theorem words_cons {c : Char} (solid : isBlank c = false) (rest : Text) :
    words (c :: rest) =
      (c :: rest.take (solidLength rest)) :: words (rest.drop (solidLength rest)) := by
  have run : ∀ d ∈ c :: rest.take (solidLength rest), isBlank d = false :=
    List.forall_mem_cons.mpr ⟨solid, fun _ ↦ isBlank_of_mem_take_solidLength⟩
  calc words (c :: rest)
    _ = words (c :: rest.take (solidLength rest) ++ rest.drop (solidLength rest)) := by
      rw [List.cons_append, List.take_append_drop]
    _ = _ := by
      rw [words_append _ (isBlank_of_mem_head?_drop_solidLength rest),
        words_eq_singleton (List.cons_ne_nil _ _) run]
      rfl

/-- No word of a text holds white space. -/
theorem isBlank_of_mem_words {text word : Text} (h : word ∈ words text) :
    ∀ c ∈ word, isBlank c = false := by
  match text with
  | [] => cases h
  | c :: rest =>
    cases blank : isBlank c with
    | true =>
      rw [words_cons_of_isBlank blank] at h
      exact isBlank_of_mem_words h
    | false =>
      rw [words_cons blank] at h
      rcases List.mem_cons.mp h with rfl | later
      · exact List.forall_mem_cons.mpr ⟨blank, fun _ ↦ isBlank_of_mem_take_solidLength⟩
      · exact isBlank_of_mem_words later
termination_by text.length
decreasing_by
  all_goals simp only [List.length_cons, List.length_drop]
  all_goals omega

/-- No word of a text holds a tab. -/
theorem not_mem_tab_of_mem_words (text : Text) {word : Text} (h : word ∈ words text) :
    '\t' ∉ word :=
  fun tab ↦ absurd (isBlank_of_mem_words h _ tab) (by decide)

private theorem wordLength_of_not_opens (columns : Int) {c : Char} (h : opens c = false)
    (rest : Text)
    (column : Int) : wordLength columns (c :: rest) column = 1 + solidLength rest := by
  have none : closerOf c = none := by simpa [opens] using h
  cases rest with
  | nil => rfl
  | cons d behind => simp [wordLength, none]

variable (columns indentation : Int)

/-- Places words one behind the other. -/
def fillWords : List Text → Int → Bool → List PlacedWord
  | [], _, _ => []
  | word :: rest, column, atLineStart =>
    let placed := placeWord columns indentation column atLineStart word
    placed :: fillWords rest (placed.endColumn column) false

private theorem fillParagraph_of_plainWords {text : Text} (plain : PlainWords text) (column : Int)
    (atLineStart : Bool) :
    fillParagraph columns indentation text column atLineStart =
      fillWords columns indentation (words text) column atLineStart := by
  fun_induction fillParagraph columns indentation text column atLineStart with
  | case1 text column atLineStart none =>
    rw [words_eq_nil (List.dropWhile_eq_nil_iff.mp none)]
    rfl
  | case2 text column atLineStart c rest found length placed ih =>
    have solid : isBlank c = false := isBlank_of_dropWhile found
    have cut : words text =
        (c :: rest.take (solidLength rest)) :: words (rest.drop (solidLength rest)) := by
      rw [← words_dropWhile, found, words_cons solid]
    rw [PlainWords, cut] at plain
    obtain ⟨first, later⟩ := List.forall_mem_cons.mp plain
    have size : length = solidLength rest + 1 :=
      (wordLength_of_not_opens columns first rest column).trans (Nat.add_comm _ _)
    have behind : rest.drop (length - 1) = rest.drop (solidLength rest) := by
      rw [size, Nat.add_sub_cancel]
    have word : (c :: rest).take length = c :: rest.take (solidLength rest) := by
      rw [size, List.take_succ_cons]
    rw [cut, fillWords, ← word]
    exact congrArg (placed :: ·) (behind ▸ ih (behind.symm ▸ later))

/-! ## Lines of words -/

/-- The start of a line that begins with a word: the indentation, or if the word does not fit
behind it, the rightmost column at which it fits. -/
structure StartsLine (columns indentation : Int) (word : Text) (start : Int) : Prop where
  indented : indentation + displayWidth word ≤ columns → start = indentation
  pulled : columns < indentation + displayWidth word → displayWidth word ≤ columns →
    IsGreatest {place : Int | place + displayWidth word ≤ columns} start

/-- A line that holds words keeps to the width, or it is one word that fits no line and starts in
the first column. -/
def UnitLine.Fits (columns : Int) (line : UnitLine) : Prop :=
  line.units ≠ [] → displayWidth line.text ≤ columns ∨
    ∃ word, line.units = [word] ∧ columns < displayWidth word ∧ line.start = 0

/-- A block of lines that is filled greedily with words: every line but the first was begun because
its first word did not fit behind the line in front of it. -/
structure GreedyBlock (columns indentation : Int) (words : List Text) (block : List UnitLine) :
    Prop where
  holds : block.flatMap (·.units) = words
  fits : ∀ line ∈ block, line.Fits columns
  necessary : block.IsChain fun line next ↦
    ∃ word ∈ next.units.head?, columns < displayWidth (line.push word).text
  starts : ∀ line ∈ block.tail, ∀ word ∈ line.units.head?,
    StartsLine columns indentation word line.start

/-- A line that can be measured: it starts on the line and holds no tab. -/
structure UnitLine.Measured (line : UnitLine) : Prop where
  forward : 0 ≤ line.start
  tabFree : ∀ unit ∈ line.units, '\t' ∉ unit

/-- A line that can be measured ends where it stops. -/
theorem UnitLine.Measured.displayWidth_eq {line : UnitLine} (h : line.Measured) :
    displayWidth line.text = line.stop := displayWidth_text h.forward h.tabFree

/-- A line with one word more can be measured. -/
theorem UnitLine.Measured.push {line : UnitLine} (h : line.Measured) {word : Text}
    (tabFree : '\t' ∉ word) : (line.push word).Measured where
  forward := h.forward
  tabFree := List.forall_mem_append.mpr ⟨h.tabFree, List.forall_mem_singleton.mpr tabFree⟩

private theorem startsLine_continuationColumn (word : Text) :
    StartsLine columns indentation word
      (continuationColumn columns indentation (displayWidth word)) where
  indented := fun fits ↦ if_pos fits
  pulled := by
    intro wide short
    rw [continuationColumn, if_neg (by omega)]
    constructor
    · show max 0 (columns - displayWidth word) + displayWidth word ≤ columns
      omega
    · intro place (fits : place + displayWidth word ≤ columns)
      omega

/-- The line that a word starts where it continues a message. -/
def continuationLine (word : Text) : UnitLine :=
  ⟨continuationColumn columns indentation (displayWidth word), [word]⟩

/-- A line that a word starts can be measured. -/
theorem measured_continuationLine (positive : 0 ≤ indentation) {word : Text}
    (tabFree : '\t' ∉ word) : (continuationLine columns indentation word).Measured where
  forward := continuationColumn_nonneg columns indentation positive _
  tabFree := List.forall_mem_singleton.mpr tabFree

/-- A line that a word starts stops behind the word. -/
theorem stop_continuationLine {word : Text} (tabFree : '\t' ∉ word) :
    (continuationLine columns indentation word).stop =
      continuationColumn columns indentation (displayWidth word) + displayWidth word := by
  have width : displayWidth word = glyphWidth word := displayWidth_of_not_mem_tab tabFree
  show continuationColumn columns indentation (displayWidth word) + glyphWidth word = _
  rw [← width]

private theorem fits_continuationLine (positive : 0 ≤ indentation) {word : Text}
    (tabFree : '\t' ∉ word) :
    (continuationLine columns indentation word).Fits columns := by
  intro _
  rw [(measured_continuationLine columns indentation positive tabFree).displayWidth_eq,
    stop_continuationLine columns indentation tabFree]
  by_cases fits : displayWidth word ≤ columns
  · left
    unfold continuationColumn
    split <;> omega
  · right
    refine ⟨word, rfl, by omega, ?_⟩
    show continuationColumn columns indentation (displayWidth word) = 0
    unfold continuationColumn
    rw [if_neg (by omega)]
    omega

/-- A word goes on with a line that fits with it, or it does not fit behind the line and starts the
next. -/
theorem placeWord_step {line : UnitLine} (measured : line.Measured) {word : Text}
    (tabFree : '\t' ∉ word) :
    placeWord columns indentation line.stop line.units.isEmpty word = ⟨false, line.gap, word⟩ ∧
        (line.push word).Fits columns ∨
      placeWord columns indentation line.stop line.units.isEmpty word =
          ⟨true, continuationColumn columns indentation (displayWidth word), word⟩ ∧
        columns < displayWidth (line.push word).text := by
  have width : displayWidth word = glyphWidth word := displayWidth_of_not_mem_tab tabFree
  have reach : displayWidth (line.push word).text = line.stop + line.gap + displayWidth word := by
    rw [(measured.push tabFree).displayWidth_eq, line.stop_push, width]
  rcases placeWord_cases columns indentation line.stop line.units.isEmpty word with
    ⟨here, room⟩ | ⟨here, tooFar, -⟩
  · refine Or.inl ⟨here, fun _ ↦ ?_⟩
    rw [reach]
    rcases room with fits | ⟨first, noGain⟩
    · exact Or.inl fits
    · -- Nothing is gained by a break: the line is empty, and the word fits none or this one.
      have units : line.units = [] := List.isEmpty_iff.mp first
      have gap : line.gap = 0 := by rw [UnitLine.gap, first]; rfl
      have stop : line.stop = line.start := by
        rw [UnitLine.stop, units]
        simp [join, glyphWidth]
      have forward := measured.forward
      by_cases fits : line.start + displayWidth word ≤ columns
      · left
        omega
      · right
        refine ⟨word, by rw [UnitLine.push, units]; rfl, ?_⟩
        show columns < displayWidth word ∧ line.start = 0
        unfold continuationColumn at noGain
        split at noGain <;> omega
  · exact Or.inr ⟨here, reach ▸ tooFar⟩

/-- A line in front of a greedy block that begins with a word that does not fit behind the line. -/
theorem GreedyBlock.cons {words : List Text} {line next : UnitLine} {rest : List UnitLine}
    {word : Text} (h : GreedyBlock columns indentation words (next :: rest))
    (fits : line.Fits columns) (first : word ∈ next.units.head?)
    (tooFar : columns < displayWidth (line.push word).text)
    (starts : StartsLine columns indentation word next.start) :
    GreedyBlock columns indentation (line.units ++ words) (line :: next :: rest) where
  holds := by rw [List.flatMap_cons, h.holds]
  fits := List.forall_mem_cons.mpr ⟨fits, h.fits⟩
  necessary := List.isChain_cons_cons.mpr ⟨⟨word, first, tooFar⟩, h.necessary⟩
  starts := by
    refine List.forall_mem_cons.mpr ⟨fun other here ↦ ?_, h.starts⟩
    rw [Option.mem_unique here first]
    exact starts

/-- The lines of words that are placed from a line on: the first word goes on with the line, which
fits with it, or it does not fit behind the line and starts the next. -/
theorem linesFrom_fillWords_step {line : UnitLine} (measured : line.Measured) {word : Text}
    (tabFree : '\t' ∉ word) (rest : List Text) :
    linesFrom line (fillWords columns indentation (word :: rest) line.stop line.units.isEmpty) =
          linesFrom (line.push word)
            (fillWords columns indentation rest (line.push word).stop false) ∧
        (line.push word).Fits columns ∨
      linesFrom line (fillWords columns indentation (word :: rest) line.stop line.units.isEmpty) =
          line :: linesFrom (continuationLine columns indentation word) (fillWords columns
            indentation rest (continuationLine columns indentation word).stop false) ∧
        columns < displayWidth (line.push word).text := by
  have width : displayWidth word = glyphWidth word := displayWidth_of_not_mem_tab tabFree
  rcases placeWord_step columns indentation measured tabFree with ⟨placed, fits⟩ | ⟨placed, tooFar⟩
  · have stop :
        (PlacedWord.mk false line.gap word).endColumn line.stop = (line.push word).stop := by
      rw [line.stop_push, ← width]
      rfl
    refine Or.inl ⟨?_, fits⟩
    rw [fillWords, placed, stop]
    rfl
  · have stop : (PlacedWord.mk true (continuationColumn columns indentation (displayWidth word))
        word).endColumn line.stop = (continuationLine columns indentation word).stop :=
      (stop_continuationLine columns indentation tabFree).symm
    refine Or.inr ⟨?_, tooFar⟩
    rw [fillWords, placed, stop]
    rfl

private theorem greedyBlock_linesFrom (positive : 0 ≤ indentation) {words : List Text}
    (tabFree : ∀ word ∈ words, '\t' ∉ word) {line : UnitLine} (measured : line.Measured)
    (fits : line.Fits columns) :
    GreedyBlock columns indentation (line.units ++ words)
      (linesFrom line (fillWords columns indentation words line.stop line.units.isEmpty)) := by
  induction words generalizing line with
  | nil =>
    exact ⟨by simp [linesFrom, fillWords], List.forall_mem_singleton.mpr fits,
      List.isChain_singleton line, List.forall_mem_nil _⟩
  | cons word rest ih =>
    obtain ⟨here, later⟩ := List.forall_mem_cons.mp tabFree
    rcases linesFrom_fillWords_step columns indentation measured here rest with
      ⟨lines, fits⟩ | ⟨lines, tooFar⟩
    · have filled := ih later (measured.push here) fits
      have some : (line.push word).units.isEmpty = false := by simp [UnitLine.push]
      have units : line.units ++ word :: rest = (line.push word).units ++ rest :=
        (List.append_assoc line.units [word] rest).symm
      rw [some] at filled
      rw [lines, units]
      exact filled
    · obtain ⟨behind, others, next⟩ := exists_linesFrom_eq_cons
        (continuationLine columns indentation word)
        (fillWords columns indentation rest (continuationLine columns indentation word).stop false)
      have block : GreedyBlock columns indentation (word :: rest) (linesFrom
          (continuationLine columns indentation word) (fillWords columns indentation rest
            (continuationLine columns indentation word).stop false)) :=
        ih later (measured_continuationLine columns indentation positive here)
          (fits_continuationLine columns indentation positive here)
      rw [next] at block
      rw [lines, next]
      exact block.cons columns indentation fits rfl tooFar
        (startsLine_continuationColumn columns indentation word)

/-! ## Paragraphs -/

/-- A paragraph in which no word starts with an opener is filled greedily. -/
theorem greedyBlock_fillParagraph (positive : 0 ≤ indentation) {paragraph : Text}
    (plain : PlainWords paragraph) {column : Int} (start : 0 ≤ column) :
    GreedyBlock columns indentation (words paragraph)
      (linesFrom ⟨column, []⟩ (fillParagraph columns indentation paragraph column true)) := by
  have measured : (UnitLine.mk column []).Measured := ⟨start, List.forall_mem_nil _⟩
  have block := greedyBlock_linesFrom columns indentation positive
    (fun _ ↦ not_mem_tab_of_mem_words paragraph) measured fun some ↦ absurd rfl some
  rw [UnitLine.stop_mk_nil] at block
  rw [fillParagraph_of_plainWords columns indentation plain]
  exact block

/-- The first word of a line that starts at the indentation starts it as it has to: it fits, or it
fits no line. -/
theorem startsLine_of_fits {line : UnitLine} (measured : line.Measured) (fits : line.Fits columns)
    (start : line.start = indentation) {word : Text} (first : word ∈ line.units.head?) :
    StartsLine columns indentation word line.start := by
  have member : word ∈ line.units := List.mem_of_mem_head? first
  have width : displayWidth word = glyphWidth word :=
    displayWidth_of_not_mem_tab (measured.tabFree word member)
  have reach := UnitLine.start_add_glyphWidth_le_stop member
  refine ⟨fun _ ↦ start, fun tooFar short ↦ ?_⟩
  rcases fits (List.ne_nil_of_mem member) with inside | ⟨only, units, wide, -⟩
  · rw [measured.displayWidth_eq] at inside
    omega
  · rw [units, List.mem_singleton] at member
    rw [member] at short
    omega

variable {paragraphs : List Text}

private theorem forall₂_greedyBlock (positive : 0 ≤ indentation)
    (plain : ∀ paragraph ∈ paragraphs, PlainWords paragraph) {column : Int} (start : 0 ≤ column) :
    List.Forall₂ (GreedyBlock columns indentation) (paragraphs.map words)
      (paragraphBlocks columns indentation paragraphs column) := by
  induction paragraphs generalizing column with
  | nil => exact List.Forall₂.nil
  | cons paragraph rest ih =>
    obtain ⟨here, later⟩ := List.forall_mem_cons.mp plain
    exact List.Forall₂.cons (greedyBlock_fillParagraph columns indentation positive here start)
      (ih later positive)

private theorem start_of_mem_paragraphBlocks (positive : 0 ≤ indentation)
    (plain : ∀ paragraph ∈ paragraphs, PlainWords paragraph) :
    ∀ block ∈ paragraphBlocks columns indentation paragraphs indentation,
      ∃ line rest, block = line :: rest ∧ line.start = indentation ∧
        ∀ word ∈ line.units.head?, StartsLine columns indentation word line.start := by
  induction paragraphs with
  | nil => exact List.forall_mem_nil _
  | cons paragraph rest ih =>
    obtain ⟨here, later⟩ := List.forall_mem_cons.mp plain
    refine List.forall_mem_cons.mpr ⟨?_, ih later⟩
    have block := greedyBlock_fillParagraph columns indentation positive here positive
    obtain ⟨behind, others, first⟩ := exists_linesFrom_eq_cons ⟨indentation, []⟩
      (fillParagraph columns indentation paragraph indentation true)
    rw [first] at block
    have measured : (UnitLine.mk indentation ([] ++ behind)).Measured := by
      refine ⟨positive, fun unit member ↦ not_mem_tab_of_mem_words paragraph ?_⟩
      rw [← block.holds]
      exact List.mem_append_left _ member
    have fits := block.fits _ List.mem_cons_self
    exact ⟨_, others, first, rfl,
      fun word head ↦ startsLine_of_fits columns indentation measured fits rfl head⟩

/-! ## Messages -/

/-- Lines that are filled greedily with the words of the parts of a message, a block for each part:
the first of all starts at `column`, and the first of every other block at the indentation, as a
word there would have to. -/
structure GreedyLines (columns column indentation : Int) (parts : List (List Text))
    (lines : List Text) (blocks : List (List UnitLine)) : Prop where
  shown : lines = blocks.flatten.map (·.text)
  filled : List.Forall₂ (GreedyBlock columns indentation) parts blocks
  first : ∃ line rest others, blocks = (line :: rest) :: others ∧ line.start = column
  later : ∀ block ∈ blocks.tail, ∃ line rest, block = line :: rest ∧ line.start = indentation ∧
    ∀ word ∈ line.units.head?, StartsLine columns indentation word line.start

/-- The words of a part of a plain message start with no opener. -/
theorem PlainWords.part {message : Text} (plain : PlainWords message) {part : Text}
    (h : part ∈ splitAt '\n' message) : PlainWords part := by
  intro word member
  apply plain
  rw [← flatMap_words_splitAt]
  exact List.mem_flatMap.mpr ⟨part, h, member⟩

/-- Wrapping a message in which no word starts with an opener fills lines greedily. Counted from
the column at which the message starts, a line that holds words keeps to the width, or it is one
word that fits no line and starts in the first column; a word on a new line starts at the
indentation, or if it does not fit behind it, at the rightmost column at which it fits; and between
two lines of one part of the message the break is necessary. -/
theorem plain_message_filled_greedily {message : Text} {columns column : Int}
    {indentation : Option Int} (plain : PlainWords message) (start : 0 ≤ column)
    (forward : ∀ margin ∈ indentation, 0 ≤ margin) :
    ∃ blocks, GreedyLines columns column (indentation.getD (defaultIndentation columns column))
      ((splitAt '\n' message).map words)
      (splitAt '\n' (blanks column ++ (wrap message columns column indentation).text)) blocks := by
  have positive : 0 ≤ indentation.getD (defaultIndentation columns column) := by
    cases indentation with
    | none => exact defaultIndentation_nonneg start
    | some margin => exact forward margin rfl
  have lines := splitAt_wrap message columns column indentation
  generalize indentation.getD (defaultIndentation columns column) = margin at positive lines ⊢
  have filled := forall₂_greedyBlock columns margin positive (fun _ ↦ plain.part) start
  refine ⟨paragraphBlocks columns margin (splitAt '\n' message) column, ?shown, filled, ?first,
    ?later⟩
  case shown => rw [lines, flatten_paragraphBlocks]
  all_goals
    obtain ⟨part, parts, cut⟩ := List.exists_cons_of_ne_nil (splitAt_ne_nil '\n' message)
    rw [cut, paragraphBlocks]
  case first =>
    obtain ⟨behind, rest, head⟩ := exists_linesFrom_eq_cons ⟨column, []⟩
      (fillParagraph columns margin part column true)
    exact ⟨_, rest, _, by rw [head], rfl⟩
  case later =>
    exact start_of_mem_paragraphBlocks columns margin positive fun paragraph member ↦
      plain.part (cut ▸ List.mem_cons_of_mem part member)

/-- A word that fits behind the indentation no more is pulled to the left, and one that fits no line
starts in the first column. -/
theorem long_words_filled_greedily :
    PlainWords "aaa bbbbbbbb\ncccccccccccc".toList ∧ (0 : Int) ≤ 4 ∧
      (∀ margin ∈ (none : Option Int), 0 ≤ margin) ∧
      ∃ blocks, GreedyLines 10 4 4 [["aaa".toList, "bbbbbbbb".toList], ["cccccccccccc".toList]]
        ["    aaa".toList, "  bbbbbbbb".toList, "    ".toList, "cccccccccccc".toList] blocks := by
  have plain : PlainWords "aaa bbbbbbbb\ncccccccccccc".toList := by decide +kernel
  have none_forward : ∀ margin ∈ (none : Option Int), 0 ≤ margin := by simp
  have lines : splitAt '\n' (blanks 4 ++
      (wrap "aaa bbbbbbbb\ncccccccccccc".toList 10 4 none).text) =
        ["    aaa".toList, "  bbbbbbbb".toList, "    ".toList, "cccccccccccc".toList] := by
    decide +kernel
  have parts : (splitAt '\n' "aaa bbbbbbbb\ncccccccccccc".toList).map words =
      [["aaa".toList, "bbbbbbbb".toList], ["cccccccccccc".toList]] := by decide +kernel
  have filled := @plain_message_filled_greedily _ 10 4 none plain (by decide) none_forward
  rw [lines, parts] at filled
  exact ⟨plain, by decide, none_forward, filled⟩

end Caret.Text
