import Caret.Proofs.Text.Runs
import Caret.Proofs.Text.Units
import Caret.Proofs.Text.WrappedLines

/-!
# The words of a wrapped message

Wrapping moves words and changes none. A unit ends in front of white space or with the text, also
where a passage was given up on the way, so that no word is parted; and a unit stands behind the
start of a line, a blank or a line break, so that no two words are joined. The line breaks of a
wrapped message are its own, and one in front of each unit that was placed on a new line.
-/

namespace Caret.Text

/-! ## Where units end -/

/-- Behind a run without white space the text ends or white space follows. -/
theorem isBlank_of_mem_head?_drop_solidLength (text : Text) :
    ∀ c ∈ (text.drop (solidLength text)).head?, isBlank c = true := by
  intro c first
  rw [List.head?_drop] at first
  simpa using getElem?_length_takeWhile first

private theorem isBlank_of_mem_head?_drop_wordLength (columns : Int) (text : Text) (column : Int) :
    ∀ c ∈ (text.drop (wordLength columns text column)).head?, isBlank c = true := by
  fun_induction wordLength columns text column with
  | case1 column => simp
  | case2 c column => simp
  | case3 c rest column _ _ =>
    rw [Nat.add_comm, List.drop_succ_cons]
    exact isBlank_of_mem_head?_drop_solidLength rest
  | case4 c rest column _ closer opener passage length room =>
    have behind : (c :: rest).drop length =
        (rest.drop passage).drop (solidLength (rest.drop passage)) := by
      rw [List.drop_drop, show length = passage + solidLength (rest.drop passage) + 1 by omega,
        List.drop_succ_cons]
    rw [behind]
    exact isBlank_of_mem_head?_drop_solidLength _
  | case5 c rest column _ closer opener passage length room ih =>
    rw [Nat.add_comm, List.drop_succ_cons]
    exact ih

/-! ## Words of placed units -/

private theorem words_text (placed : PlacedWord) : words placed.text = words placed.word := by
  unfold PlacedWord.text
  rw [List.append_assoc]
  split
  · rw [words_append_of_isBlank (List.forall_mem_singleton.mpr (by decide)), words_blanks_append]
  · rw [List.nil_append, words_blanks_append]

private theorem exists_text_placeWord_eq (columns indentation column : Int) (word : Text) :
    ∃ blank rest, (placeWord columns indentation column false word).text = blank :: rest ∧
      isBlank blank = true := by
  rcases placeWord_cases columns indentation column false word with ⟨here, -⟩ | ⟨here, -⟩
  · exact ⟨' ', word, by rw [here]; rfl, by decide⟩
  · exact ⟨'\n', _, by rw [here]; rfl, by decide⟩

variable (columns indentation : Int)

/-- The units of a paragraph behind the first of a line have white space in front of them. -/
theorem isBlank_of_mem_head?_fillParagraph (text : Text) (column : Int) :
    ∀ c ∈ ((fillParagraph columns indentation text column false).flatMap (·.text)).head?,
      isBlank c = true := by
  intro c first
  rw [fillParagraph] at first
  split at first
  · cases first
  · next d rest found =>
    obtain ⟨blank, others, shown, isBlank⟩ := exists_text_placeWord_eq columns indentation column
      ((d :: rest).take (wordLength columns (d :: rest) column))
    rw [List.flatMap_cons, shown] at first
    cases first
    exact isBlank

private theorem words_flatMap_fillParagraph (text : Text) (column : Int) (atLineStart : Bool) :
    words ((fillParagraph columns indentation text column atLineStart).flatMap (·.text)) =
      words text := by
  fun_induction fillParagraph columns indentation text column atLineStart with
  | case1 text column atLineStart none =>
    rw [words_eq_nil (List.dropWhile_eq_nil_iff.mp none)]
    rfl
  | case2 text column atLineStart c rest found length placed ih =>
    have same : placed.word = (c :: rest).take length := word_placeWord ..
    have positive : 0 < length := wordLength_pos columns (List.cons_ne_nil c rest) column
    have behind : rest.drop (length - 1) = (c :: rest).drop length := by
      rw [← List.drop_succ_cons (a := c), Nat.sub_one_add_one_eq_of_pos positive]
    have units : words (c :: rest) = words placed.word ++ words (rest.drop (length - 1)) := by
      rw [behind, same, ← words_append _ (isBlank_of_mem_head?_drop_wordLength columns _ column),
        List.take_append_drop]
    rw [List.flatMap_cons, words_append _ (isBlank_of_mem_head?_fillParagraph _ _ _ _),
      words_text, ih, ← words_dropWhile text, found, units]

private theorem flatMap_words_fillParagraphs (paragraphs : List Text) (column : Int) :
    ((fillParagraphs columns indentation paragraphs column).map fun filled ↦
        filled.flatMap (·.text)).flatMap words = paragraphs.flatMap words := by
  induction paragraphs generalizing column with
  | nil => rfl
  | cons paragraph rest ih =>
    rw [fillParagraphs, List.map_cons, List.flatMap_cons, List.flatMap_cons,
      words_flatMap_fillParagraph, ih]

/-! ## Line breaks -/

/-- Blanks hold no line break. -/
theorem count_newline_blanks (count : Int) : (blanks count).count '\n' = 0 :=
  List.count_eq_zero.mpr fun mark ↦ absurd (List.eq_of_mem_replicate mark) (by decide)

/-- Each of the texts that are joined with a line break and blanks is parted from the one behind it
by one line break. -/
theorem count_join_add_one {pieces : List Text} (h : pieces ≠ []) (indentation : Int) :
    (join ('\n' :: blanks indentation) pieces).count '\n' + 1 =
      pieces.length + pieces.flatten.count '\n' := by
  induction pieces with
  | nil => exact absurd rfl h
  | cons piece rest ih =>
    cases rest with
    | nil => simp [join, Nat.add_comm]
    | cons next others =>
      have ih := ih (List.cons_ne_nil next others)
      rw [join_cons (List.cons_ne_nil next others), List.count_append, List.count_append,
        List.count_cons_self, count_newline_blanks, List.flatten_cons, List.count_append,
        List.length_cons]
      omega

private theorem count_add_one (message : Text) :
    message.count '\n' + 1 = (splitAt '\n' message).length := by
  have joined := count_join_add_one (splitAt_ne_nil '\n' message) 0
  have none : (splitAt '\n' message).flatten.count '\n' = 0 := by
    refine List.count_eq_zero.mpr fun mark ↦ ?_
    obtain ⟨part, inside, here⟩ := List.mem_flatten.mp mark
    exact not_mem_of_mem_splitAt inside here
  have same : join ('\n' :: blanks 0) (splitAt '\n' message) = message := join_splitAt '\n' message
  rw [same, none] at joined
  exact joined

private theorem count_flatMap_text {filled : List PlacedWord}
    (h : ∀ placed ∈ filled, '\n' ∉ placed.word) :
    (filled.flatMap (·.text)).count '\n' = filled.countP (·.breaksLine) := by
  induction filled with
  | nil => rfl
  | cons placed rest ih =>
    obtain ⟨here, later⟩ := List.forall_mem_cons.mp h
    have own : placed.text.count '\n' = if placed.breaksLine then 1 else 0 := by
      unfold PlacedWord.text
      rw [List.count_append, List.count_append, count_newline_blanks, List.count_eq_zero.mpr here]
      split <;> rfl
    rw [List.flatMap_cons, List.count_append, own, ih later, List.countP_cons, Nat.add_comm]

private theorem length_fillParagraphs (paragraphs : List Text) (column : Int) :
    (fillParagraphs columns indentation paragraphs column).length = paragraphs.length := by
  induction paragraphs generalizing column with
  | nil => rfl
  | cons paragraph rest ih => rw [fillParagraphs, List.length_cons, List.length_cons, ih]

/-! ## Messages -/

/-- The units of a message as they are placed, those of each of its parts together. -/
def placedUnits (message : Text) (columns column : Int) (indentation : Option Int) :
    List (List PlacedWord) :=
  fillParagraphs columns (indentation.getD (defaultIndentation columns column))
    (splitAt '\n' message) column

/-- The number of line breaks that wrapping adds to a message: one for each unit that is placed on
a new line. -/
def addedBreaks (message : Text) (columns column : Int) (indentation : Option Int) : Nat :=
  (placedUnits message columns column indentation).flatten.countP (·.breaksLine)

section Message

variable (message : Text) (columns column : Int) (indentation : Option Int)

/-- A wrapped message is its placed units, with a line break and the indentation between parts. -/
theorem text_wrap :
    (wrap message columns column indentation).text =
      join ('\n' :: blanks (indentation.getD (defaultIndentation columns column)))
        ((placedUnits message columns column indentation).map fun filled ↦
          filled.flatMap (·.text)) := rfl

private theorem words_wrap :
    words (wrap message columns column indentation).text = words message := by
  have white : ∀ c ∈ '\n' :: blanks (indentation.getD (defaultIndentation columns column)),
      isBlank c = true :=
    List.forall_mem_cons.mpr ⟨by decide, fun _ ↦ isBlank_of_mem_blanks⟩
  calc words (wrap message columns column indentation).text
    _ = (splitAt '\n' message).flatMap words := by
      rw [text_wrap, words_join (List.cons_ne_nil _ _) white, placedUnits,
        flatMap_words_fillParagraphs]
    _ = words message := flatMap_words_splitAt message

private theorem count_text_wrap :
    (wrap message columns column indentation).text.count '\n' =
      message.count '\n' + addedBreaks message columns column indentation := by
  have parts : (placedUnits message columns column indentation).length =
      (splitAt '\n' message).length := length_fillParagraphs columns _ _ column
  have some : ((placedUnits message columns column indentation).map fun filled ↦
      filled.flatMap (·.text)) ≠ [] := by
    rw [← List.length_pos_iff, List.length_map, parts, List.length_pos_iff]
    exact splitAt_ne_nil '\n' message
  have joined := count_join_add_one some (indentation.getD (defaultIndentation columns column))
  have own := count_add_one message
  have added : (((placedUnits message columns column indentation).map fun filled ↦
      filled.flatMap (·.text)).flatten).count '\n' =
        addedBreaks message columns column indentation := by
    have units := count_flatMap_text (not_mem_of_mem_fillParagraphs columns
      (indentation.getD (defaultIndentation columns column)) message column)
    rw [List.flatMap_def, List.map_flatten, List.flatten_flatten, List.map_map] at units
    exact units
  rw [← text_wrap, List.length_map, parts, added] at joined
  omega

private theorem broken_wrap_iff :
    (wrap message columns column indentation).broken = true ↔
      0 < addedBreaks message columns column indentation := by
  unfold wrap addedBreaks placedUnits
  simp only [List.countP_pos_iff, List.any_eq_true, List.mem_flatten]
  constructor
  · rintro ⟨filled, inside, placed, member, breaks⟩
    exact ⟨placed, ⟨filled, inside, member⟩, breaks⟩
  · rintro ⟨placed, ⟨filled, inside, member⟩, breaks⟩
    exact ⟨filled, inside, placed, member, breaks⟩

end Message

/-- Wrapping never alters the words of a message. A wrapped message has its own line breaks and
those that were added, and it counts as broken if and only if there is one of these, that is if it
has more line breaks than before. -/
theorem wrapped_message_keeps_words (message : Text) (columns column : Int)
    (indentation : Option Int) :
    words (wrap message columns column indentation).text = words message ∧
      (wrap message columns column indentation).text.count '\n' =
        message.count '\n' + addedBreaks message columns column indentation ∧
      ((wrap message columns column indentation).broken = true ↔
        0 < addedBreaks message columns column indentation) ∧
      ((wrap message columns column indentation).broken = true ↔
        message.count '\n' < (wrap message columns column indentation).text.count '\n') := by
  have breaks := count_text_wrap message columns column indentation
  have broken := broken_wrap_iff message columns column indentation
  refine ⟨words_wrap message columns column indentation, breaks, broken, broken.trans ?_⟩
  rw [breaks]
  exact Nat.lt_add_right_iff_pos.symm

end Caret.Text
