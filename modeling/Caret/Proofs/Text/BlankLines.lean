import Caret.Proofs.Text.WrappedLines
import Mathlib.Data.List.TakeWhile

/-!
# Blank lines of a wrapped message

A line break of a message is followed by the indentation before the next unit is placed. A unit
that does not fit behind it is pulled to the left, on a line of its own, and the line with the
indentation stays blank. There is no other way to a blank line: in front of a line that was added
stands a unit, and it starts with one.
-/

namespace Caret.Text

/-- Whether a line is white space only. -/
def isBlankLine (line : Text) : Bool := line.all isBlank

/-- The unit that a part of a message starts with, where the part stands at a column. -/
def firstUnit (columns column : Int) (part : Text) : Text :=
  (trimStart part).take (wordLength columns (trimStart part) column)

/-- Whether a part of a message leaves the line blank that it starts: it has no unit, or its first
one does not fit behind the indentation and is pulled to the left. -/
def leavesBlank (columns indentation : Int) (part : Text) : Bool :=
  isBlankLine part ||
    (0 < indentation && columns < indentation + displayWidth (firstUnit columns indentation part))

private theorem tail_splitAt_append {mark : Char} {front : Text} (h : mark ∉ front)
    (behind : Text) :
    (splitAt mark (front ++ behind)).tail = (splitAt mark behind).tail := by
  induction front with
  | nil => rfl
  | cons c rest ih =>
    rw [List.mem_cons, not_or] at h
    obtain ⟨piece, pieces, cut⟩ := List.exists_cons_of_ne_nil (splitAt_ne_nil mark (rest ++ behind))
    rw [← ih h.2, List.cons_append, splitAt, cut]
    simp [Ne.symm h.1]

/-! ## Lines with units -/

private theorem isBlankLine_text_of_mem {line : UnitLine} {unit : Text} (h : unit ∈ line.units)
    (solid : StartsSolid unit) : isBlankLine line.text = false := by
  obtain ⟨c, first, solid⟩ := solid
  have inside : c ∈ line.text :=
    List.mem_append_right _ ((infix_join [' '] h).subset (List.mem_of_mem_head? first))
  rw [isBlankLine, List.all_eq_false]
  exact ⟨c, inside, by simp [solid]⟩

/-- A line without units is blank. -/
theorem isBlankLine_text_of_nil (start : Int) : isBlankLine (UnitLine.mk start []).text = true := by
  rw [isBlankLine, List.all_eq_true]
  intro c member
  rw [UnitLine.text, List.mem_append] at member
  rcases member with margin | none
  · rw [List.eq_of_mem_replicate margin]
    decide
  · cases none

/-- No line of units is blank if each line holds one. -/
theorem countP_isBlankLine_eq_zero {lines : List UnitLine} (some : ∀ line ∈ lines, line.units ≠ [])
    (solid : ∀ unit ∈ lines.flatMap (·.units), StartsSolid unit) :
    lines.countP (fun line ↦ isBlankLine line.text) = 0 := by
  rw [List.countP_eq_zero]
  intro line member
  obtain ⟨unit, units, first⟩ := List.exists_cons_of_ne_nil (some line member)
  have here : unit ∈ line.units := first ▸ List.mem_cons_self
  rw [isBlankLine_text_of_mem here (solid unit (List.mem_flatMap.mpr ⟨line, member, here⟩))]
  exact Bool.false_ne_true

/-- Behind a line that holds a unit no line of placed units is blank. -/
theorem countP_linesFrom_of_ne_nil {line : UnitLine} {placed : List PlacedWord}
    (some : line.units ≠ []) (own : ∀ unit ∈ line.units, StartsSolid unit)
    (solid : ∀ word ∈ placed, StartsSolid word.word) :
    (linesFrom line placed).countP (fun line ↦ isBlankLine line.text) = 0 := by
  apply countP_isBlankLine_eq_zero
  · have behind := units_ne_nil_of_mem_tail_linesFrom line placed
    obtain ⟨units, others, first⟩ := exists_linesFrom_eq_cons line placed
    rw [first] at behind ⊢
    exact List.forall_mem_cons.mpr ⟨List.append_ne_nil_of_left_ne_nil some _, behind⟩
  · rw [flatMap_units_linesFrom]
    exact List.forall_mem_append.mpr ⟨own, List.forall_mem_map.mpr solid⟩

private theorem countP_tail_linesFrom (start : Int) {placed : List PlacedWord}
    (solid : ∀ word ∈ placed, StartsSolid word.word) :
    (linesFrom ⟨start, []⟩ placed).tail.countP (fun line ↦ isBlankLine line.text) = 0 := by
  apply countP_isBlankLine_eq_zero (units_ne_nil_of_mem_tail_linesFrom ⟨start, []⟩ placed)
  intro unit member
  refine List.forall_mem_map.mpr solid unit ?_
  obtain ⟨line, behind, here⟩ := List.mem_flatMap.mp member
  have whole := flatMap_units_linesFrom ⟨start, []⟩ placed
  rw [List.nil_append] at whole
  rw [← whole]
  exact List.mem_flatMap.mpr ⟨line, List.mem_of_mem_tail behind, here⟩

/-! ## Parts of a message -/

variable (columns indentation : Int)

/-- A unit behind the indentation is pulled to the left if it does not fit there and there is an
indentation. -/
theorem breaksLine_placeWord_iff (word : Text) :
    (placeWord columns indentation indentation true word).breaksLine = true ↔
      0 < indentation ∧ columns < indentation + displayWidth word := by
  rcases placeWord_cases columns indentation indentation true word with
    ⟨here, room⟩ | ⟨here, tooFar, gain⟩
  · rw [here]
    refine iff_of_false Bool.false_ne_true ?_
    rcases room with fits | ⟨-, noGain⟩
    · simp only [if_true] at fits
      omega
    · unfold continuationColumn at noGain
      split at noGain <;> omega
  · rw [here]
    refine iff_of_true rfl ?_
    have gain := gain rfl
    simp only [if_true] at tooFar
    unfold continuationColumn at gain
    rw [if_neg (by omega)] at gain
    omega

/-- A part that is not blank leaves its line blank if its first unit is pulled to the left. -/
theorem leavesBlank_eq {part rest : Text} {c : Char}
    (found : part.dropWhile isBlank = c :: rest) :
    leavesBlank columns indentation part =
      (placeWord columns indentation indentation true
        ((c :: rest).take (wordLength columns (c :: rest) indentation))).breaksLine := by
  have solid : isBlankLine part = false := by
    refine Bool.eq_false_iff.mpr fun blank ↦ ?_
    rw [isBlankLine, List.all_eq_true, ← List.dropWhile_eq_nil_iff, found] at blank
    cases blank
  rw [leavesBlank, solid, firstUnit, trimStart, found, Bool.false_or, Bool.eq_iff_iff,
    breaksLine_placeWord_iff, Bool.and_eq_true, decide_eq_true_eq, decide_eq_true_eq]

/-- A part behind a line break has one blank line if it leaves the line blank that it starts, and
otherwise none. -/
theorem countP_linesFrom_fillParagraph (part : Text) :
    (linesFrom ⟨indentation, []⟩
        (fillParagraph columns indentation part indentation true)).countP
          (fun line ↦ isBlankLine line.text) =
      if leavesBlank columns indentation part then 1 else 0 := by
  have solid := startsSolid_of_mem_fillParagraph columns indentation part indentation true
  rw [fillParagraph] at solid ⊢
  split at solid
  · next none =>
    have blank : isBlankLine part = true := List.all_eq_true.mpr (List.dropWhile_eq_nil_iff.mp none)
    rw [leavesBlank, blank, linesFrom, List.countP_cons, isBlankLine_text_of_nil]
    rfl
  · next c rest found =>
    obtain ⟨first, later⟩ := List.forall_mem_cons.mp solid
    rw [leavesBlank_eq columns indentation found, linesFrom]
    split
    · rw [List.countP_cons, isBlankLine_text_of_nil, countP_linesFrom_of_ne_nil
        (List.cons_ne_nil _ _) (List.forall_mem_singleton.mpr first) later]
      rfl
    · exact countP_linesFrom_of_ne_nil (List.cons_ne_nil _ _) (List.forall_mem_singleton.mpr first)
        later

/-- Parts behind line breaks have a blank line for each of them that leaves the line blank that it
starts. -/
theorem countP_paragraphLines (parts : List Text) :
    (paragraphLines columns indentation parts indentation).countP
        (fun line ↦ isBlankLine line.text) = parts.countP (leavesBlank columns indentation) := by
  induction parts with
  | nil => rfl
  | cons part rest ih =>
    rw [paragraphLines, List.countP_append, countP_linesFrom_fillParagraph, ih, List.countP_cons,
      Nat.add_comm]

/-! ## Messages -/

/-- Behind the first line of a wrapped message there is a blank line for each of its parts but the
first that leaves the line blank that it starts, and no other. -/
theorem countP_isBlankLine_wrap (message : Text) (columns column : Int)
    (indentation : Option Int) :
    (splitAt '\n' (wrap message columns column indentation).text).tail.countP isBlankLine =
      (splitAt '\n' message).tail.countP
        (leavesBlank columns (indentation.getD (defaultIndentation columns column))) := by
  have lines := splitAt_wrap message columns column indentation
  generalize indentation.getD (defaultIndentation columns column) = margin at lines ⊢
  have front : '\n' ∉ blanks column := fun mark ↦
    absurd (List.eq_of_mem_replicate mark) (by decide)
  obtain ⟨part, parts, cut⟩ := List.exists_cons_of_ne_nil (splitAt_ne_nil '\n' message)
  have first := countP_tail_linesFrom column
    (startsSolid_of_mem_fillParagraph columns margin part column true)
  have some := linesFrom_ne_nil ⟨column, []⟩ (fillParagraph columns margin part column true)
  rw [← tail_splitAt_append front, lines, cut, List.tail_cons, paragraphLines, ← List.map_tail,
    List.countP_map, List.tail_append_of_ne_nil some, List.countP_append]
  exact (congrArg₂ (· + ·) first (countP_paragraphLines columns margin parts)).trans
    (Nat.zero_add _)

/-- Wrapping a message adds a blank line for each part behind a line break that has no unit or
whose first unit does not fit behind the indentation. So where no such part is blank, no line
behind the first is, exactly if each of them starts with a unit that fits there, or if there is no
indentation. -/
theorem blank_lines_of_wrapped_message (message : Text) (columns column : Int)
    (indentation : Option Int) :
    let margin := indentation.getD (defaultIndentation columns column)
    let lines := (splitAt '\n' (wrap message columns column indentation).text).tail
    let parts := (splitAt '\n' message).tail
    lines.countP isBlankLine = parts.countP (leavesBlank columns margin) ∧
      ((∀ part ∈ parts, isBlankLine part = false) →
        ((∀ line ∈ lines, isBlankLine line = false) ↔ ∀ part ∈ parts,
          margin ≤ 0 ∨ margin + displayWidth (firstUnit columns margin part) ≤ columns)) := by
  intro margin lines parts
  have count : lines.countP isBlankLine = parts.countP (leavesBlank columns margin) :=
    countP_isBlankLine_wrap message columns column indentation
  refine ⟨count, fun solid ↦ ?_⟩
  have zero : (∀ line ∈ lines, isBlankLine line = false) ↔
      ∀ part ∈ parts, leavesBlank columns margin part = false := by
    simp only [← Bool.not_eq_true, ← List.countP_eq_zero, count]
  rw [zero]
  refine forall₂_congr fun part member ↦ ?_
  rw [leavesBlank, solid part member, Bool.false_or, Bool.and_eq_false_iff, decide_eq_false_iff_not,
    decide_eq_false_iff_not, Int.not_lt, Int.not_lt]

/-- A word of eight columns behind the fifth of a line of ten leaves a blank line. -/
theorem pulled_word_leaves_blank_line :
    (∀ part ∈ (splitAt '\n' "a\nlongword".toList).tail, isBlankLine part = false) ∧
      splitAt '\n' (wrap "a\nlongword".toList 10 5 none).text =
        ["a".toList, "     ".toList, "  longword".toList] ∧
      ¬∀ line ∈ (splitAt '\n' (wrap "a\nlongword".toList 10 5 none).text).tail,
        isBlankLine line = false := by
  have solid : ∀ part ∈ (splitAt '\n' "a\nlongword".toList).tail, isBlankLine part = false := by
    decide
  refine ⟨solid, by decide +kernel, fun unbroken ↦ ?_⟩
  have fits := ((blank_lines_of_wrapped_message _ 10 5 none).2 solid).mp unbroken
  exact absurd (fits "longword".toList (by decide)) (by decide +kernel)

end Caret.Text
