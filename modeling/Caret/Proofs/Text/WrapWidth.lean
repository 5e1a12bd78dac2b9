import Caret.Proofs.Text.Units
import Caret.Proofs.Text.WrappedLines

/-!
# The width of a wrapped message

The lines of a wrapped message are lines of units with a blank between neighbours. A line that is
wider than it may be holds one unit only, and that unit does not fit any line. So a line keeps to
the width unless a single word does not, as far as units do: as far as no unit that is too wide
holds two words. Units do in a message of narrow glyphs without openers in front of blanks and
without long rows of openers.
-/

namespace Caret.Text

/-! ## The width of lines -/

namespace UnitLine

/-- A line keeps to the width, or it has one unit at most, which fits no line. -/
def Settled (columns : Int) (line : UnitLine) : Prop :=
  line.stop ≤ columns ∨ line.units = [] ∨
    ∃ unit, line.units = [unit] ∧ columns < (glyphWidth unit : Int)

/-- The words of a line of one unit are the words of the unit. -/
theorem words_text_of_units_eq {line : UnitLine} {unit : Text} (h : line.units = [unit]) :
    words line.text = words unit := by
  rw [text, words_blanks_append, h]
  rfl

private theorem words_text_of_units_eq_nil {line : UnitLine} (h : line.units = []) :
    words line.text = [] := by
  rw [text, words_blanks_append, h]
  rfl

end UnitLine

/-! ## Placed words -/

variable (columns indentation : Int)

/-- A word that starts a line behind its continuation column fits, unless it fits no line. -/
theorem continuationColumn_add_le_or (width : Int) :
    continuationColumn columns indentation width + width ≤ columns ∨ columns < width := by
  unfold continuationColumn
  split <;> omega

/-- What a placed word leaves of the line it was placed on: the line with one unit more, or a
line of its own behind that line. Where the word starts the line, it keeps to the width or fits
no line. -/
inductive Placement (line : UnitLine) (word : Text) (placed : PlacedWord) : Prop
  | onLine (breaks : placed.breaksLine = false) (same : placed.word = word)
      (text : placed.text = blanks line.gap ++ word)
      (column : placed.endColumn line.stop = (line.push word).stop)
      (settled : (line.push word).Settled columns)
  | onNext (breaks : placed.breaksLine = true) (same : placed.word = word)
      (text : placed.text = '\n' :: (UnitLine.mk placed.gap [word]).text)
      (column : placed.endColumn line.stop = (UnitLine.mk placed.gap [word]).stop)
      (settled : (UnitLine.mk placed.gap [word]).Settled columns)
      (forward : 0 ≤ indentation → 0 ≤ placed.gap)

private theorem placement_placeWord (line : UnitLine) {word : Text} (tabFree : '\t' ∉ word) :
    Placement columns indentation line word
      (placeWord columns indentation line.stop line.units.isEmpty word) := by
  have width : displayWidth word = glyphWidth word := displayWidth_of_not_mem_tab tabFree
  have stop := line.stop_push word
  rcases placeWord_cases columns indentation line.stop line.units.isEmpty word with
    ⟨here, room⟩ | ⟨here, -⟩
  · rw [here]
    refine .onLine rfl rfl rfl ?column ?settled
    case column =>
      rw [stop, ← width]
      rfl
    case settled =>
      rw [width] at room
      rcases room with fits | ⟨first, noGain⟩
      · left
        rw [stop]
        exact fits
      · have units : line.units = [] := List.isEmpty_iff.mp first
        have gap : line.gap = 0 := by rw [UnitLine.gap, first]; rfl
        rcases continuationColumn_add_le_or columns indentation (glyphWidth word) with fits | wide
        · left
          omega
        · exact Or.inr (Or.inr ⟨word, by rw [UnitLine.push, units]; rfl, wide⟩)
  · rw [here, width]
    refine .onNext rfl rfl rfl ?column ?settled ?forward
    case column =>
      unfold PlacedWord.endColumn UnitLine.stop
      rw [width]
      rfl
    case settled =>
      rcases continuationColumn_add_le_or columns indentation (glyphWidth word) with fits | wide
      · exact Or.inl fits
      · exact Or.inr (Or.inr ⟨word, rfl, wide⟩)
    case forward => exact fun positive ↦ continuationColumn_nonneg columns indentation positive _

/-! ## Paragraphs -/

/-- The lines of a paragraph keep to the width, or they have one unit at most, which fits no
line. -/
theorem settled_linesFrom_fillParagraph {text : Text} (tabFree : '\t' ∉ text)
    (positive : 0 ≤ indentation) (line : UnitLine) (settled : line.Settled columns)
    (start : 0 ≤ line.start) :
    ∀ other ∈ linesFrom line
        (fillParagraph columns indentation text line.stop line.units.isEmpty),
      other.Settled columns ∧ 0 ≤ other.start := by
  generalize column : line.stop = stop, state : line.units.isEmpty = atLineStart
  fun_induction fillParagraph columns indentation text stop atLineStart generalizing line with
  | case1 => simpa [linesFrom] using ⟨settled, start⟩
  | case2 text stop atLineStart c rest found length placed ih =>
    obtain ⟨wordPart, restPart⟩ := infix_of_dropWhile found length
    have ih := ih fun tab ↦ tabFree (restPart.subset tab)
    have placement : Placement columns indentation line ((c :: rest).take length) placed := by
      subst column state
      exact placement_placeWord columns indentation line fun tab ↦ tabFree (wordPart.subset tab)
    rw [linesFrom]
    cases placement with
    | onLine breaks same _ next longer =>
      rw [column, ← same] at next
      rw [← same] at longer
      rw [if_neg (by rw [breaks]; exact Bool.false_ne_true)]
      exact ih _ longer start next.symm (by simp [UnitLine.push])
    | onNext breaks same _ next begun forward =>
      rw [column, ← same] at next
      rw [← same] at begun
      rw [if_pos breaks]
      exact List.forall_mem_cons.mpr
        ⟨⟨settled, start⟩, ih _ begun (forward positive) next.symm rfl⟩

private theorem endColumn_placeWord_nonneg (positive : 0 ≤ indentation) {column : Int}
    (start : 0 ≤ column) (atLineStart : Bool) {word : Text} (tabFree : '\t' ∉ word) :
    0 ≤ (placeWord columns indentation column atLineStart word).endColumn column := by
  have width : displayWidth word = glyphWidth word := displayWidth_of_not_mem_tab tabFree
  have forward := continuationColumn_nonneg columns indentation positive (displayWidth word)
  rcases placeWord_cases columns indentation column atLineStart word with ⟨here, -⟩ | ⟨here, -⟩
  · rw [here]
    unfold PlacedWord.endColumn
    cases atLineStart <;> simp <;> omega
  · rw [here]
    unfold PlacedWord.endColumn
    simp
    omega

private theorem exists_unitParts_of_mem_fillParagraph {text : Text} (tabFree : '\t' ∉ text)
    (positive : 0 ≤ indentation) {column : Int} (start : 0 ≤ column) (atLineStart : Bool) :
    ∀ placed ∈ fillParagraph columns indentation text column atLineStart,
      ∃ opening tail, UnitParts columns 0 placed.word opening tail := by
  fun_induction fillParagraph columns indentation text column atLineStart with
  | case1 => exact List.forall_mem_nil _
  | case2 text column atLineStart c rest found length placed ih =>
    obtain ⟨wordPart, restPart⟩ := infix_of_dropWhile found length
    have same : placed.word = (c :: rest).take length := word_placeWord ..
    have behind := endColumn_placeWord_nonneg columns indentation positive start atLineStart
      fun tab ↦ tabFree (wordPart.subset tab)
    refine List.forall_mem_cons.mpr ⟨?_, ih (fun tab ↦ tabFree (restPart.subset tab)) behind⟩
    obtain ⟨opening, tail, parts⟩ := exists_unitParts columns (c :: rest) column
    exact ⟨opening, tail, same ▸ parts.mono start⟩

/-! ## Messages -/

/-- The lines of paragraphs keep to the width, or they have one unit at most, which fits no
line. -/
theorem settled_paragraphLines (positive : 0 ≤ indentation) {paragraphs : List Text}
    (tabFree : ∀ paragraph ∈ paragraphs, '\t' ∉ paragraph) {column : Int} (start : 0 ≤ column) :
    ∀ line ∈ paragraphLines columns indentation paragraphs column,
      line.Settled columns ∧ 0 ≤ line.start := by
  induction paragraphs generalizing column with
  | nil => exact List.forall_mem_nil _
  | cons paragraph rest ih =>
    obtain ⟨here, later⟩ := List.forall_mem_cons.mp tabFree
    have first := settled_linesFrom_fillParagraph columns indentation here positive ⟨column, []⟩
      (Or.inr (Or.inl rfl)) start
    rw [UnitLine.stop_mk_nil] at first
    rw [paragraphLines]
    exact List.forall_mem_append.mpr ⟨first, ih later positive⟩

private theorem exists_unitParts_of_mem_fillParagraphs (positive : 0 ≤ indentation)
    {paragraphs : List Text} (tabFree : ∀ paragraph ∈ paragraphs, '\t' ∉ paragraph)
    {column : Int} (start : 0 ≤ column) :
    ∀ placed ∈ (fillParagraphs columns indentation paragraphs column).flatten,
      ∃ opening tail, UnitParts columns 0 placed.word opening tail := by
  induction paragraphs generalizing column with
  | nil => exact List.forall_mem_nil _
  | cons paragraph rest ih =>
    obtain ⟨here, later⟩ := List.forall_mem_cons.mp tabFree
    rw [fillParagraphs, List.flatten_cons]
    exact List.forall_mem_append.mpr
      ⟨exists_unitParts_of_mem_fillParagraph columns indentation here positive start true,
        ih later positive⟩

/-- The units of a wrapped message. -/
def wrapUnits (message : Text) (columns column : Int) : List Text :=
  (fillParagraphs columns (defaultIndentation columns column) (splitAt '\n' message)
    column).flatten.map (·.word)

/-- The lines of a wrapped message, the first one counted from the column at which it starts. -/
def wrapLines (message : Text) (columns column : Int) : List Text :=
  splitAt '\n' (blanks column ++ (wrap message columns column none).text)

/-- No text that is wider than the columns holds two words. -/
def KeepsWidth (columns : Int) (texts : List Text) : Prop :=
  ∀ text ∈ texts, columns < displayWidth text → (words text).length ≤ 1

/-- A message of narrow glyphs in which no opener stands in front of a blank and no row of
openers fills two thirds of a line. -/
structure PlainMessage (columns : Int) (message : Text) : Prop where
  narrow : ∀ c ∈ message, charWidth c ≤ 1
  attached : message.IsChain fun a b ↦ opens a = true → isBlank b = false
  rows : ∀ row, row <:+: message → (∀ c ∈ row, opens c = true) →
    (row.length : Int) ≤ columns - columns.fdiv 3

private theorem glyphWidth_le_length {text : Text} (h : ∀ c ∈ text, charWidth c ≤ 1) :
    glyphWidth text ≤ text.length := by
  induction text with
  | nil => exact Nat.le_refl 0
  | cons c rest ih =>
    obtain ⟨here, later⟩ := List.forall_mem_cons.mp h
    have behind := ih later
    rw [glyphWidth, List.length_cons]
    omega

/-- A plain message has no stranded openers. -/
theorem PlainMessage.not_strandedOpeners {columns : Int} {message : Text}
    (plain : PlainMessage columns message) {opening tail : Text}
    (part : opening ++ tail <:+: message) (openers : ∀ c ∈ opening, opens c = true) :
    ¬StrandedOpeners opening tail := by
  rintro ⟨some, blank, solid, rfl, isBlank, -⟩
  have attached := List.IsChain.infix plain.attached part
  have last := (List.isChain_append.mp attached).2.2
    (opening.getLast some) (List.getLast?_eq_getLast_of_ne_nil some) blank rfl
  rw [last (openers _ (List.getLast_mem some))] at isBlank
  cases isBlank

section Message

variable {message : Text} {columns column : Int}

/-- The lines of units of a wrapped message. -/
def messageLines (message : Text) (columns column : Int) : List UnitLine :=
  paragraphLines columns (defaultIndentation columns column) (splitAt '\n' message) column

/-- The units of the lines are the units of the message. -/
theorem mem_wrapUnits_iff {unit : Text} :
    unit ∈ wrapUnits message columns column ↔
      ∃ line ∈ messageLines message columns column, unit ∈ line.units := by
  unfold wrapUnits messageLines
  rw [← flatMap_units_paragraphLines, List.mem_flatMap]

private theorem wrapLines_eq :
    wrapLines message columns column =
      (messageLines message columns column).map (·.text) :=
  splitAt_wrap message columns column none

variable (tabFree : '\t' ∉ message) (start : 0 ≤ column)

include tabFree start

/-- A unit is a part of a line of the message that does not start with white space. -/
theorem exists_unitParts_of_mem_wrapUnits {unit : Text}
    (h : unit ∈ wrapUnits message columns column) :
    unit <:+: message ∧ (∀ c ∈ unit.head?, isBlank c = false) ∧
      ∃ opening tail, UnitParts columns 0 unit opening tail := by
  obtain ⟨placed, member, rfl⟩ := List.mem_map.mp h
  obtain ⟨paragraph, inside, part⟩ := infix_of_mem_fillParagraphs columns _ _ column placed member
  obtain ⟨c, first, solid⟩ := startsSolid_of_mem_fillParagraphs columns _ _ column placed member
  have parts :=
    exists_unitParts_of_mem_fillParagraphs columns _ (defaultIndentation_nonneg start)
      (fun paragraph member tab ↦ tabFree ((infix_of_mem_splitAt member).subset tab)) start
      placed member
  exact ⟨part.trans (infix_of_mem_splitAt inside),
    fun d here ↦ Option.mem_unique first here ▸ solid, parts⟩

/-- A line of the message is as wide as its units reach, and it keeps to the width or has one
unit at most, which fits no line. -/
theorem settled_messageLines {line : UnitLine} (h : line ∈ messageLines message columns column) :
    0 ≤ line.start ∧ line.Settled columns ∧ displayWidth line.text = line.stop := by
  obtain ⟨settled, begins⟩ := settled_paragraphLines columns _ (defaultIndentation_nonneg start)
    (fun paragraph member tab ↦ tabFree ((infix_of_mem_splitAt member).subset tab)) start line h
  refine ⟨begins, settled, UnitLine.displayWidth_text begins fun unit here tab ↦ ?_⟩
  have part := (exists_unitParts_of_mem_wrapUnits tabFree start
    (mem_wrapUnits_iff.mpr ⟨line, h, here⟩)).1
  exact tabFree (part.subset tab)

/-- The width of a unit is the width of its glyphs. -/
theorem displayWidth_of_mem_wrapUnits {unit : Text}
    (h : unit ∈ wrapUnits message columns column) : displayWidth unit = glyphWidth unit := by
  have part := (exists_unitParts_of_mem_wrapUnits tabFree start h).1
  exact displayWidth_of_not_mem_tab fun tab ↦ tabFree (part.subset tab)

/-- The lines of a wrapped message keep to the width as far as its units do. -/
theorem keepsWidth_wrapLines_iff :
    KeepsWidth columns (wrapLines message columns column) ↔
      KeepsWidth columns (wrapUnits message columns column) := by
  rw [wrapLines_eq]
  constructor
  · intro keeps unit member wide
    obtain ⟨line, inside, here⟩ := mem_wrapUnits_iff.mp member
    obtain ⟨begins, settled, width⟩ := settled_messageLines tabFree start inside
    have reach := UnitLine.start_add_glyphWidth_le_stop here
    rw [displayWidth_of_mem_wrapUnits tabFree start member] at wide
    rcases settled with fits | none | ⟨only, units, -⟩
    · omega
    · rw [none] at here
      cases here
    · rw [units, List.mem_singleton] at here
      subst here
      rw [← UnitLine.words_text_of_units_eq units]
      exact keeps _ (List.mem_map_of_mem inside) (by omega)
  · intro keeps text member wide
    obtain ⟨line, inside, rfl⟩ := List.mem_map.mp member
    obtain ⟨-, settled, width⟩ := settled_messageLines tabFree start inside
    rcases settled with fits | none | ⟨only, units, tooWide⟩
    · omega
    · rw [UnitLine.words_text_of_units_eq_nil none]
      exact Nat.zero_le 1
    · have here : only ∈ wrapUnits message columns column :=
        mem_wrapUnits_iff.mpr ⟨line, inside, units ▸ List.mem_singleton_self only⟩
      rw [UnitLine.words_text_of_units_eq units]
      exact keeps only here (by rwa [displayWidth_of_mem_wrapUnits tabFree start here])

/-- A unit of several words is stranded openers or a kept passage. -/
theorem stranded_or_kept_of_mem_wrapUnits {unit : Text}
    (h : unit ∈ wrapUnits message columns column) (several : 1 < (words unit).length) :
    ∃ opening tail, unit = opening ++ tail ∧ (∀ c ∈ opening, opens c = true) ∧
      (StrandedOpeners opening tail ∨ KeptPassage columns opening.length tail) := by
  obtain ⟨-, first, opening, tail, parts⟩ := exists_unitParts_of_mem_wrapUnits tabFree start h
  refine ⟨opening, tail, parts.whole, parts.openers, ?_⟩
  simpa using parts.stranded_or_kept first several

/-- The units of a plain message keep to the width. -/
theorem PlainMessage.keepsWidth_wrapUnits (plain : PlainMessage columns message) :
    KeepsWidth columns (wrapUnits message columns column) := by
  intro unit member wide
  by_contra several
  obtain ⟨opening, tail, whole, openers, cause⟩ :=
    stranded_or_kept_of_mem_wrapUnits tabFree start member (Nat.lt_of_not_le several)
  have part := (exists_unitParts_of_mem_wrapUnits tabFree start member).1
  rcases cause with stranded | kept
  · exact plain.not_strandedOpeners (whole ▸ part) openers stranded
  · have row : (opening.length : Int) ≤ columns - columns.fdiv 3 :=
      plain.rows opening ((whole ▸ List.prefix_append opening tail).isInfix.trans part) openers
    have narrow : glyphWidth unit ≤ unit.length :=
      glyphWidth_le_length fun c inside ↦ plain.narrow c (part.subset inside)
    have length : unit.length = opening.length + tail.length := by rw [whole, List.length_append]
    rw [displayWidth_of_mem_wrapUnits tabFree start member] at wide
    rcases kept.room with fits | short <;> omega

end Message

/-- Wrapping keeps to the width as far as the units of a message do: no line that is too wide
holds two words if and only if no unit that is too wide does. A unit of several words is a row of
openers with a blank behind it, or a passage whose code points fit the line or are fewer than a
third of it. So the width is kept in every plain message, and lost on passages of wide glyphs,
on openers that stand free, and on rows of openers in front of a short passage. -/
theorem wrapped_message_keeps_width_iff (message : Text) (columns column : Int)
    (tabFree : '\t' ∉ message) (start : 0 ≤ column) :
    (KeepsWidth columns (wrapLines message columns column) ↔
        KeepsWidth columns (wrapUnits message columns column)) ∧
      (∀ unit ∈ wrapUnits message columns column, 1 < (words unit).length →
        ∃ opening tail, unit = opening ++ tail ∧ (∀ c ∈ opening, opens c = true) ∧
          (StrandedOpeners opening tail ∨ KeptPassage columns opening.length tail)) ∧
      (PlainMessage columns message → KeepsWidth columns (wrapLines message columns column)) :=
  ⟨keepsWidth_wrapLines_iff tabFree start,
    fun _ member several ↦ stranded_or_kept_of_mem_wrapUnits tabFree start member several,
    fun plain ↦ (keepsWidth_wrapLines_iff tabFree start).mpr
      (plain.keepsWidth_wrapUnits tabFree start)⟩

/-- A quoted passage of seven code points and eleven columns is kept on a line of ten. -/
theorem quoted_wide_glyphs_exceed_width :
    '\t' ∉ "\"界界 界界\"".toList ∧ (0 : Int) ≤ 0 ∧
      ¬KeepsWidth 10 (wrapLines "\"界界 界界\"".toList 10 0) := by
  have tabFree : '\t' ∉ "\"界界 界界\"".toList := by decide
  refine ⟨tabFree, Int.le_refl 0, fun keeps ↦ ?_⟩
  have units := (wrapped_message_keeps_width_iff _ 10 0 tabFree (Int.le_refl 0)).1.mp keeps
  have unit : "\"界界 界界\"".toList ∈ wrapUnits "\"界界 界界\"".toList 10 0 := by decide +kernel
  exact absurd (units _ unit (by decide +kernel)) (by decide +kernel)

end Caret.Text
