import Caret.Proofs.Text.Cells
import Caret.Text.Wrapping

/-!
# The units of a wrapped message

Wrapping cuts a message into units: words, and passages between quotes or brackets that are kept
in one piece. A passage that is not kept is given up opener by opener, so that a unit starts with
openers; what follows them is a run of which only the first code point may be white space, or a
passage that is kept. Passages are measured in code points.
-/

namespace Caret.Text

/-! ## Words -/

/-- The words of a text: what stands between its white space. -/
def words (text : Text) : List Text := (text.splitOnP isBlank).filter (· ≠ [])

/-- White space parts the words in front of it from those behind it. -/
theorem words_append_cons {blank : Char} (h : isBlank blank = true) (front behind : Text) :
    words (front ++ blank :: behind) = words front ++ words behind := by
  unfold words
  rw [List.splitOnP_append_cons front behind h, List.filter_append]

/-- White space in front of a text adds no word. -/
theorem words_cons_of_isBlank {blank : Char} (h : isBlank blank = true) (text : Text) :
    words (blank :: text) = words text := words_append_cons h [] text

/-- A run of white space in front of a text adds no word. -/
theorem words_append_of_isBlank {front : Text} (h : ∀ c ∈ front, isBlank c = true) (text : Text) :
    words (front ++ text) = words text := by
  induction front with
  | nil => rfl
  | cons c rest ih =>
    obtain ⟨here, later⟩ := List.forall_mem_cons.mp h
    rw [List.cons_append, words_cons_of_isBlank here, ih later]

/-- Blanks are white space. -/
theorem isBlank_of_mem_blanks {count : Int} {c : Char} (h : c ∈ blanks count) :
    isBlank c = true := by
  rw [List.eq_of_mem_replicate h]
  decide

/-- Blanks in front of a text add no word. -/
theorem words_blanks_append (count : Int) (text : Text) :
    words (blanks count ++ text) = words text :=
  words_append_of_isBlank (fun _ ↦ isBlank_of_mem_blanks) text

/-- The white space at the start of a text adds no word. -/
theorem words_dropWhile (text : Text) : words (text.dropWhile isBlank) = words text := by
  have front : ∀ c ∈ text.takeWhile isBlank, isBlank c = true := fun c member ↦
    List.all_eq_true.mp List.all_takeWhile c member
  rw [← words_append_of_isBlank front, List.takeWhile_append_dropWhile]

/-- A text of white space has no words. -/
theorem words_eq_nil {text : Text} (h : ∀ c ∈ text, isBlank c = true) : words text = [] := by
  have whole := words_append_of_isBlank h []
  rwa [List.append_nil] at whole

/-- The words of two texts are those of the one behind the other, if that starts with white
space. -/
theorem words_append (front : Text) {behind : Text} (h : ∀ c ∈ behind.head?, isBlank c = true) :
    words (front ++ behind) = words front ++ words behind := by
  cases behind with
  | nil => simp [words]
  | cons c rest =>
    have blank := h c rfl
    rw [words_append_cons blank, words_cons_of_isBlank blank]

/-- Texts that are joined with white space have their own words. -/
theorem words_join {separator : Text} (some : separator ≠ [])
    (h : ∀ c ∈ separator, isBlank c = true) (pieces : List Text) :
    words (join separator pieces) = pieces.flatMap words := by
  induction pieces with
  | nil => rfl
  | cons piece rest ih =>
    cases rest with
    | nil => simp [join]
    | cons next others =>
      have starts : ∀ c ∈ (separator ++ join separator (next :: others)).head?,
          isBlank c = true := by
        intro c first
        rw [List.head?_append_of_ne_nil _ some] at first
        exact h c (List.mem_of_mem_head? first)
      rw [join_cons (List.cons_ne_nil next others), List.append_assoc, words_append piece starts,
        words_append_of_isBlank h, ih]
      rfl

/-- The words of the parts of a text are its words. -/
theorem flatMap_words_splitAt (text : Text) : (splitAt '\n' text).flatMap words = words text := by
  rw [← words_join (List.cons_ne_nil '\n' []) (List.forall_mem_singleton.mpr (by decide)),
    join_splitAt]

/-- A text without white space is a word. -/
theorem words_eq_singleton {text : Text} (some : text ≠ []) (h : ∀ c ∈ text, isBlank c = false) :
    words text = [text] := by
  rw [words, List.splitOnP_eq_singleton h]
  simp [some]

/-- A text without white space is one word at most. -/
theorem length_words_le_one {text : Text} (h : ∀ c ∈ text, isBlank c = false) :
    (words text).length ≤ 1 := by
  unfold words
  rw [List.splitOnP_eq_singleton h]
  exact List.length_filter_le _ _

/-! ## Openers and passages -/

/-- Whether a code point opens a passage. -/
def opens (c : Char) : Bool := (closerOf c).isSome

private theorem isBlank_of_opens {c : Char} (h : opens c = true) : isBlank c = false := by
  unfold opens closerOf at h
  split at h
  all_goals first | rfl | cases h

/-- A passage at `column` is kept: its code points fit the line, or they are fewer than a third
of it. -/
structure KeptPassage (columns column : Int) (passage : Text) : Prop where
  opened : ∃ c ∈ passage.head?, opens c = true
  room : column + passage.length ≤ columns ∨ (passage.length : Int) < columns.fdiv 3

/-- Further to the left a passage is kept as well. -/
theorem KeptPassage.mono {columns column left : Int} {passage : Text}
    (h : KeptPassage columns column passage) (le : left ≤ column) :
    KeptPassage columns left passage where
  opened := h.opened
  room := h.room.imp (fun fits ↦ by omega) id

/-- A unit in parts: openers whose passages were given up, and behind them a run of which only
the first code point may be white space, or a passage that is kept where it stands. -/
structure UnitParts (columns column : Int) (unit opening tail : Text) : Prop where
  whole : unit = opening ++ tail
  openers : ∀ c ∈ opening, opens c = true
  last : (∀ c ∈ tail.tail, isBlank c = false) ∨
    KeptPassage columns (column + opening.length) tail

/-- Further to the left a unit has the same parts. -/
theorem UnitParts.mono {columns column left : Int} {unit opening tail : Text}
    (h : UnitParts columns column unit opening tail) (le : left ≤ column) :
    UnitParts columns left unit opening tail where
  whole := h.whole
  openers := h.openers
  last := h.last.imp_right fun kept ↦ kept.mono (by omega)

/-- A passage given up leaves its opener in front of the unit behind it. -/
theorem UnitParts.cons {columns column : Int} {unit opening tail : Text} {c : Char}
    (h : UnitParts columns (column + 1) unit opening tail) (opener : opens c = true) :
    UnitParts columns column (c :: unit) (c :: opening) tail where
  whole := congrArg (c :: ·) h.whole
  openers := List.forall_mem_cons.mpr ⟨opener, h.openers⟩
  last := by
    refine h.last.imp_right fun kept ↦ kept.mono ?_
    rw [List.length_cons]
    omega

/-- The start of a text is a unit. -/
theorem exists_unitParts (columns : Int) (text : Text) (column : Int) :
    ∃ opening tail, UnitParts columns column (text.take (wordLength columns text column))
      opening tail := by
  fun_induction wordLength columns text column with
  | case1 column => exact ⟨[], [], rfl, List.forall_mem_nil _, Or.inl (List.forall_mem_nil _)⟩
  | case2 c column => exact ⟨[], [c], rfl, List.forall_mem_nil _, Or.inl (List.forall_mem_nil _)⟩
  | case3 c rest column _ _ =>
    refine ⟨[], _, rfl, List.forall_mem_nil _, Or.inl ?_⟩
    rw [Nat.add_comm, List.take_succ_cons, List.tail_cons, solidLength,
      ← List.prefix_iff_eq_take.mp (List.takeWhile_prefix _)]
    intro d member
    simpa using List.all_eq_true.mp List.all_takeWhile d member
  | case4 c rest column _ closer opener passage length room =>
    refine ⟨[], _, rfl, List.forall_mem_nil _, Or.inr ⟨⟨c, ?_, ?_⟩, ?_⟩⟩
    · have positive : length = (passage + solidLength (rest.drop passage)) + 1 := by omega
      rw [positive, List.take_succ_cons]
      rfl
    · rw [opens, opener]
      rfl
    · have inside : length ≤ (c :: rest).length := by
        have first := passageLength_le [closer] rest
        have second := solidLength_le (rest.drop passage)
        rw [List.length_drop] at second
        rw [List.length_cons]
        omega
      rw [List.length_take_of_le inside, List.length_nil]
      simpa using room
  | case5 c rest column _ closer opener passage length room ih =>
    obtain ⟨opening, tail, parts⟩ := ih
    refine ⟨c :: opening, tail, ?_⟩
    rw [Nat.add_comm, List.take_succ_cons]
    exact parts.cons (by rw [opens, opener]; rfl)

/-- Openers that are parted from nothing: the blank behind the last of them and the run behind
that blank belong to their unit. -/
def StrandedOpeners (opening tail : Text) : Prop :=
  opening ≠ [] ∧ ∃ blank solid, tail = blank :: solid ∧ isBlank blank = true ∧
    ∀ c ∈ solid, isBlank c = false

/-- A unit that starts with a word and holds a second one has stranded openers, or a passage
that is kept. -/
theorem UnitParts.stranded_or_kept {columns column : Int} {unit opening tail : Text}
    (h : UnitParts columns column unit opening tail)
    (first : ∀ c ∈ unit.head?, isBlank c = false) (several : 1 < (words unit).length) :
    StrandedOpeners opening tail ∨ KeptPassage columns (column + opening.length) tail := by
  refine h.last.imp_left fun solid ↦ ?_
  have blank_free : ∀ c ∈ opening, isBlank c = false := fun c member ↦
    isBlank_of_opens (h.openers c member)
  cases tail with
  | nil =>
    rw [h.whole, List.append_nil] at several
    exact absurd (length_words_le_one blank_free) (by omega)
  | cons c run =>
    cases blank : isBlank c with
    | false =>
      have all_solid : ∀ d ∈ unit, isBlank d = false := by
        rw [h.whole]
        exact List.forall_mem_append.mpr ⟨blank_free, List.forall_mem_cons.mpr ⟨blank, solid⟩⟩
      exact absurd (length_words_le_one all_solid) (by omega)
    | true =>
      refine ⟨?_, c, run, rfl, blank, solid⟩
      rintro rfl
      have nonblank := first c (by rw [h.whole]; rfl)
      rw [blank] at nonblank
      cases nonblank

end Caret.Text
