/-!
# Text as code points

Source lines, messages and inserted text are sequences of code points. Offsets, columns and
lengths count code points everywhere; only the display width of a code point is looked up
separately. The character classes of this library are tables of code point ranges.
-/

namespace Caret

/-- A text is the sequence of its code points. -/
abbrev Text := List Char

namespace Text

/-- Whether a code point lies in one of the closed ranges of `table`. -/
def inRanges (table : List (Nat × Nat)) (c : Char) : Bool :=
  table.any fun range ↦ range.1 ≤ c.toNat && c.toNat ≤ range.2

/-- Membership in a table is membership in one of its ranges. -/
theorem inRanges_eq_true_iff {table : List (Nat × Nat)} {c : Char} :
    inRanges table c = true ↔ ∃ range ∈ table, range.1 ≤ c.toNat ∧ c.toNat ≤ range.2 := by
  simp [inRanges, List.any_eq_true]

/-- The code point of a number; a number that has none gives the replacement character. -/
def codePoint (n : Nat) : Char := if h : n.isValidChar then Char.ofNatAux n h else '\uFFFD'

/-- A number of blanks; none for a count that is not positive. -/
def blanks (count : Int) : Text := List.replicate count.toNat ' '

/-- The blanks asked for, or none. -/
@[simp] theorem length_blanks (count : Int) : (blanks count).length = count.toNat := by
  simp [blanks]

/-- The part of a text in the half-open span from `start` to `stop`. -/
def slice (text : Text) (start stop : Nat) : Text := (text.take stop).drop start

/-- Cuts a text at every occurrence of `mark`; the pieces do not hold it. There is always
one piece more than there are marks. -/
def splitAt (mark : Char) : Text → List Text
  | [] => [[]]
  | c :: rest =>
    match splitAt mark rest with
    | [] => [[c]]
    | piece :: pieces => if c = mark then [] :: piece :: pieces else (c :: piece) :: pieces

/-- Joins texts, with `separator` between neighbours. -/
def join (separator : Text) : List Text → Text
  | [] => []
  | [piece] => piece
  | piece :: pieces => piece ++ separator ++ join separator pieces

/-- A number in decimal digits, with a minus sign in front of a negative one. -/
def ofInt (n : Int) : Text := (toString n).toList

/-- A text with the end of its line. -/
def endLine (text : Text) : Text := text ++ ['\n']

/-- Several lines as a text. -/
def endLines (lines : List Text) : Text := lines.flatMap endLine

/-- A cut text has at least one piece. -/
theorem splitAt_ne_nil (mark : Char) (text : Text) : splitAt mark text ≠ [] := by
  cases text with
  | nil => simp [splitAt]
  | cons c rest =>
    simp only [splitAt]
    split
    · simp
    · split <;> simp

/-- A piece in front of others is joined to them with the separator. -/
theorem join_cons {separator piece : Text} {pieces : List Text} (h : pieces ≠ []) :
    join separator (piece :: pieces) = piece ++ separator ++ join separator pieces := by
  cases pieces with
  | nil => exact absurd rfl h
  | cons next rest => rfl

/-- What was cut at a mark is joined with it. -/
theorem join_splitAt (mark : Char) (text : Text) : join [mark] (splitAt mark text) = text := by
  induction text with
  | nil => rfl
  | cons c rest ih =>
    rw [splitAt]
    split
    · next h => exact absurd h (splitAt_ne_nil mark rest)
    · next piece pieces h =>
      rw [h] at ih
      split
      · next hc =>
        rw [join_cons (List.cons_ne_nil piece pieces), ih, hc]
        rfl
      · cases pieces with
        | nil => rw [← ih]; rfl
        | cons next others => rw [← ih]; rfl

/-- No piece of a cut text holds the mark. -/
theorem not_mem_of_mem_splitAt {mark : Char} {text piece : Text}
    (h : piece ∈ splitAt mark text) : mark ∉ piece := by
  induction text generalizing piece with
  | nil =>
    rw [splitAt, List.mem_singleton] at h
    rw [h]
    exact List.not_mem_nil
  | cons c rest ih =>
    rw [splitAt] at h
    split at h
    · next hnil => exact absurd hnil (splitAt_ne_nil mark rest)
    · next first others hcut =>
      rw [hcut] at ih
      split at h
      · rcases List.mem_cons.1 h with rfl | h
        · exact List.not_mem_nil
        · exact ih h
      · next hc =>
        rcases List.mem_cons.1 h with rfl | h
        · intro hm
          rcases List.mem_cons.1 hm with hm | hm
          · exact hc hm.symm
          · exact ih List.mem_cons_self hm
        · exact ih (List.mem_cons_of_mem _ h)

end Text

end Caret
