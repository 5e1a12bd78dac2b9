import Caret.Proofs.Source.Order

/-!
# From an offset to its line and column, and back

The line of an offset is the last one that starts at or before it, and no line break ends between
that start and the offset. So line and column of an offset lead back to it, unless it stands
between the two halves of a line break.
-/

namespace Caret

namespace Source

/-- An offset is between a carriage return and the line feed behind it. -/
def SplitsBreak (text : Text) (offset : Int) : Prop :=
  0 < offset ∧ text[(offset - 1).toNat]? = some '\r' ∧ text[offset.toNat]? = some '\n'

instance (text : Text) (offset : Int) : Decidable (SplitsBreak text offset) :=
  inferInstanceAs (Decidable (_ ∧ _ ∧ _))

/-! ## Where lines start -/

/-- A line break ends behind the start of the text. -/
theorem lt_of_mem_breakEnds {text : Text} {offset stop : Nat} (h : stop ∈ breakEnds text offset) :
    offset < stop := by
  obtain ⟨front, c, behind, -, -, rfl, -⟩ := exists_of_mem_breakEnds h
  omega

private theorem pairwise_breakEnds (text : Text) (offset : Nat) :
    (breakEnds text offset).Pairwise (· < ·) := by
  fun_induction breakEnds text offset with
  | case1 => exact List.Pairwise.nil
  | case2 rest offset ih => exact List.pairwise_cons.mpr ⟨fun _ ↦ lt_of_mem_breakEnds, ih⟩
  | case3 c rest offset _ _ ih => exact List.pairwise_cons.mpr ⟨fun _ ↦ lt_of_mem_breakEnds, ih⟩
  | case4 c rest offset _ _ ih => exact ih

/-- Lines start one behind the other. -/
theorem pairwise_lineStarts (text : Text) : (lineStarts text).Pairwise (· < ·) :=
  List.pairwise_cons.mpr ⟨fun _ ↦ lt_of_mem_breakEnds, pairwise_breakEnds text 0⟩

/-- A line break ends behind its code point, unless that is the first half of one. -/
theorem mem_breakEnds_of_isLineBreak {text : Text} {offset : Nat} {front behind : Text} {c : Char}
    (whole : text = front ++ c :: behind) (ends : isLineBreak c = true)
    (last : c = '\r' → behind.head? ≠ some '\n') :
    offset + front.length + 1 ∈ breakEnds text offset := by
  fun_induction breakEnds text offset generalizing front with
  | case1 => simp at whole
  | case2 rest offset ih =>
    cases front with
    | nil =>
      obtain ⟨rfl, rfl⟩ := List.cons_eq_cons.mp whole
      exact absurd rfl (last rfl)
    | cons _ front =>
      cases front with
      | nil => exact List.mem_cons_self
      | cons _ front =>
        have deeper := ih (List.cons_eq_cons.mp (List.cons_eq_cons.mp whole).2).2
        refine List.mem_cons_of_mem _ ?_
        simpa [Nat.add_assoc, Nat.add_comm, Nat.add_left_comm] using deeper
  | case3 d rest offset _ _ ih =>
    cases front with
    | nil => exact List.mem_cons_self
    | cons _ front =>
      have deeper := ih (List.cons_eq_cons.mp whole).2
      refine List.mem_cons_of_mem _ ?_
      simpa [Nat.add_assoc, Nat.add_comm, Nat.add_left_comm] using deeper
  | case4 d rest offset _ other ih =>
    cases front with
    | nil =>
      obtain ⟨rfl, rfl⟩ := List.cons_eq_cons.mp whole
      exact absurd ends other
    | cons _ front =>
      have deeper := ih (List.cons_eq_cons.mp whole).2
      simpa [Nat.add_assoc, Nat.add_comm, Nat.add_left_comm] using deeper

/-- No line starts between the two halves of a line break. -/
theorem not_splitsBreak_of_mem_lineStarts {text : Text} {start : Nat}
    (h : start ∈ lineStarts text) : ¬SplitsBreak text start := by
  rintro ⟨positive, carriage, feed⟩
  rcases List.mem_cons.mp h with rfl | later
  · exact absurd positive (by decide)
  · obtain ⟨front, c, behind, rfl, -, rfl, last⟩ := exists_of_mem_breakEnds later
    have before : ((0 + front.length + 1 : Nat) - 1 : Int).toNat = front.length := by omega
    have here : ((0 + front.length + 1 : Nat) : Int).toNat = front.length + 1 := by omega
    rw [before, List.getElem?_append_right (Nat.le_refl _), Nat.sub_self] at carriage
    rw [here, List.getElem?_append_right (Nat.le_succ _), Nat.succ_sub (Nat.le_refl _),
      Nat.sub_self] at feed
    refine last (Option.some.inj carriage) ?_
    rw [List.head?_eq_getElem?]
    exact feed

/-- No code point on a line ends it. -/
theorem not_isLineBreak_of_lt_lineEnd {text : Text} {start index : Nat} {c : Char}
    (behind : start ≤ index) (before : index < lineEnd text start)
    (there : text[index]? = some c) : isLineBreak c = false := by
  have inside : index - start < ((text.drop start).takeWhile fun c ↦ !isLineBreak c).length := by
    unfold lineEnd at before
    omega
  have kept := List.all_eq_true.mp List.all_takeWhile _ (List.getElem_mem inside)
  have same := List.prefix_iff_getElem?.mp (List.takeWhile_prefix _) _ inside
  rw [List.getElem?_drop, Nat.add_sub_cancel' behind, there] at same
  rw [Option.some.inj same]
  simpa using kept

/-- An offset on a line is not between the two halves of a line break. -/
theorem OnLine.not_splitsBreak {text : Text} {offset : Int} (h : OnLine text offset) :
    ¬SplitsBreak text offset := by
  obtain ⟨line, start, found, forward, inside⟩ := h
  intro split
  rcases Int.lt_or_eq_of_le forward with behind | rfl
  · have first : start ≤ (offset - 1).toNat := by omega
    have last : (offset - 1).toNat < lineEnd text start := by omega
    exact absurd (not_isLineBreak_of_lt_lineEnd first last split.2.1) (by decide)
  · exact not_splitsBreak_of_mem_lineStarts (mem_lineStarts_of_lineStart? found) split

/-! ## The line of an offset -/

/-- In an ascending list, the numbers up to a bound are those in front of the first one above. -/
theorem lt_length_takeWhile_iff {numbers : List Nat} (ascending : numbers.Pairwise (· < ·))
    (bound : Int) {index : Nat} (inside : index < numbers.length) :
    index < (numbers.takeWhile fun (number : Nat) ↦ (number : Int) ≤ bound).length ↔
      (numbers[index] : Int) ≤ bound := by
  induction numbers generalizing index with
  | nil => cases inside
  | cons first rest ih =>
    obtain ⟨ahead, ascending⟩ := List.pairwise_cons.mp ascending
    rw [List.takeWhile_cons]
    by_cases fits : (first : Int) ≤ bound
    · rw [if_pos (decide_eq_true fits), List.length_cons]
      cases index with
      | zero => simpa using fits
      | succ index => simpa using ih ascending (Nat.lt_of_succ_lt_succ inside)
    · rw [if_neg (by simpa using fits)]
      cases index with
      | zero => simpa using fits
      | succ index =>
        have above := ahead _ (List.getElem_mem (Nat.lt_of_succ_lt_succ inside))
        simp only [List.length_nil, Nat.not_lt_zero, List.getElem_cons_succ, false_iff]
        omega

variable {text : Text} {offset : Int}

/-- The line of an offset is the last one that starts at or before it. -/
theorem exists_start_of_bounds (forward : 0 ≤ offset) (inside : offset ≤ text.length) :
    ∃ start : Nat, lineStart? text (lineNumber text offset) = some start ∧ (start : Int) ≤ offset ∧
      ∀ other ∈ lineStarts text, (other : Int) ≤ offset → other ≤ start := by
  have ascending := pairwise_lineStarts text
  have count {index : Nat} (h : index < (lineStarts text).length) :=
    lt_length_takeWhile_iff ascending offset h
  have number : lineNumber text offset =
      ((lineStarts text).takeWhile fun (start : Nat) ↦ (start : Int) ≤ offset).length :=
    if_neg (by omega)
  rw [← number] at count
  have atMost : lineNumber text offset ≤ (lineStarts text).length :=
    number ▸ (List.takeWhile_prefix _).length_le
  have positive : 0 < lineNumber text offset := (count (Nat.succ_pos _)).mpr forward
  have last : lineNumber text offset - 1 < (lineStarts text).length := by omega
  refine ⟨(lineStarts text)[lineNumber text offset - 1], ?start, (count last).mp (by omega), ?max⟩
  case start =>
    have index : ((lineNumber text offset : Int) - 1).toNat = lineNumber text offset - 1 := by omega
    rw [lineStart?, if_neg (by omega), index, List.getElem?_eq_getElem last]
  case max =>
    intro other member before
    obtain ⟨index, known, rfl⟩ := List.getElem_of_mem member
    have low := (count known).mpr before
    rcases Nat.lt_or_ge index (lineNumber text offset - 1) with lower | same
    · exact Nat.le_of_lt (List.pairwise_iff_getElem.mp ascending _ _ known last lower)
    · have : index = lineNumber text offset - 1 := by omega
      subst this
      exact Nat.le_refl _

/-- A line that does not end with the text ends in front of a line break. -/
theorem exists_break_of_lineEnd_lt {start : Nat} (short : lineEnd text start < text.length) :
    ∃ front c behind, text = front ++ c :: behind ∧ isLineBreak c = true ∧
      front.length = lineEnd text start := by
  have split := List.takeWhile_append_dropWhile (p := fun c ↦ !isLineBreak c) (l := text.drop start)
  unfold lineEnd at short ⊢
  cases there : (text.drop start).dropWhile fun c ↦ !isLineBreak c with
  | nil =>
    have length := congrArg List.length split
    rw [there, List.append_nil, List.length_drop] at length
    omega
  | cons c behind =>
    rw [there] at split
    refine ⟨text.take start ++ (text.drop start).takeWhile fun c ↦ !isLineBreak c, c, behind, ?_,
      ?_, ?_⟩
    · rw [List.append_assoc, split, List.take_append_drop]
    · simpa [there] using List.head?_dropWhile_not (fun c ↦ !isLineBreak c) (text.drop start)
    · rw [List.length_append, List.length_take]
      omega

/-- If no line starts between the start of a line and an offset behind it, then the offset is on
that line or splits the break behind it. -/
theorem le_lineEnd_of_last {start : Nat} (inside : offset ≤ text.length)
    (unsplit : ¬SplitsBreak text offset)
    (last : ∀ other ∈ lineStarts text, (other : Int) ≤ offset → other ≤ start) :
    offset ≤ lineEnd text start := by
  refine Int.not_lt.mp fun beyond ↦ ?_
  have behindStart : start ≤ lineEnd text start := Nat.le_add_right _ _
  have short : lineEnd text start < text.length := by omega
  obtain ⟨front, c, behind, whole, ends, reach⟩ := exists_break_of_lineEnd_lt short
  by_cases half : c = '\r' ∧ behind.head? = some '\n'
  · obtain ⟨rfl, feed⟩ := half
    obtain ⟨behind, rfl⟩ := List.head?_eq_some_iff.mp feed
    have after : text = (front ++ ['\r']) ++ '\n' :: behind := by simpa using whole
    have next : 0 + (front ++ ['\r']).length + 1 ∈ breakEnds text 0 :=
      mem_breakEnds_of_isLineBreak after rfl fun carriage ↦ absurd carriage (by decide)
    rw [List.length_append, List.length_singleton] at next
    have passed := last _ (List.mem_cons_of_mem _ next)
    have first : (offset - 1).toNat = front.length := by omega
    have second : offset.toNat = front.length + 1 := by omega
    refine unsplit ⟨by omega, ?_, ?_⟩
    · simp [whole, first]
    · simp [whole, second]
  · have next : 0 + front.length + 1 ∈ breakEnds text 0 :=
      mem_breakEnds_of_isLineBreak whole ends fun carriage feed ↦ half ⟨carriage, feed⟩
    have passed := last _ (List.mem_cons_of_mem _ next)
    omega

/-- An offset behind a line and in front of the next one is between the two halves of the line
break. -/
theorem splitsBreak_of_lineEnd_lt {start : Nat} (inside : offset ≤ text.length)
    (last : ∀ other ∈ lineStarts text, (other : Int) ≤ offset → other ≤ start)
    (beyond : lineEnd text start < offset) :
    SplitsBreak text offset ∧ offset = lineEnd text start + 1 := by
  have split : SplitsBreak text offset := by
    refine Decidable.byContradiction fun unsplit ↦ ?_
    have := le_lineEnd_of_last inside unsplit last
    omega
  -- The first half of the break is an offset of its own, which splits none.
  have unsplit : ¬SplitsBreak text (offset - 1) := by
    rintro ⟨-, -, feed⟩
    rw [split.2.1] at feed
    exact absurd feed (by decide)
  have first : offset - 1 ≤ lineEnd text start :=
    le_lineEnd_of_last (by omega) unsplit fun other known early ↦ last other known (by omega)
  exact ⟨split, by omega⟩

/-- A line is at or before the line of an offset exactly if it starts at or before the offset. -/
theorem le_lineNumber_iff {line : Int} {start : Nat} (starts : lineStart? text line = some start)
    (forward : 0 ≤ offset) (inside : offset ≤ text.length) :
    line ≤ lineNumber text offset ↔ (start : Int) ≤ offset := by
  rw [lineStart?] at starts
  split at starts
  · cases starts
  · next first =>
    obtain ⟨known, rfl⟩ := List.getElem?_eq_some_iff.mp starts
    rw [← lt_length_takeWhile_iff (pairwise_lineStarts text) offset known, lineNumber,
      if_neg (by omega)]
    omega

/-- A line ends in front of every line that starts behind its start. -/
theorem lineEnd_lt_of_mem_lineStarts {start next : Nat} (member : next ∈ lineStarts text)
    (behind : start < next) : lineEnd text start < next := by
  rcases List.mem_cons.mp member with rfl | later
  · cases behind
  · obtain ⟨front, c, rest, rfl, ends, rfl, -⟩ := exists_of_mem_breakEnds later
    refine Nat.not_le.mp fun beyond ↦ ?_
    have there : (front ++ c :: rest)[front.length]? = some c := by simp
    have first : start ≤ front.length := by omega
    have kept := not_isLineBreak_of_lt_lineEnd first (by omega) there
    exact Bool.false_ne_true (kept.symm.trans ends)

/-- The line behind a line starts behind its end. -/
theorem exists_next_lineStart? {line : Int} {start : Nat}
    (starts : lineStart? text line = some start) (later : line < (lineStarts text).length) :
    ∃ next, lineStart? text (line + 1) = some next ∧ lineEnd text start < next := by
  rw [lineStart?] at starts
  split at starts
  · cases starts
  · next first =>
    obtain ⟨known, rfl⟩ := List.getElem?_eq_some_iff.mp starts
    have index : (line + 1 - 1).toNat = (line - 1).toNat + 1 := by omega
    have there : (line - 1).toNat + 1 < (lineStarts text).length := by omega
    refine ⟨(lineStarts text)[(line - 1).toNat + 1], ?_, ?_⟩
    · rw [lineStart?, if_neg (by omega), index, List.getElem?_eq_getElem there]
    · exact lineEnd_lt_of_mem_lineStarts (List.getElem_mem there)
        (List.pairwise_iff_getElem.mp (pairwise_lineStarts text) _ _ known there
          (Nat.lt_succ_self _))

/-- In front of an offset of a later line, or there, starts the line behind a line. -/
theorem exists_next_of_lt_lineNumber {line : Int} {start : Nat}
    (starts : lineStart? text line = some start) (forward : 0 ≤ offset)
    (inside : offset ≤ text.length) (later : line < lineNumber text offset) :
    ∃ next ∈ lineStarts text, lineEnd text start < next ∧ (next : Int) ≤ offset := by
  have atMost : lineNumber text offset ≤ (lineStarts text).length := by
    rw [lineNumber, if_neg (by omega)]
    exact (List.takeWhile_prefix _).length_le
  obtain ⟨next, found, behind⟩ := exists_next_lineStart? starts (by omega)
  exact ⟨next, mem_lineStarts_of_lineStart? found, behind,
    (le_lineNumber_iff found forward inside).mp (by omega)⟩

/-- An offset of a later line is behind the end of a line. -/
theorem lineEnd_lt_of_lt_lineNumber {line : Int} {start : Nat}
    (starts : lineStart? text line = some start) (forward : 0 ≤ offset)
    (inside : offset ≤ text.length) (later : line < lineNumber text offset) :
    lineEnd text start < offset := by
  obtain ⟨next, -, behind, before⟩ := exists_next_of_lt_lineNumber starts forward inside later
  omega

/-- The offset between the halves of a line break has the number of the line in front of it. -/
theorem lineNumber_eq_of_splitsBreak {line : Int} {start : Nat}
    (starts : lineStart? text line = some start) (split : SplitsBreak text offset)
    (place : offset = lineEnd text start + 1) : lineNumber text offset = line := by
  have known := (List.getElem?_eq_some_iff.mp split.2.2).1
  have behindStart : start ≤ lineEnd text start := Nat.le_add_right _ _
  have forward : 0 ≤ offset := by omega
  have inside : offset ≤ text.length := by omega
  have atLeast : line ≤ lineNumber text offset :=
    (le_lineNumber_iff starts forward inside).mpr (by omega)
  refine Int.le_antisymm (Int.not_lt.mp fun later ↦ ?_) atLeast
  -- The next line would start between the halves.
  obtain ⟨next, member, behind, before⟩ :=
    exists_next_of_lt_lineNumber starts forward inside later
  have here : offset = next := by omega
  exact not_splitsBreak_of_mem_lineStarts member (here ▸ split)

/-- A column is not negative. -/
theorem columnNumber_nonneg (text : Text) (offset : Int) : 0 ≤ columnNumber text offset := by
  by_cases outside : offset < 0 ∨ offset > text.length
  · rw [columnNumber, lineNumber, if_pos outside]
    exact Int.le_refl 0
  · have forward : 0 ≤ offset := by omega
    have inside : offset ≤ text.length := by omega
    obtain ⟨start, found, before, -⟩ := exists_start_of_bounds forward inside
    rw [columnNumber, found]
    show 0 ≤ offset - start + 1
    omega

/-- Only an offset of the text or behind it has a line. -/
theorem bounds_of_lineNumber_ne_zero (known : lineNumber text offset ≠ 0) :
    0 ≤ offset ∧ offset ≤ text.length := by
  by_cases outside : offset < 0 ∨ offset > text.length
  · exact absurd (if_pos outside) known
  · omega

/-- An offset that has a line is the only one with its line and column. -/
theorem eq_of_lineNumber_of_columnNumber {other : Int} (known : lineNumber text other ≠ 0)
    (line : lineNumber text offset = lineNumber text other)
    (column : columnNumber text offset = columnNumber text other) : offset = other := by
  obtain ⟨forward, inside⟩ := bounds_of_lineNumber_ne_zero (line ▸ known)
  obtain ⟨forward', inside'⟩ := bounds_of_lineNumber_ne_zero known
  obtain ⟨start, found, -, -⟩ := exists_start_of_bounds forward inside
  obtain ⟨start', found', -, -⟩ := exists_start_of_bounds forward' inside'
  have same : start = start' := Option.some.inj (found.symm.trans (line ▸ found'))
  rw [columnNumber, columnNumber, found, found'] at column
  dsimp only at column
  omega

/-- Line and column of an offset lead back to it. -/
theorem offsetAt?_lineNumber_columnNumber (forward : 0 ≤ offset) (inside : offset ≤ text.length)
    (unsplit : ¬SplitsBreak text offset) :
    offsetAt? text (lineNumber text offset) (columnNumber text offset) = some offset := by
  obtain ⟨start, found, before, last⟩ := exists_start_of_bounds forward inside
  have onLine := le_lineEnd_of_last inside unsplit last
  rw [offsetAt?, columnNumber, found, Option.map_some]
  refine congrArg some ?_
  show min ((start : Int) + max (offset - start + 1) 1 - 1) (lineEnd text start) = offset
  omega

/-- An offset of the text has a line. -/
theorem lineNumber_ne_zero (forward : 0 ≤ offset) (inside : offset ≤ text.length) :
    lineNumber text offset ≠ 0 := by
  intro none
  obtain ⟨start, found, -⟩ := exists_start_of_bounds forward inside
  rw [none] at found
  cases found

end Source

namespace SourceMap

/-- A line number is not negative. -/
theorem lineNumber_nonneg (map : SourceMap) (file offset : Int) :
    0 ≤ map.lineNumber file offset := by
  unfold lineNumber
  split <;> omega

/-- A column is not negative. -/
theorem columnNumber_nonneg (map : SourceMap) (file offset : Int) :
    0 ≤ map.columnNumber file offset := by
  unfold columnNumber
  split
  · exact Source.columnNumber_nonneg _ _
  · exact Int.le_refl 0

/-- Line and column of an offset in a file lead back to it. -/
theorem locationAt_lineNumber_columnNumber {map : SourceMap} {file : Int}
    {entry : SourceFile} (stored : map.file? file = some entry) {offset : Int}
    (forward : 0 ≤ offset) (inside : offset ≤ entry.text.length)
    (unsplit : ¬Source.SplitsBreak entry.text offset) :
    map.locationAt file (map.lineNumber file offset) (map.columnNumber file offset) =
      Location.inFile file offset := by
  simp only [locationAt, lineNumber, columnNumber, stored, Option.bind_some,
    Source.offsetAt?_lineNumber_columnNumber forward inside unsplit]

/-- An offset of a file that has a line is the only one with its line and column. -/
theorem eq_of_lineNumber_of_columnNumber {map : SourceMap} {file offset other : Int}
    (known : map.lineNumber file other ≠ 0)
    (line : map.lineNumber file offset = map.lineNumber file other)
    (column : map.columnNumber file offset = map.columnNumber file other) : offset = other := by
  unfold lineNumber at known line
  unfold columnNumber at column
  cases stored : map.file? file with
  | none =>
    rw [stored] at known
    exact absurd rfl known
  | some entry =>
    rw [stored] at known line column
    exact Source.eq_of_lineNumber_of_columnNumber (Int.ofNat_ne_zero.mp known)
      (Int.ofNat_inj.mp line) column

end SourceMap

end Caret
