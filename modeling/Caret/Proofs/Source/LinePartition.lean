import Caret.Proofs.Source.LineColumn

/-!
# The lines of a text make up the text

Between its line breaks a text consists of its lines: it is the first line, and behind each line
break another one. A carriage return and the line feed behind it are one break, every other line
feed or carriage return is one of its own. The line of an offset is the only one that starts at or
before it and is followed by no line that does.
-/

namespace Caret

namespace Source

/-- The line breaks of a text in their order. -/
def lineBreaks : Text → List Text
  | [] => []
  | '\r' :: '\n' :: rest => ['\r', '\n'] :: lineBreaks rest
  | c :: rest => if isLineBreak c then [c] :: lineBreaks rest else lineBreaks rest

/-- The forms of a line break. -/
def breakForms : List Text := [['\n'], ['\r'], ['\r', '\n']]

/-- The text of the line that starts at an offset. -/
def lineFrom (text : Text) (start : Nat) : Text :=
  (text.drop start).takeWhile fun c ↦ !isLineBreak c

/-- The texts of all lines in their order. -/
def allLines (text : Text) : List Text := (lineStarts text).map (lineFrom text)

/-- A table of the lines of a text: the offsets at which they start, their texts and the line of
each offset. Lines are numbered from one. -/
structure IsLineTable (text : Text) (starts : List Nat) (lineText : Int → Option Text)
    (lineOf : Int → Int) : Prop where
  first : starts.head? = some 0
  ascending : starts.Pairwise (· < ·)
  inside : ∀ start ∈ starts, start ≤ text.length
  unbroken : ∀ number line, lineText number = some line → '\n' ∉ line ∧ '\r' ∉ line
  /-- The lines, each with the break behind it, are the text; the last one has none. A line starts
  where the lines in front of it and their breaks end. -/
  whole : ∃ lines breaks : List Text,
    (∀ index : Nat, lineText (index + 1) = lines[index]?) ∧ lines.length = breaks.length + 1 ∧
      (∀ broken ∈ breaks, broken ∈ breakForms) ∧
      (List.zipWith (· ++ ·) lines (breaks ++ [[]])).flatten = text ∧
      starts =
        (List.zipWith (· ++ ·) lines breaks).scanl (fun offset piece ↦ offset + piece.length) 0
  /-- There is one line more than there are breaks, where a carriage return and the line feed behind
  it are one. -/
  count : starts.length + (text.zip text.tail).count ('\r', '\n') =
    1 + text.count '\n' + text.count '\r'
  /-- The line of an offset is the only one that starts at or before it while the next one does
  not. -/
  located : ∀ offset : Int, 0 ≤ offset → offset ≤ text.length → ∀ line, line = lineOf offset ↔
    ∃ index start : Nat, line = index + 1 ∧ starts[index]? = some start ∧ (start : Int) ≤ offset ∧
      ∀ next ∈ starts[index + 1]?, offset < (next : Int)

/-- A code point that ends a line is a line feed or a carriage return. -/
theorem isLineBreak_iff {c : Char} : isLineBreak c = true ↔ c = '\n' ∨ c = '\r' := by
  simp [isLineBreak]

/-- A line in front of others is found behind the front of a text. -/
theorem lineFrom_append (front behind : Text) {start : Nat} (h : front.length ≤ start) :
    lineFrom (front ++ behind) start = lineFrom behind (start - front.length) := by
  rw [lineFrom, List.drop_append, List.drop_eq_nil_of_le h, List.nil_append]
  rfl

/-! ## Breaks -/

private theorem mem_breakForms_of_mem_lineBreaks {text broken : Text}
    (h : broken ∈ lineBreaks text) :
    broken ∈ breakForms := by
  fun_induction lineBreaks text with
  | case1 => cases h
  | case2 rest ih =>
    rcases List.mem_cons.mp h with rfl | later
    · decide
    · exact ih later
  | case3 c rest _ ends ih =>
    rcases List.mem_cons.mp h with rfl | later
    · rcases isLineBreak_iff.mp ends with rfl | rfl <;> decide
    · exact ih later
  | case4 c rest _ _ ih => exact ih h

/-- There is a line start behind each line break. -/
theorem length_breakEnds (text : Text) (offset : Nat) :
    (breakEnds text offset).length = (lineBreaks text).length := by
  fun_induction breakEnds text offset with
  | case1 => rfl
  | case2 rest offset ih => simp [lineBreaks, ih]
  | case3 c rest offset whole ends ih => simp [lineBreaks, ends, ih]
  | case4 c rest offset whole other ih => simp [lineBreaks, other, ih]

/-! ## Lines between breaks -/

/-- The lines that start behind the breaks of a text that stands behind others. -/
def linesBehind (text : Text) (offset : Nat) : List Text :=
  (breakEnds text offset).map fun start ↦ lineFrom text (start - offset)

/-- The lines behind the front of a text are those of the text behind it. -/
theorem map_lineFrom_append (front behind : Text) (offset : Nat) :
    ((breakEnds behind (offset + front.length)).map fun start ↦
        lineFrom (front ++ behind) (start - offset)) =
      linesBehind behind (offset + front.length) := by
  apply List.map_congr_left
  intro start member
  have later := lt_of_mem_breakEnds member
  rw [lineFrom_append front behind (by omega), Nat.sub_sub]

/-- Behind a break at the start of a text its second line starts. -/
theorem linesBehind_of_break (front : Text) {behind : Text} {offset : Nat}
    (h : breakEnds (front ++ behind) offset =
      (offset + front.length) :: breakEnds behind (offset + front.length)) :
    linesBehind (front ++ behind) offset =
      lineFrom behind 0 :: linesBehind behind (offset + front.length) := by
  have first : lineFrom (front ++ behind) (offset + front.length - offset) = lineFrom behind 0 := by
    rw [Nat.add_sub_cancel_left, lineFrom_append _ _ (Nat.le_refl _), Nat.sub_self]
  rw [linesBehind, h, List.map_cons, first, map_lineFrom_append]

/-- A text is its first line, and behind each of its breaks another line; a line starts where the
lines in front of it and their breaks end. -/
theorem lines_between_breaks (text : Text) (offset : Nat) :
    (List.zipWith (· ++ ·) (lineFrom text 0 :: linesBehind text offset)
        (lineBreaks text ++ [[]])).flatten = text ∧
      offset :: breakEnds text offset =
        (List.zipWith (· ++ ·) (lineFrom text 0 :: linesBehind text offset)
          (lineBreaks text)).scanl (fun offset piece ↦ offset + piece.length) offset := by
  fun_induction breakEnds text offset with
  | case1 => exact ⟨rfl, rfl⟩
  | case2 rest offset ih =>
    have behind : linesBehind ('\r' :: '\n' :: rest) offset =
        lineFrom rest 0 :: linesBehind rest (offset + 2) :=
      linesBehind_of_break ['\r', '\n'] rfl
    rw [behind, lineBreaks, List.cons_append, List.zipWith_cons_cons, List.zipWith_cons_cons,
      List.flatten_cons, List.scanl_cons, ih.1, ih.2]
    exact ⟨rfl, rfl⟩
  | case3 c rest offset whole ends ih =>
    have next : breakEnds (c :: rest) offset = (offset + 1) :: breakEnds rest (offset + 1) := by
      simp [breakEnds, ends]
    have behind : linesBehind (c :: rest) offset =
        lineFrom rest 0 :: linesBehind rest (offset + 1) :=
      linesBehind_of_break [c] next
    have first : lineFrom (c :: rest) 0 = [] := by simp [lineFrom, ends]
    have breaks : lineBreaks (c :: rest) = [c] :: lineBreaks rest := by simp [lineBreaks, ends]
    rw [behind, first, breaks, List.cons_append, List.zipWith_cons_cons, List.zipWith_cons_cons,
      List.flatten_cons, List.scanl_cons, ih.1, ih.2]
    exact ⟨rfl, rfl⟩
  | case4 c rest offset whole other ih =>
    have behind : linesBehind (c :: rest) offset = linesBehind rest (offset + 1) := by
      rw [linesBehind]
      simpa [breakEnds, other] using map_lineFrom_append [c] rest offset
    have first : lineFrom (c :: rest) 0 = c :: lineFrom rest 0 := by simp [lineFrom, other]
    have breaks : lineBreaks (c :: rest) = lineBreaks rest := by simp [lineBreaks, other]
    obtain ⟨pieces, starts⟩ := ih
    rw [behind, first, breaks]
    -- The code point belongs to the piece in front of the next break.
    cases later : lineBreaks rest with
    | nil =>
      have none : breakEnds rest (offset + 1) = [] := by
        rw [← List.length_eq_zero_iff, length_breakEnds, later, List.length_nil]
      rw [later] at pieces
      rw [none]
      exact ⟨congrArg (c :: ·) pieces, rfl⟩
    | cons broken breaks =>
      rw [later] at pieces starts
      rw [List.zipWith_cons_cons, List.scanl_cons] at starts
      have length : offset + (c :: lineFrom rest 0 ++ broken).length =
          offset + 1 + (lineFrom rest 0 ++ broken).length := by
        rw [List.cons_append, List.length_cons]
        omega
      refine ⟨congrArg (c :: ·) pieces, ?_⟩
      rw [List.zipWith_cons_cons, List.scanl_cons, length, (List.cons_eq_cons.mp starts).2]

private theorem allLines_eq (text : Text) :
    allLines text = lineFrom text 0 :: linesBehind text 0 := rfl

/-- Lines are numbered from one. -/
theorem lineStart?_add_one (text : Text) (index : Nat) :
    lineStart? text (index + 1) = (lineStarts text)[index]? := by
  have number : ((index : Int) + 1 - 1).toNat = index := by omega
  rw [lineStart?, if_neg (by omega), number]

private theorem lineText?_add_one (text : Text) (index : Nat) :
    lineText? text (index + 1) = (allLines text)[index]? := by
  rw [lineText?, lineStart?_add_one, allLines, List.getElem?_map]
  rfl

/-! ## The number of breaks -/

/-- A code point in front of a text that is not the first half of a break adds no break of two
halves. -/
theorem count_zip_tail_cons {c : Char} {rest : Text}
    (h : ∀ behind, c = '\r' → rest ≠ '\n' :: behind) :
    ((c :: rest).zip rest).count ('\r', '\n') = (rest.zip rest.tail).count ('\r', '\n') := by
  cases rest with
  | nil => rfl
  | cons d behind =>
    have other : (c, d) ≠ ('\r', '\n') := by
      intro same
      obtain ⟨rfl, rfl⟩ := Prod.mk.inj same
      exact h behind rfl rfl
    rw [List.zip_cons_cons, List.count_cons_of_ne other, List.tail_cons]

/-- The breaks are the line feeds and the carriage returns, where each two halves are one. -/
theorem length_lineBreaks (text : Text) :
    (lineBreaks text).length + (text.zip text.tail).count ('\r', '\n') =
      text.count '\n' + text.count '\r' := by
  fun_induction lineBreaks text with
  | case1 => rfl
  | case2 rest ih =>
    have pairs : (('\r' :: '\n' :: rest).zip ('\n' :: rest)).count ('\r', '\n') =
        (rest.zip rest.tail).count ('\r', '\n') + 1 := by
      rw [List.zip_cons_cons, List.count_cons_self,
        count_zip_tail_cons fun _ carriage ↦ absurd carriage (by decide)]
    simp only [List.tail_cons, pairs, List.length_cons, List.count_cons]
    simp
    omega
  | case3 c rest whole ends ih =>
    rw [List.tail_cons, count_zip_tail_cons whole]
    rcases isLineBreak_iff.mp ends with rfl | rfl
    · simp
      omega
    · simp
      omega
  | case4 c rest whole other ih =>
    rw [List.tail_cons, count_zip_tail_cons whole]
    have feed : c ≠ '\n' := fun same ↦ other (isLineBreak_iff.mpr (Or.inl same))
    have carriage : c ≠ '\r' := fun same ↦ other (isLineBreak_iff.mpr (Or.inr same))
    rw [List.count_cons_of_ne feed, List.count_cons_of_ne carriage, ih]

/-! ## The line of an offset -/

/-- The line of an offset is the only one that starts at or before it and is followed by no line
that does. -/
theorem eq_lineNumber_iff {text : Text} {offset : Int} (forward : 0 ≤ offset)
    (inside : offset ≤ text.length) (line : Int) :
    line = lineNumber text offset ↔
      ∃ index start : Nat, line = index + 1 ∧ (lineStarts text)[index]? = some start ∧
        (start : Int) ≤ offset ∧ ∀ next ∈ (lineStarts text)[index + 1]?, offset < (next : Int) := by
  constructor
  · rintro rfl
    obtain ⟨start, found, before, -⟩ := exists_start_of_bounds forward inside
    have positive := lineNumber_ne_zero forward inside
    have number : (lineNumber text offset : Int) = (lineNumber text offset - 1 : Nat) + 1 := by
      omega
    refine ⟨lineNumber text offset - 1, start, number, ?_, before, ?_⟩
    · rw [← lineStart?_add_one, ← number, found]
    · intro next later
      rw [Option.mem_def, ← lineStart?_add_one] at later
      have behind := le_lineNumber_iff later forward inside
      omega
  · rintro ⟨index, start, rfl, found, before, last⟩
    rw [← lineStart?_add_one] at found
    have atLeast := (le_lineNumber_iff found forward inside).mpr before
    refine Int.le_antisymm atLeast (Int.not_lt.mp fun more ↦ ?_)
    have known : lineNumber text offset ≤ (lineStarts text).length := by
      rw [lineNumber, if_neg (by omega)]
      exact (List.takeWhile_prefix _).length_le
    obtain ⟨next, later, -⟩ := exists_next_lineStart? found (by omega)
    have reached := (le_lineNumber_iff later forward inside).mp (by omega)
    have beyond := last next (by rw [Option.mem_def, ← lineStart?_add_one, ← later]; rfl)
    omega

private theorem isLineTable (text : Text) :
    IsLineTable text (lineStarts text) (lineText? text) fun offset ↦ lineNumber text offset where
  first := rfl
  ascending := pairwise_lineStarts text
  inside := by
    intro start member
    obtain ⟨index, found⟩ := List.mem_iff_getElem?.mp member
    exact start_le_length ((lineStart?_add_one text index).trans found)
  unbroken := by
    intro number line found
    constructor
    · intro feed
      exact absurd (isLineBreak_of_mem_lineText? found feed) (by decide)
    · intro carriage
      exact absurd (isLineBreak_of_mem_lineText? found carriage) (by decide)
  whole := by
    obtain ⟨pieces, starts⟩ := lines_between_breaks text 0
    rw [← allLines_eq] at pieces starts
    refine ⟨allLines text, lineBreaks text, lineText?_add_one text, ?_,
      fun _ ↦ mem_breakForms_of_mem_lineBreaks, pieces, starts⟩
    rw [allLines, List.length_map, lineStarts, List.length_cons, length_breakEnds]
  count := by
    have breaks := length_lineBreaks text
    rw [lineStarts, List.length_cons, length_breakEnds]
    omega
  located := fun _ forward inside line ↦ eq_lineNumber_iff forward inside line

end Source

/-- The lines of a file are a table of its text: they start one behind the other from the start of
the text on, none of them holds a line break, each with its break behind it they make up the text,
and each offset has the one line that holds it. -/
theorem SourceMap.lines_partition_text {map : SourceMap} {file : Int} {entry : SourceFile}
    (stored : map.file? file = some entry) :
    Source.IsLineTable entry.text (Source.lineStarts entry.text) (map.lineText? file)
      (map.lineNumber file) := by
  have texts : map.lineText? file = Source.lineText? entry.text := by
    funext line
    rw [lineText?, stored, Option.bind_some]
  have numbers :
      map.lineNumber file = fun offset ↦ (Source.lineNumber entry.text offset : Int) := by
    funext offset
    rw [lineNumber, stored]
  rw [texts, numbers]
  exact Source.isLineTable entry.text

/-- A file with a carriage return in front of a break of two halves, a line feed in front of a
carriage return, and a carriage return at its end. -/
def mixedBreaks : SourceFile := { name := "a.c".toList, text := "a\r\r\nb\n\rc\r".toList }

/-- Mixed line breaks are cut into six lines, the last of which is empty. -/
theorem SourceMap.lines_partition_mixed_breaks :
    (SourceMap.empty.addFile mixedBreaks).1.file? 1 = some mixedBreaks ∧
      Source.IsLineTable mixedBreaks.text [0, 2, 4, 6, 7, 9]
        ((SourceMap.empty.addFile mixedBreaks).1.lineText? 1)
        ((SourceMap.empty.addFile mixedBreaks).1.lineNumber 1) := by
  have stored : (SourceMap.empty.addFile mixedBreaks).1.file? 1 = some mixedBreaks := rfl
  have starts : Source.lineStarts mixedBreaks.text = [0, 2, 4, 6, 7, 9] := by decide
  exact ⟨stored, starts ▸ SourceMap.lines_partition_text stored⟩

end Caret
