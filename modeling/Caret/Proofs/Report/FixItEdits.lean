import Caret.Proofs.Report.RangeCoordinates

/-!
# Machine-readable hints as edits

A tool applies the lines of hints as edits of the files that they name. The ends of a hint are given
as lines and columns of files, and each is written as a position of its own file. So the line of a
hint is an edit if both ends are in one file and the end, behind its last token, is not in front of
the start. A hint that is inverted or has its ends in two files is not left out: it has a line like
any other.
-/

namespace Caret

namespace Source

variable {text : Text} {offset other : Int}

private theorem le_iff_line_column (forward : 0 ≤ offset) (inside : offset ≤ text.length)
    (forward' : 0 ≤ other) (inside' : other ≤ text.length) :
    offset ≤ other ↔ lineNumber text offset < lineNumber text other ∨
      lineNumber text offset = lineNumber text other ∧
        columnNumber text offset ≤ columnNumber text other := by
  obtain ⟨start, starts, before, -⟩ := exists_start_of_bounds forward inside
  obtain ⟨start', starts', before', -⟩ := exists_start_of_bounds forward' inside'
  have upTo := le_lineNumber_iff starts forward' inside'
  have downTo := le_lineNumber_iff starts' forward inside
  rcases Nat.lt_trichotomy (lineNumber text offset) (lineNumber text other) with
    earlier | same | later
  · have : ¬(start' : Int) ≤ offset := mt downTo.mpr (by omega)
    exact iff_of_true (by omega) (Or.inl earlier)
  · obtain rfl : start = start' := Option.some.inj (starts.symm.trans (same ▸ starts'))
    rw [columnNumber_eq_of_lineStart? starts, columnNumber_eq_of_lineStart? starts']
    omega
  · have : ¬(start : Int) ≤ other := mt upTo.mpr (by omega)
    exact iff_of_false (by omega) (by omega)

end Source

/-! ## Places given as lines and columns -/

namespace SourceMap

variable {map : SourceMap} {loc : Location}

/-- A location is given as a line and a column of a file. -/
def GivenByLine (map : SourceMap) (loc : Location) : Prop :=
  ∃ file line column, loc = map.locationAt file line column

/-- No line and column lead into an expansion. -/
theorem GivenByLine.isMacro (h : map.GivenByLine loc) : loc.isMacro = false := by
  obtain ⟨file, line, column, rfl⟩ := h
  unfold locationAt
  split <;> rfl

/-- A line and a column lead to a place of a known file, if anywhere. -/
theorem GivenByLine.hasPlace (h : map.GivenByLine loc) (valid : loc.isValid = true) :
    loc.isFile = true ∧ map.HasPlace loc := by
  obtain ⟨file, line, column, rfl⟩ := h
  unfold locationAt at valid ⊢
  split at valid
  · next offset found =>
    obtain ⟨entry, stored, onLine⟩ := Option.bind_eq_some_iff.mp found
    have positive := (getElem?_of_file? stored).1
    exact ⟨Location.isFile_inFile positive offset,
      entry, stored, (Source.onLine_of_offsetAt? onLine).bounds⟩
  · cases valid

end SourceMap

/-- The ends of a hint are given as lines and columns of files. -/
structure FixItHint.GivenByLines (map : SourceMap) (hint : FixItHint) : Prop where
  start : map.GivenByLine hint.range.start
  stop : map.GivenByLine hint.range.stop

/-- The ends of a hint are in one file, and the end behind its last token is not in front of the
start. -/
def FixItHint.IsStraight (map : SourceMap) (hint : FixItHint) : Prop :=
  hint.range.stop.file = hint.range.start.file ∧
    hint.range.start.offset ≤ FixItReader.stopOffset map hint

instance (map : SourceMap) (hint : FixItHint) : Decidable (hint.IsStraight map) :=
  inferInstanceAs (Decidable (_ ∧ _))

/-- A hint whose ends are given as lines and columns is for a tool exactly if both of them exist. -/
theorem FixItHint.GivenByLines.isInFile_eq {map : SourceMap} {hint : FixItHint}
    (h : hint.GivenByLines map) : hint.isInFile = hint.range.isValid := by
  rw [FixItHint.isInFile, h.start.isMacro, h.stop.isMacro, Bool.not_false, Bool.and_true,
    Bool.and_true]

namespace FixItReader

/-! ## Edits -/

/-- A position of a text: the text has the line, and columns start at one. -/
def Coordinates.On (text : Text) (place : Coordinates) : Prop :=
  1 ≤ place.line ∧ place.line ≤ (Source.lineStarts text).length ∧ 1 ≤ place.column

/-- A position is not behind another one. -/
def Coordinates.AtOrBefore (place other : Coordinates) : Prop :=
  place.line < other.line ∨ place.line = other.line ∧ place.column ≤ other.column

/-- A hint that a tool can apply to a text: both positions are on lines of the text, the first one
not behind the second one. -/
structure Hint.IsEdit (text : Text) (back : Hint) : Prop where
  start : back.start.On text
  stop : back.stop.On text
  ordered : back.start.AtOrBefore back.stop

/-- The line of a hint is an edit of the file in which the hint starts. -/
def IsEditOfFile (map : SourceMap) (hint : FixItHint) (line : Text) : Prop :=
  ∃ entry back, map.file? hint.range.start.file = some entry ∧ read? line = some back ∧
    back.IsEdit entry.text

/-- A line says where its hint is: it has the presumed name of the file in which the hint starts,
the position of the start in that file, and the position of the end, behind the last token, in the
file in which the hint ends. If that is one file, the line is an edit of it exactly if the hint is
straight. -/
def Locates (map : SourceMap) (hint : FixItHint) (line : Text) : Prop :=
  ∃ presumed back entry other, map.presumed? hint.range.start = some presumed ∧
    map.file? hint.range.start.file = some entry ∧
    map.file? hint.range.stop.file = some other ∧ read? line = some back ∧
    back.file = utf8Bytes presumed.filename ∧
    back.start = coordinatesOf map hint.range.start.file hint.range.start.offset ∧
    back.stop = coordinatesOf map hint.range.stop.file (stopOffset map hint) ∧
    back.start.On entry.text ∧ back.stop.On other.text ∧
    (hint.range.stop.file = hint.range.start.file →
      (back.IsEdit entry.text ↔ hint.IsStraight map))

variable {map : SourceMap} {file : Int} {entry : SourceFile} {offset other : Int}

/-- Coordinates in a file are those in its text. -/
theorem coordinatesOf_of_stored (stored : map.file? file = some entry) (offset : Int) :
    coordinatesOf map file offset =
      ⟨Source.lineNumber entry.text offset, Source.columnNumber entry.text offset⟩ := by
  rw [coordinatesOf, SourceMap.lineNumber, SourceMap.columnNumber, stored]

/-- An offset of a file, or the end of the file, has a position there. -/
theorem coordinatesOf_on (stored : map.file? file = some entry) (forward : 0 ≤ offset)
    (inside : offset ≤ entry.text.length) : (coordinatesOf map file offset).On entry.text := by
  obtain ⟨start, starts, before, -⟩ := Source.exists_start_of_bounds forward inside
  obtain ⟨first, last⟩ := Source.exists_lineStart?_iff.mp ⟨start, starts⟩
  have column := Source.columnNumber_eq_of_lineStart? starts
  rw [coordinatesOf_of_stored stored]
  exact ⟨first, last, show 1 ≤ Source.columnNumber entry.text offset by omega⟩

private theorem coordinatesOf_atOrBefore_iff (stored : map.file? file = some entry)
    (forward : 0 ≤ offset) (inside : offset ≤ entry.text.length) (forward' : 0 ≤ other)
    (inside' : other ≤ entry.text.length) :
    (coordinatesOf map file offset).AtOrBefore (coordinatesOf map file other) ↔
      offset ≤ other := by
  rw [coordinatesOf_of_stored stored, coordinatesOf_of_stored stored,
    Source.le_iff_line_column forward inside forward' inside', Coordinates.AtOrBefore]
  simp only [Int.ofNat_lt, Int.ofNat_inj]

private theorem exists_locates {hint : FixItHint} (given : hint.GivenByLines map)
    (valid : hint.range.isValid = true) :
    ∃ line, fixItLine? map hint = some line ∧ Locates map hint line := by
  obtain ⟨startValid, stopValid⟩ := Bool.and_eq_true_iff.mp valid
  obtain ⟨startInFile, entry, stored, forward, inside⟩ := given.start.hasPlace startValid
  obtain ⟨stopInFile, other, stored', forward', inside'⟩ := given.stop.hasPlace stopValid
  obtain ⟨ahead, last⟩ := stopOffset_bounds_of_isFile stopInFile stored' inside'
  have behind : 0 ≤ stopOffset map hint := Int.le_trans forward' ahead
  obtain ⟨presumed, position⟩ := Option.isSome_iff_exists.mp
    ((SourceMap.isSome_presumed?_iff (isMacro_of_isFile startInFile)).mpr
      ⟨entry, stored, forward, inside⟩)
  obtain ⟨line, written, read⟩ := read?_of_presumed? position
  rw [expansionSite_of_isFile map startInFile, expansionSite_of_isFile map stopInFile] at read
  have start := coordinatesOf_on stored forward inside
  have stop := coordinatesOf_on stored' behind last
  refine ⟨line, written, presumed, _, entry, other, position, stored, stored', read, rfl, rfl, rfl,
    start, stop, fun sameFile ↦ ?_⟩
  obtain rfl : other = entry :=
    Option.some.inj (stored'.symm.trans ((congrArg map.file? sameFile).trans stored))
  rw [sameFile] at stop ⊢
  have ordered := coordinatesOf_atOrBefore_iff stored forward inside behind last
  exact ⟨fun edit ↦ ⟨sameFile, ordered.mp edit.ordered⟩,
    fun straight ↦ ⟨start, stop, ordered.mpr straight.2⟩⟩

/-- There are no lines if one of the hints has an end that does not exist. -/
theorem fixItLines_eq_nil {hints : List FixItHint} (given : ∀ hint ∈ hints, hint.GivenByLines map)
    (refused : ∃ hint ∈ hints, hint.range.isValid = false) : fixItLines map hints = [] := by
  obtain ⟨hint, member, invalid⟩ := refused
  refine if_neg fun all ↦ ?_
  have usable := List.all_eq_true.mp all hint member
  rw [(given hint member).isInFile_eq, invalid] at usable
  cases usable

/-- There is a line for each hint, in their order, if the ends of all hints exist. -/
theorem forall₂_locates {hints : List FixItHint}
    (given : ∀ hint ∈ hints, hint.GivenByLines map)
    (valid : ∀ hint ∈ hints, hint.range.isValid = true) :
    List.Forall₂ (Locates map) hints (fixItLines map hints) := by
  have located (hint) (member : hint ∈ hints) :=
    exists_locates (given hint member) (valid hint member)
  have usable : hints.all (·.isInFile) = true :=
    List.all_eq_true.mpr fun hint member ↦
      (given hint member).isInFile_eq.trans (valid hint member)
  have whole : (hints.takeWhile fun hint ↦ (fixItLine? map hint).isSome) = hints := by
    refine List.takeWhile_eq_self_iff.mpr fun hint member ↦ ?_
    obtain ⟨line, written, -⟩ := located hint member
    rw [written]
    rfl
  have lines := fixItLinesFrom_forall₂ map hints
  rw [whole] at lines
  rw [fixItLines, if_pos usable]
  refine ((List.forall₂_and_left _ _).mpr ⟨located, lines⟩).imp ?_
  rintro hint line ⟨⟨line', written', locates⟩, written⟩
  obtain rfl : line' = line := Option.some.inj (written'.symm.trans written)
  exact locates

/-- Hints whose ends are given as lines and columns of files are written for a tool. If one of the
ends does not exist, there are no lines. If all of them exist, each hint has a line, in their order,
with the presumed name of the file of its start, its position there and the position of its end in
the file of the end; within one file this is an edit exactly if the end is not in front of the
start. So a tool is only given edits of one file, one for each straight hint, exactly if an end does
not exist or all hints are straight. -/
theorem fixItLines_as_edits {hints : List FixItHint}
    (given : ∀ hint ∈ hints, hint.GivenByLines map) :
    ((∃ hint ∈ hints, hint.range.isValid = false) → fixItLines map hints = []) ∧
    ((∀ hint ∈ hints, hint.range.isValid = true) →
      List.Forall₂ (Locates map) hints (fixItLines map hints)) ∧
    ((∀ pair ∈ hints.zip (fixItLines map hints),
        pair.1.IsStraight map ∧ IsEditOfFile map pair.1 pair.2) ↔
      (∃ hint ∈ hints, hint.range.isValid = false) ∨ ∀ hint ∈ hints, hint.IsStraight map) := by
  refine ⟨fixItLines_eq_nil given, forall₂_locates given, ?_⟩
  by_cases refused : ∃ hint ∈ hints, hint.range.isValid = false
  · refine iff_of_true ?_ (Or.inl refused)
    rw [fixItLines_eq_nil given refused, List.zip_nil_right]
    exact fun pair member ↦ absurd member List.not_mem_nil
  · have valid (hint) (member : hint ∈ hints) : hint.range.isValid = true :=
      eq_true_of_ne_false fun invalid ↦ refused ⟨hint, member, invalid⟩
    obtain ⟨length, locates⟩ := List.forall₂_iff_zip.mp (forall₂_locates given valid)
    rw [or_iff_right refused]
    constructor
    · intro edits hint member
      rw [← List.map_fst_zip (Nat.le_of_eq length)] at member
      obtain ⟨pair, paired, rfl⟩ := List.mem_map.mp member
      exact (edits pair paired).1
    · rintro straight ⟨hint, line⟩ paired
      have ordered := straight hint (List.of_mem_zip paired).1
      obtain ⟨-, back, entry, -, -, stored, -, read, -, -, -, -, -, isEdit_iff⟩ := locates paired
      exact ⟨ordered, entry, back, stored, read, (isEdit_iff ordered.1).mpr ordered⟩

/-- An inverted hint has a line, and so has a hint that starts in a file of two lines and ends on
the third line of another file. -/
theorem inverted_and_crossing_hints_written :
    let first : SourceFile := { name := "a.c".toList, text := "int x;\n".toList }
    let second : SourceFile := { name := "b.c".toList, text := "y\n\nz\n".toList }
    let map := ((SourceMap.empty.addFile first).1.addFile second).1
    let inverted : FixItHint := ⟨⟨map.locationAt 1 1 5, map.locationAt 1 1 2, false⟩, []⟩
    let crossing : FixItHint := ⟨⟨map.locationAt 1 1 1, map.locationAt 2 3 2, false⟩, []⟩
    let hints := [inverted, crossing]
    (∀ hint ∈ hints, hint.GivenByLines map) ∧
    (∀ hint ∈ hints, hint.range.isValid = true ∧ ¬hint.IsStraight map) ∧
    fixItLines map hints =
      ["fix-it:\"a.c\":\x7b1:5-1:2\x7d:\"\"".toList, "fix-it:\"a.c\":\x7b1:1-3:2\x7d:\"\"".toList] ∧
    ¬∀ pair ∈ hints.zip (fixItLines map hints),
      pair.1.IsStraight map ∧ IsEditOfFile map pair.1 pair.2 := by
  intro first second map inverted crossing hints
  have given : ∀ hint ∈ hints, hint.GivenByLines map := by
    intro hint member
    rcases List.mem_pair.mp member with rfl | rfl
    · exact ⟨⟨1, 1, 5, rfl⟩, ⟨1, 1, 2, rfl⟩⟩
    · exact ⟨⟨1, 1, 1, rfl⟩, ⟨2, 3, 2, rfl⟩⟩
  have turned : ∀ hint ∈ hints, hint.range.isValid = true ∧ ¬hint.IsStraight map := by
    decide +kernel
  refine ⟨given, turned, by decide +kernel, ?_⟩
  rw [(fixItLines_as_edits given).2.2]
  rintro (⟨hint, member, invalid⟩ | straight)
  · exact Bool.false_ne_true (invalid.symm.trans (turned hint member).1)
  · exact (turned inverted List.mem_cons_self).2 (straight inverted List.mem_cons_self)

end FixItReader

end Caret
