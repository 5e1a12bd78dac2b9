import Caret.Proofs.Report.FixItReading
import Caret.Snippet.Basic
import Mathlib.Data.List.DropRight

/-!
# Hints in words and for programs

A hint that takes text out is told twice: in words, with the text quoted, and for programs, with
the coordinates of both ends. The words are found on the columns of the line of the caret, the
coordinates by offsets in the file. Both name the same text; around a range of tokens the words
leave out the padding.
-/

namespace Caret.Snippet

open Text (slice)

/-! ## Text without its padding -/

/-- A text without the padding at either end. -/
def withoutPadding (text : Text) : Text := (text.dropWhile isPadding).rdropWhile isPadding

private theorem withoutPadding_eq_nil_iff {text : Text} :
    withoutPadding text = [] ↔ ∀ c ∈ text, isPadding c = true := by
  rw [withoutPadding, List.rdropWhile_eq_nil_iff]
  constructor
  · intro left c member
    rw [← List.takeWhile_append_dropWhile (p := isPadding) (l := text), List.mem_append] at member
    rcases member with first | later
    · exact List.all_eq_true.mp List.all_takeWhile c first
    · exact left c later
  · intro padding c member
    exact padding c ((List.dropWhile_sublist _).subset member)

/-- A text that is more than padding is padding, what is left without it, and padding again. -/
theorem exists_append_withoutPadding {text : Text} (more : withoutPadding text ≠ []) :
    ∃ front behind, text = front ++ (withoutPadding text ++ behind) ∧
      (∀ c ∈ front, isPadding c = true) ∧ (∀ c ∈ behind, isPadding c = true) ∧
      (∀ c ∈ (withoutPadding text).head?, isPadding c = false) ∧
      ∀ c ∈ (withoutPadding text).getLast?, isPadding c = false := by
  have whole : withoutPadding text ++ (text.dropWhile isPadding).rtakeWhile isPadding =
      text.dropWhile isPadding :=
    List.rdropWhile_append_rtakeWhile
  refine ⟨text.takeWhile isPadding, (text.dropWhile isPadding).rtakeWhile isPadding, ?_, ?_, ?_,
    ?_, ?_⟩
  · rw [whole, List.takeWhile_append_dropWhile]
  · exact List.all_eq_true.mp List.all_takeWhile
  · exact fun c member ↦ List.mem_rtakeWhile_imp member
  · intro c first
    have start : (text.dropWhile isPadding).head? = some c := by
      rw [← whole, List.head?_append_of_ne_nil _ more]
      exact first
    simpa [start] using List.head?_dropWhile_not isPadding text
  · intro c last
    rw [withoutPadding, List.rdropWhile, List.getLast?_reverse] at last
    have start : ((text.dropWhile isPadding).reverse.dropWhile isPadding).head? = some c := last
    simpa [start] using List.head?_dropWhile_not isPadding (text.dropWhile isPadding).reverse

/-- Padding in front of something else is taken off as a whole. -/
theorem takeWhile_padding_append {padding rest : Text} (all : ∀ c ∈ padding, isPadding c = true)
    (stops : ∀ c ∈ rest.head?, isPadding c = false) :
    (padding ++ rest).takeWhile isPadding = padding := by
  rw [List.takeWhile_append_of_pos all]
  cases rest with
  | nil => exact List.append_nil _
  | cons c rest => rw [List.takeWhile_cons, stops c rfl, if_neg Bool.false_ne_true, List.append_nil]

private theorem skipPadding_append (front : Text) {padding rest : Text}
    (all : ∀ c ∈ padding, isPadding c = true) (stops : ∀ c ∈ rest.head?, isPadding c = false) :
    skipPadding (front ++ (padding ++ rest)) front.length =
      ((front.length + padding.length : Nat) : Int) := by
  rw [skipPadding, Int.toNat_natCast, List.drop_left, takeWhile_padding_append all stops]
  exact (Int.natCast_add _ _).symm

private theorem dropPadding_append {front padding : Text} (rest : Text)
    (all : ∀ c ∈ padding, isPadding c = true) (stops : ∀ c ∈ front.getLast?, isPadding c = false) :
    dropPadding (front ++ (padding ++ rest)) ((front.length + padding.length : Nat) : Int) =
      front.length := by
  have taken : (padding.reverse ++ front.reverse).takeWhile isPadding = padding.reverse :=
    takeWhile_padding_append (fun c member ↦ all c (List.mem_reverse.mp member))
      (by rw [List.head?_reverse]; exact stops)
  rw [dropPadding, Int.toNat_natCast, ← List.append_assoc, ← List.length_append, List.take_left,
    List.reverse_append, taken, List.length_reverse, List.length_append]
  omega

private theorem le_skipPadding (front rest : Text) {padding : Text}
    (all : ∀ c ∈ padding, isPadding c = true) :
    ((front.length + padding.length : Nat) : Int) ≤
      skipPadding (front ++ (padding ++ rest)) front.length := by
  rw [skipPadding, Int.toNat_natCast, List.drop_left, List.takeWhile_append_of_pos all,
    List.length_append]
  omega

private theorem dropPadding_le (front rest : Text) {padding : Text}
    (all : ∀ c ∈ padding, isPadding c = true) :
    dropPadding (front ++ (padding ++ rest)) ((front.length + padding.length : Nat) : Int) ≤
      front.length := by
  have back : ∀ c ∈ padding.reverse, isPadding c = true :=
    fun c member ↦ all c (List.mem_reverse.mp member)
  rw [dropPadding, Int.toNat_natCast, ← List.append_assoc, ← List.length_append, List.take_left,
    List.reverse_append, List.takeWhile_append_of_pos back, List.length_append,
    List.length_append, List.length_reverse]
  omega

private theorem slice_append (front middle behind : Text) :
    slice (front ++ (middle ++ behind)) front.length (front.length + middle.length) = middle := by
  rw [slice, ← List.append_assoc, ← List.length_append, List.take_left, List.drop_left]

private theorem exists_append_slice {text : Text} {start stop : Nat} (forward : start ≤ stop)
    (inside : stop ≤ text.length) :
    ∃ front behind, text = front ++ (slice text start stop ++ behind) ∧ front.length = start ∧
      start + (slice text start stop).length = stop := by
  refine ⟨text.take start, text.drop stop, ?_, ?_, ?_⟩
  · have before : text.take start = (text.take stop).take start := by
      rw [List.take_take, Nat.min_eq_left forward]
    rw [slice, ← List.append_assoc, before, List.take_append_drop, List.take_append_drop]
  · rw [List.length_take]
    omega
  · rw [slice, List.length_drop, List.length_take]
    omega

/-- The columns that are left of a part of a line are those of what is in the part between its
padding. -/
theorem columns_between_padding (front behind : Text) {before kept after : Text}
    (more : kept ≠ []) (padding : ∀ c ∈ before, isPadding c = true)
    (padding' : ∀ c ∈ after, isPadding c = true) (stops : ∀ c ∈ kept.head?, isPadding c = false)
    (stops' : ∀ c ∈ kept.getLast?, isPadding c = false) :
    let line := front ++ (before ++ (kept ++ after) ++ behind)
    let stop := front.length + (before ++ (kept ++ after)).length
    skipPadding line front.length = (front ++ before).length ∧
      dropPadding line stop = ((front ++ before).length + kept.length : Nat) := by
  intro line stop
  constructor
  · have parts : line = front ++ (before ++ (kept ++ (after ++ behind))) := by
      simp only [line, List.append_assoc]
    have head : ∀ c ∈ (kept ++ (after ++ behind)).head?, isPadding c = false := by
      rw [List.head?_append_of_ne_nil _ more]
      exact stops
    rw [parts, skipPadding_append front padding head, List.length_append]
  · have parts : line = front ++ before ++ kept ++ (after ++ behind) := by
      simp only [line, List.append_assoc]
    have tail : ∀ c ∈ (front ++ before ++ kept).getLast?, isPadding c = false := by
      rw [List.getLast?_append_of_ne_nil _ more]
      exact stops'
    have column : stop = (front ++ before ++ kept).length + after.length := by
      simp only [stop, List.length_append]
      omega
    rw [parts, column, dropPadding_append behind padding' tail, List.length_append]

/-- The columns that are left of a part of a line without its padding hold what is left of its
text. -/
theorem slice_of_padding (front named behind : Text) :
    let line := front ++ (named ++ behind)
    let first := skipPadding line front.length
    let last := dropPadding line ((front.length + named.length : Nat) : Int)
    (last ≤ first ↔ withoutPadding named = []) ∧
      (first < last → slice line first.toNat last.toNat = withoutPadding named) := by
  intro line first last
  -- In a part that is only padding the two scans pass each other, so they are only bounded there;
  -- otherwise each of them stops at an end of what is left.
  by_cases more : withoutPadding named = []
  · have all := withoutPadding_eq_nil_iff.mp more
    have beyond : _ ≤ first := le_skipPadding front behind all
    have back : last ≤ front.length := dropPadding_le front behind all
    exact ⟨⟨fun _ ↦ more, fun _ ↦ by omega⟩, fun _ ↦ by omega⟩
  · obtain ⟨before, after, whole, padding, padding', stops, stops'⟩ :=
      exists_append_withoutPadding more
    have size : 0 < (withoutPadding named).length := List.length_pos_iff.mpr more
    have columns := columns_between_padding front behind more padding padding' stops stops'
    rw [← whole] at columns
    obtain ⟨skipped, dropped⟩ :
      first = (front ++ before).length ∧
        last = ((front ++ before).length + (withoutPadding named).length : Nat) := columns
    have parts : line = front ++ before ++ (withoutPadding named ++ (after ++ behind)) := by
      show front ++ (named ++ behind) = _
      conv_lhs => rw [whole]
      simp only [List.append_assoc]
    refine ⟨⟨fun _ ↦ by omega, fun empty ↦ absurd empty more⟩, fun _ ↦ ?_⟩
    rw [skipped, dropped, Int.toNat_natCast, Int.toNat_natCast, parts]
    exact slice_append _ _ _

/-- The text that a range of columns of a line names: of tokens, the text without padding. -/
def quotedText (isToken : Bool) (named : Text) : Text :=
  if isToken then withoutPadding named else named

/-- The columns of a range of a line are empty or inverted exactly if it names no text, and hold
the text that it names otherwise. -/
theorem slice_eq_quotedText (isToken : Bool) {line : Text} {start stop : Nat}
    (forward : start ≤ stop) (inside : stop ≤ line.length) :
    let first : Int := if isToken then skipPadding line start else start
    let last : Int := if isToken then dropPadding line stop else stop
    (last ≤ first ↔ quotedText isToken (slice line start stop) = []) ∧
      (first < last →
        slice line first.toNat last.toNat = quotedText isToken (slice line start stop)) := by
  obtain ⟨front, behind, whole, size, reach⟩ := exists_append_slice forward inside
  cases isToken with
  | false =>
    refine ⟨?_, fun _ ↦ rfl⟩
    show (stop : Int) ≤ start ↔ slice line start stop = []
    rw [← List.length_eq_zero_iff]
    omega
  | true =>
    have parts := slice_of_padding front (slice line start stop) behind
    rw [← whole, size, reach] at parts
    exact parts

/-! ## The line of a place -/

/-- A line of a file, by its start and its text. -/
structure Place.OfLine (map : SourceMap) (place : Place) (entry : SourceFile) (start : Nat) :
    Prop where
  stored : map.file? place.file = some entry
  known : place.line ≠ 0
  starts : Source.lineStart? entry.text place.line = some start
  text : place.text = (entry.text.drop start).takeWhile fun c ↦ !Source.isLineBreak c

/-- The place of a location is on a line of its file. -/
theorem exists_ofLine_of_place? {map : SourceMap} {loc : Location} {place : Place}
    (h : place? map loc = some place) : ∃ entry start, place.OfLine map entry start := by
  rw [place?] at h
  split at h
  · cases h
  · next known =>
    obtain ⟨text, line, rfl⟩ := Option.map_eq_some_iff.mp h
    obtain ⟨entry, stored, line⟩ := Option.bind_eq_some_iff.mp line
    obtain ⟨start, starts, rfl⟩ := Option.map_eq_some_iff.mp line
    exact ⟨entry, start, stored, known, starts, rfl⟩

namespace Place.OfLine

variable {map : SourceMap} {place : Place} {entry : SourceFile} {start : Nat}
  (h : place.OfLine map entry start)

include h

/-- The line ends behind its text. -/
theorem lineEnd_eq : Source.lineEnd entry.text start = start + place.text.length := by
  rw [Source.lineEnd, h.text]

/-- What is behind the start of the line and not behind its text is on the line. -/
theorem onLine {offset : Int} (forward : (start : Int) ≤ offset)
    (inside : offset ≤ start + place.text.length) : Source.OnLine entry.text offset := by
  refine ⟨place.line, start, h.starts, forward, ?_⟩
  rw [h.lineEnd_eq]
  omega

/-- An offset with the number of the line is in the file and not in front of the line; its column is
counted from the start of the line. -/
theorem of_lineNumber {offset : Int} (line : map.lineNumber place.file offset = place.line) :
    (0 ≤ offset ∧ offset ≤ entry.text.length) ∧ (start : Int) ≤ offset ∧
      map.columnNumber place.file offset = offset - start + 1 := by
  simp only [SourceMap.lineNumber, SourceMap.columnNumber, h.stored] at line ⊢
  have known : Source.lineNumber entry.text offset ≠ 0 := fun none_known ↦
    h.known (by rw [← line, none_known]; rfl)
  have bounds := Source.bounds_of_lineNumber_ne_zero known
  obtain ⟨first, starts, before, -⟩ := Source.exists_start_of_bounds bounds.1 bounds.2
  have same : first = start := Option.some.inj (starts.symm.trans (line ▸ h.starts))
  rw [same] at starts before
  refine ⟨bounds, before, ?_⟩
  rw [Source.columnNumber, starts]

private theorem slice_eq {first last : Nat} (inside : last ≤ place.text.length) :
    slice entry.text (start + first) (start + last) = slice place.text first last := by
  have front := List.prefix_iff_eq_take.mp
    (List.takeWhile_prefix (l := entry.text.drop start) fun c ↦ !Source.isLineBreak c)
  rw [← h.text] at front
  have same : place.text.take last = (entry.text.drop start).take last := by
    rw [front, List.take_take, Nat.min_eq_left inside]
  rw [slice, slice, same, ← List.drop_drop, List.drop_take, Nat.add_sub_cancel_left]

end Place.OfLine

/-! ## Hints on the line of a place -/

/-- A hint is about a part of the line of a place: both ends are places of the file and on that
line, and the end behind the last token is neither in front of the start nor behind the text of
the line. -/
structure Place.Holds (map : SourceMap) (place : Place) (hint : FixItHint) : Prop where
  startInFile : hint.range.start.isFile = true
  stopInFile : hint.range.stop.isFile = true
  startFile : hint.range.start.file = place.file
  stopFile : hint.range.stop.file = place.file
  startLine : map.lineNumber place.file hint.range.start.offset = place.line
  stopLine : map.lineNumber place.file hint.range.stop.offset = place.line
  forward : hint.range.start.offset ≤ FixItReader.stopOffset map hint
  inside : map.columnNumber place.file hint.range.stop.offset +
    (if hint.range.isToken then (map.tokenLength hint.range.stop : Int) else 0) ≤
      place.text.length + 1

namespace Place.Holds

variable {map : SourceMap} {place : Place} {hint : FixItHint} {entry : SourceFile} {start : Nat}
  (h : place.Holds map hint) (line : place.OfLine map entry start)

include h

/-- The end of the hint is that of its range, or that of the last token. -/
theorem stopOffset_eq : FixItReader.stopOffset map hint = hint.range.stop.offset +
    if hint.range.isToken then (map.tokenLength hint.range.stop : Int) else 0 := by
  rw [FixItReader.stopOffset, FixItReader.expansionSite_of_isFile map h.stopInFile]

include line

/-- Both ends of the hint are on the line. -/
theorem bounds : (start : Int) ≤ hint.range.start.offset ∧ (start : Int) ≤ hint.range.stop.offset ∧
    FixItReader.stopOffset map hint ≤ start + place.text.length := by
  obtain ⟨-, first, -⟩ := line.of_lineNumber h.startLine
  obtain ⟨-, last, column⟩ := line.of_lineNumber h.stopLine
  have inside := h.inside
  have stop := h.stopOffset_eq
  omega

/-- The hint is about a range of the file. -/
theorem inFile : FixItReader.InFile map entry hint where
  stored := h.startFile ▸ line.stored
  startInFile := h.startInFile
  stopInFile := h.stopInFile
  sameFile := h.stopFile.trans h.startFile.symm
  startBounds := (line.of_lineNumber h.startLine).1
  stopBounds := (line.of_lineNumber h.stopLine).1
  startUnsplit := by
    obtain ⟨first, -, last⟩ := h.bounds line
    exact (line.onLine first (Int.le_trans h.forward last)).not_splitsBreak
  stopUnsplit := by
    obtain ⟨first, -, last⟩ := h.bounds line
    exact (line.onLine (Int.le_trans first h.forward) last).not_splitsBreak

private theorem project?_eq {first last : Nat} (starts : hint.range.start.offset = start + first)
    (stops : FixItReader.stopOffset map hint = start + last) :
    project? map hint.range place.line place.file place.text =
      let first := if hint.range.isToken then skipPadding place.text first else first
      let last := if hint.range.isToken then dropPadding place.text last else last
      if last < first then none else some ⟨first + 1, last + 1⟩ := by
  have inFile := h.inFile line
  obtain ⟨-, -, column⟩ := line.of_lineNumber h.startLine
  obtain ⟨-, behind, column'⟩ := line.of_lineNumber h.stopLine
  have ends : siteEnds map hint.range = (hint.range.start, hint.range.stop) := by
    simp [siteEnds, inFile.expansionSite_start, inFile.expansionSite_stop,
      FixItReader.isMacro_of_isFile h.stopInFile]
  have width := (h.bounds line).2.2
  have token := h.stopOffset_eq
  have startColumn : max (map.columnNumber place.file hint.range.start.offset - 1) 0 = first := by
    omega
  have stopColumn : map.columnNumber place.file hint.range.stop.offset - 1 +
      (if hint.range.isToken then (map.tokenLength hint.range.stop : Int) else 0) = last := by
    omega
  have known : map.columnNumber place.file hint.range.stop.offset ≠ 0 := by
    omega
  have fits : (last : Int) ≤ place.text.length := by
    omega
  simp only [project?, inFile.isValid, ends, inFile.expansionSite_start, inFile.expansionSite_stop,
    h.startFile, h.stopFile, h.startLine, h.stopLine, startColumn, stopColumn, known,
    Int.min_eq_left fits, Bool.not_true, Bool.false_eq_true, ne_eq, not_true_eq_false, or_self,
    gt_iff_lt, Int.lt_irrefl, if_true, if_false]

private theorem removedText?_eq {first last : Nat}
    (starts : hint.range.start.offset = start + first)
    (stops : FixItReader.stopOffset map hint = start + last) :
    removedText? map place hint =
      let quoted := quotedText hint.range.isToken (slice place.text first last)
      if quoted = [] then none else some quoted := by
  have inFile := h.inFile line
  have fits := (h.bounds line).2.2
  have forward := h.forward
  have ordered : first ≤ last := by omega
  have inside : last ≤ place.text.length := by omega
  obtain ⟨empty, text⟩ := slice_eq_quotedText hint.range.isToken ordered inside
  simp only [removedText?, inFile.isValid, inFile.expansionSite_start, inFile.expansionSite_stop,
    h.startFile, h.stopFile, h.startLine, h.stopLine, h.project?_eq line starts stops,
    Bool.not_true, Bool.false_eq_true, ne_eq, not_true_eq_false, or_self, if_false]
  generalize (if hint.range.isToken = true then dropPadding place.text last else last) = stop
    at empty text ⊢
  generalize (if hint.range.isToken = true then skipPadding place.text first else first) = start
    at empty text ⊢
  rcases Int.lt_trichotomy stop start with inverted | rfl | more
  · rw [if_pos inverted, if_pos (empty.mp (Int.le_of_lt inverted))]
  · rw [if_neg (Int.lt_irrefl _), if_pos (empty.mp (Int.le_refl _))]
    exact if_pos (beq_self_eq_true _)
  · have some_text : ¬ quotedText hint.range.isToken (slice place.text first last) = [] :=
      fun none_left ↦ Int.not_le.mpr more (empty.mpr none_left)
    have apart : ¬ ColumnRange.isEmpty ⟨start + 1, stop + 1⟩ = true := by
      rw [ColumnRange.isEmpty, beq_iff_eq]
      exact fun same ↦ Int.ne_of_lt more ((Int.add_left_inj 1).mp same)
    rw [if_neg (Int.lt_asymm more), if_neg some_text]
    simp only [if_neg apart, Int.add_sub_cancel, text more]

end Place.Holds

/-! ## Words and coordinates -/

/-- The text of a file between the places that coordinates lead to. -/
def textBetween (map : SourceMap) (file : Int) (start stop : FixItReader.Coordinates) : Text :=
  match map.file? file with
  | none => []
  | some entry =>
    slice entry.text (start.location map file).offset.toNat (stop.location map file).offset.toNat

/-- What a hint that takes text out says in words. -/
def inWords (hint : FixItHint) (quoted : Text) : Text :=
  if hint.kind = .replacement then
    "replace '".toList ++ quoted ++ "' with '".toList ++ hint.text ++ ['\'']
  else "remove '".toList ++ quoted ++ ['\'']

private theorem noteText?_eq (map : SourceMap) (place : Place) {hint : FixItHint}
    (takes : hint.kind ≠ .insertion) :
    noteText? map place hint = (removedText? map place hint).map (inWords hint) := by
  unfold noteText? inWords
  cases kind : hint.kind with
  | insertion => exact absurd kind takes
  | removal => rfl
  | replacement => rfl

private theorem exists_fixItLine?_and_noteText? {map : SourceMap} {place : Place} {hint : FixItHint}
    {entry : SourceFile} {start : Nat} (line : place.OfLine map entry start)
    (h : place.Holds map hint) (takes : hint.kind ≠ .insertion) :
    ∃ printed back, fixItLine? map hint = some printed ∧ FixItReader.read? printed = some back ∧
      let quoted := quotedText hint.range.isToken
        (textBetween map place.file back.start back.stop)
      noteText? map place hint = if quoted = [] then none else some (inWords hint quoted) := by
  obtain ⟨printed, written, presumed, back, -, read, -, -, starts, stops⟩ :=
    (h.inFile line).givesBack
  rw [h.startFile] at starts stops
  obtain ⟨before, -, fits⟩ := h.bounds line
  have forward := h.forward
  obtain ⟨first, first_eq⟩ : ∃ first : Nat, hint.range.start.offset = start + first :=
    ⟨(hint.range.start.offset - start).toNat, by omega⟩
  obtain ⟨last, last_eq⟩ : ∃ last : Nat, FixItReader.stopOffset map hint = start + last :=
    ⟨(FixItReader.stopOffset map hint - start).toNat, by omega⟩
  have inside : last ≤ place.text.length := by omega
  have named : textBetween map place.file back.start back.stop = slice place.text first last := by
    rw [textBetween, line.stored, ← line.slice_eq inside]
    dsimp only
    rw [starts, stops, first_eq, Location.inFile, last_eq]
    rfl
  refine ⟨printed, back, written, read, ?_⟩
  rw [noteText?_eq map place takes, h.removedText?_eq line first_eq last_eq, named]
  dsimp only
  split <;> rfl

private theorem fixitNotes_eq {map : SourceMap} {loc : Location} {place : Place}
    (shown : place? map loc = some place) {hints : List FixItHint} {hint : FixItHint}
    {index : Nat} (there : hints[index]? = some hint) (colors : Bool) :
    fixitNotes map loc hints colors =
      fixitNotes map loc (hints.take index) colors ++
        ((noteText? map place hint).map (plainNote colors)).toList ++
        fixitNotes map loc (hints.drop (index + 1)) colors := by
  obtain ⟨inside, rfl⟩ := List.getElem?_eq_some_iff.mp there
  have parts : hints = hints.take index ++ hints[index] :: hints.drop (index + 1) := by
    rw [← List.drop_eq_getElem_cons inside, List.take_append_drop]
  unfold fixitNotes
  rw [shown]
  dsimp only
  -- The other sides mention the list as well, so only the left one is taken apart.
  conv_lhs => rw [parts]
  rw [List.filterMap_append, List.map_append, List.append_assoc, List.filterMap_cons]
  cases noteText? map place hints[index] <;> rfl

private theorem fixItLine?_of_getElem? {map : SourceMap} {hints : List FixItHint} {hint : FixItHint}
    {index : Nat} {line : Text} (there : hints[index]? = some hint)
    (printed : (fixItLinesFrom map hints)[index]? = some line) :
    fixItLine? map hint = some line := by
  induction hints generalizing index with
  | nil => cases there
  | cons first rest ih =>
    rw [fixItLinesFrom] at printed
    split at printed
    · next own written =>
      cases index with
      | zero =>
        cases there
        cases printed
        exact written
      | succ index => exact ih there printed
    · cases printed

/-- The two forms of a hint name the same text. Of hints in any list, a hint that takes out a part
of the line of the caret has a line for programs, whose coordinates lead to some text of the file;
in words the text is quoted, of tokens without the padding at either end; and nothing is said in
words exactly if that leaves nothing to quote. -/
theorem words_quote_text_between_coordinates {map : SourceMap} {loc : Location} {place : Place}
    (shown : place? map loc = some place) {hints : List FixItHint} {hint : FixItHint} {index : Nat}
    (there : hints[index]? = some hint) (h : place.Holds map hint)
    (takes : hint.kind ≠ .insertion) :
    ∃ line back, fixItLines map [hint] = [line] ∧ FixItReader.read? line = some back ∧
      (∀ printed, (fixItLines map hints)[index]? = some printed → printed = line) ∧
      let named := textBetween map place.file back.start back.stop
      let quoted := if hint.range.isToken then withoutPadding named else named
      ∀ colors, fixitNotes map loc hints colors =
        fixitNotes map loc (hints.take index) colors ++
          (if quoted = [] then [] else [plainNote colors (inWords hint quoted)]) ++
          fixitNotes map loc (hints.drop (index + 1)) colors := by
  obtain ⟨entry, start, line⟩ := exists_ofLine_of_place? shown
  obtain ⟨own, back, written, read, words⟩ := exists_fixItLine?_and_noteText? line h takes
  refine ⟨own, back, ?alone, read, ?among, ?words⟩
  case alone =>
    have inFile := (h.inFile line).isInFile
    rw [fixItLines, List.all_cons, inFile]
    show fixItLinesFrom map [hint] = [own]
    rw [fixItLinesFrom, written]
    rfl
  case among =>
    intro printed among
    rw [fixItLines] at among
    split at among
    · exact Option.some.inj ((fixItLine?_of_getElem? there among).symm.trans written)
    · cases among
  case words =>
    intro named quoted colors
    rw [fixitNotes_eq shown there, words]
    show _ ++ ((if quoted = [] then none else some (inWords hint quoted)).map
      (plainNote colors)).toList ++ _ = _
    split <;> rfl

/-- A replacement of a token and of the blanks in front of it, on a line behind a carriage return
and a line feed. -/
theorem words_quote_token_without_blanks :
    let map : SourceMap := ⟨[{ name := "a.c".toList, text := "x\r\n  yy = 1;\n".toList }], []⟩
    let place : Place := ⟨1, 2, 3, "  yy = 1;".toList⟩
    let hint : FixItHint := ⟨⟨.inFile 1 3, .inFile 1 5, true⟩, "z".toList⟩
    (place? map (.inFile 1 5) = some place ∧ place.Holds map hint ∧ hint.kind ≠ .insertion) ∧
    ∃ line back, fixItLines map [hint] = [line] ∧ FixItReader.read? line = some back ∧
      textBetween map 1 back.start back.stop = "  yy".toList ∧
      ∀ colors, fixitNotes map (.inFile 1 5) [hint] colors =
        [plainNote colors "replace 'yy' with 'z'".toList] := by
  intro map place hint
  have shown : place? map (.inFile 1 5) = some place := by decide +kernel
  have holds : place.Holds map hint := by constructor <;> decide +kernel
  have takes : hint.kind ≠ .insertion := by decide
  have there : [hint][0]? = some hint := rfl
  obtain ⟨line, back, written, read, -, words⟩ :=
    words_quote_text_between_coordinates shown there holds takes
  have printed : fixItLines map [hint] = ["fix-it:\"a.c\":\x7b2:1-2:5\x7d:\"z\"".toList] := by
    decide +kernel
  have own : "fix-it:\"a.c\":\x7b2:1-2:5\x7d:\"z\"".toList = line :=
    (List.cons.inj (printed.symm.trans written)).1
  have back_eq : FixItReader.read? line =
      some ⟨"a.c".toUTF8.toList, ⟨2, 1⟩, ⟨2, 5⟩, "z".toUTF8.toList⟩ := by
    rw [← own]
    decide +kernel
  have named : textBetween map 1 back.start back.stop = "  yy".toList := by
    rw [← Option.some.inj (back_eq.symm.trans read)]
    decide +kernel
  have quoted : withoutPadding "  yy".toList = "yy".toList := by decide +kernel
  refine ⟨⟨shown, holds, takes⟩, line, back, written, read, named, fun colors ↦ ?_⟩
  refine (words colors).trans ?_
  show _ ++ (if withoutPadding (textBetween map 1 back.start back.stop) = [] then []
    else [plainNote colors (inWords hint
      (withoutPadding (textBetween map 1 back.start back.stop)))]) ++ _ = _
  rw [named, quoted]
  rfl

end Caret.Snippet
