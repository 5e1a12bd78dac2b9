import Caret.Proofs.Report.FixItCompleteness
import Caret.Proofs.Report.FixItReading
import Caret.Proofs.Source.LineRoundTrip
import Caret.Proofs.Source.TokenShape
import Caret.Report.LocationText

/-!
# Coordinates of a range, in front of a message and for a tool

The ends of a range are shown twice, as lines and columns in braces: in front of the message, and in
the machine-readable line of a hint. Both show the same start. Behind a last token, the message
counts columns on the line where the token starts, while the hint has the line on which the token
ends. So both show the same, unless the token is a literal that goes on behind a line break.
-/

namespace Caret

namespace Source

variable {text : Text} {offset later : Int}

/-- Two offsets are on the same line exactly if no line starts behind the first one up to the
second one. -/
theorem lineNumber_eq_iff (forward : 0 ≤ offset) (ahead : offset ≤ later)
    (inside : later ≤ text.length) :
    lineNumber text later = lineNumber text offset ↔
      ∀ start ∈ lineStarts text, offset < start → later < (start : Int) := by
  have inside' : offset ≤ text.length := Int.le_trans ahead inside
  have forward' : 0 ≤ later := Int.le_trans forward ahead
  obtain ⟨first, starts, before, -⟩ := exists_start_of_bounds forward inside'
  obtain ⟨last, starts', before', latest⟩ := exists_start_of_bounds forward' inside
  constructor
  · intro same start member behind
    refine Int.not_le.mp fun reached ↦ ?_
    have early := latest start member reached
    rw [same, starts] at starts'
    have : first = last := Option.some.inj starts'
    omega
  · intro none
    have early : (last : Int) ≤ offset := by
      refine Int.not_lt.mp fun behind ↦ ?_
      have := none last (mem_lineStarts_of_lineStart? starts') behind
      omega
    have atLeast := (le_lineNumber_iff starts forward' inside).mpr (Int.le_trans before ahead)
    have atMost := (le_lineNumber_iff starts' forward inside').mpr early
    omega

private theorem columnNumber_eq_add (forward : 0 ≤ offset) (inside : offset ≤ text.length)
    (same : lineNumber text later = lineNumber text offset) :
    columnNumber text later = columnNumber text offset + (later - offset) := by
  obtain ⟨start, starts, -, -⟩ := exists_start_of_bounds forward inside
  rw [columnNumber_eq_of_lineStart? starts, columnNumber_eq_of_lineStart? (same ▸ starts)]
  omega

private theorem exists_lineText_of_lineStart (forward : 0 ≤ offset) (inside : offset ≤ text.length)
    {first : Nat} (member : first ∈ lineStarts text) (behind : offset < first) :
    ∃ line, lineText? text (lineNumber text offset) = some line ∧
      line.length + 1 < columnNumber text offset + (first - offset) := by
  obtain ⟨start, starts, before, -⟩ := exists_start_of_bounds forward inside
  have beyond := lineEnd_lt_of_mem_lineStarts member (show start < first by omega)
  refine ⟨lineFrom text start, by rw [lineText?, starts]; rfl, ?_⟩
  have size : lineEnd text start = start + (lineFrom text start).length := rfl
  rw [columnNumber_eq_of_lineStart? starts]
  omega

end Source

/-! ## Two pairs of line and column -/

namespace FixItReader

/-- A line and a column as they are shown. -/
def Coordinates.shown (place : Coordinates) : Text :=
  Text.ofInt place.line ++ ':' :: Text.ofInt place.column

/-- The ends of a range as they are shown. -/
def bracedText (start stop : Coordinates) : Text :=
  '\x7b' :: start.shown ++ '-' :: stop.shown ++ ['\x7d']

private theorem line_eq_of_bracedText_eq {start stop other : Coordinates} (forward : 0 ≤ stop.line)
    (forward' : 0 ≤ other.line) (same : bracedText start stop = bracedText start other) :
    stop.line = other.line := by
  obtain ⟨line, lineEq⟩ := Int.eq_ofNat_of_zero_le forward
  obtain ⟨line', lineEq'⟩ := Int.eq_ofNat_of_zero_le forward'
  have colon (rest : Text) : ∀ c ∈ (':' :: rest).head?, c.isDigit = false := by
    rintro c ⟨⟩
    rfl
  have ends : stop.shown = other.shown := by
    have tail := List.append_cancel_right (List.cons_eq_cons.mp same).2
    exact (List.cons_eq_cons.mp (List.append_cancel_left tail)).2
  have read := congrArg readNumber? ends
  rw [Coordinates.shown, Coordinates.shown, lineEq, lineEq', readNumber?_ofInt line (colon _),
    readNumber?_ofInt line' (colon _)] at read
  have numbers := congrArg Prod.fst (Option.some.inj read)
  rw [lineEq, lineEq']
  exact congrArg Int.ofNat numbers

end FixItReader

open FixItReader

/-- Both ends of a range are places of a file: offsets of its text, or the end of the text. -/
structure SourceRange.PlacedIn (file : Int) (text : Text) (range : SourceRange) : Prop where
  startInFile : range.start.isFile = true
  stopInFile : range.stop.isFile = true
  startFile : range.start.file = file
  stopFile : range.stop.file = file
  startBounds : 0 ≤ range.start.offset ∧ range.start.offset ≤ text.length
  stopBounds : 0 ≤ range.stop.offset ∧ range.stop.offset ≤ text.length

namespace SourceRange.PlacedIn

variable {map : SourceMap} {file : Int} {entry : SourceFile} {range : SourceRange}
  (h : range.PlacedIn file entry.text)

include h

/-- Both ends of the range have a place. -/
theorem isValid : range.isValid = true := by
  rw [SourceRange.isValid, Bool.and_eq_true, Location.isValid_iff, Location.isValid_iff]
  exact ⟨Or.inl h.startInFile, Or.inl h.stopInFile⟩

/-- What is shown of the range in front of a message: its end is on the line of the last token, and
the token is added to the column. -/
theorem rangeText? (map : SourceMap) :
    Report.rangeText? map file range =
      some (bracedText (coordinatesOf map file range.start.offset)
        ⟨map.lineNumber file range.stop.offset, map.columnNumber file range.stop.offset +
          if range.isToken then (map.tokenLength range.stop : Int) else 0⟩) := by
  have start := expansionSite_of_isFile map h.startInFile
  have stop := expansionSite_of_isFile map h.stopInFile
  have ends : Snippet.siteEnds map range = (range.start, range.stop) := by
    simp [Snippet.siteEnds, start, stop, isMacro_of_isFile h.stopInFile]
  simp [Report.rangeText?, h.isValid, ends, start, stop, h.startFile, h.stopFile, bracedText,
    coordinatesOf, Coordinates.shown]

/-- The token at the end of the range is the one of the text. -/
theorem tokenLength_stop (stored : map.file? file = some entry) :
    map.tokenLength range.stop = Source.Token.lengthAt entry.text range.stop.offset :=
  tokenLength_of_isFile h.stopInFile (h.stopFile ▸ stored)

/-- The start of the range is presented. -/
theorem exists_presumed (stored : map.file? file = some entry) :
    ∃ presumed, map.presumed? range.start = some presumed := by
  rw [← Option.isSome_iff_exists, SourceMap.isSome_presumed?_iff (isMacro_of_isFile h.startInFile)]
  exact ⟨entry, h.startFile ▸ stored, h.startBounds⟩

end SourceRange.PlacedIn

/-- The line of a hint about a range of a file: its end is where the last token ends. -/
theorem fixItLine?_of_placedIn {map : SourceMap} {file : Int} {text : Text} {hint : FixItHint}
    (h : hint.range.PlacedIn file text) {presumed : Presumed}
    (position : map.presumed? hint.range.start = some presumed) :
    fixItLine? map hint =
      some ("fix-it:\"".toList ++ escapeFixItText presumed.filename ++ "\":".toList ++
        bracedText (coordinatesOf map file hint.range.start.offset)
          (coordinatesOf map file (stopOffset map hint)) ++
        ":\"".toList ++ escapeFixItText hint.text ++ ['"']) := by
  have start := expansionSite_of_isFile map h.startInFile
  have stop := expansionSite_of_isFile map h.stopInFile
  rw [fixItLine?, position, Option.map_some]
  simp [start, stop, h.startFile, h.stopFile, bracedText, coordinatesOf, Coordinates.shown,
    stopOffset, positionText]

/-- The end of a range behind its last token, and what it is made of. -/
theorem stopOffset_of_placedIn {map : SourceMap} {file : Int} {entry : SourceFile}
    (stored : map.file? file = some entry) {hint : FixItHint}
    (h : hint.range.PlacedIn file entry.text) :
    stopOffset map hint = hint.range.stop.offset +
        (if hint.range.isToken then (map.tokenLength hint.range.stop : Int) else 0) ∧
      hint.range.stop.offset ≤ stopOffset map hint ∧
      stopOffset map hint ≤ entry.text.length := by
  refine ⟨?_, stopOffset_bounds_of_isFile h.stopInFile (h.stopFile ▸ stored) h.stopBounds.2⟩
  rw [stopOffset, expansionSite_of_isFile map h.stopInFile]

private theorem bracedText_eq_iff {map : SourceMap} {file : Int} {entry : SourceFile}
    (stored : map.file? file = some entry) (start : Coordinates) {offset later : Int}
    (forward : 0 ≤ offset) (ahead : offset ≤ later) (inside : later ≤ entry.text.length) :
    bracedText start
          ⟨map.lineNumber file offset, map.columnNumber file offset + (later - offset)⟩ =
        bracedText start (coordinatesOf map file later) ↔
      ∀ first ∈ Source.lineStarts entry.text, offset < first → later < (first : Int) := by
  have line (place : Int) : map.lineNumber file place = Source.lineNumber entry.text place := by
    rw [SourceMap.lineNumber, stored]
  have column (place : Int) :
      map.columnNumber file place = Source.columnNumber entry.text place := by
    rw [SourceMap.columnNumber, stored]
  rw [← Source.lineNumber_eq_iff forward ahead inside]
  constructor
  · intro same
    have lines : map.lineNumber file offset = map.lineNumber file later :=
      line_eq_of_bracedText_eq (map.lineNumber_nonneg _ _) (map.lineNumber_nonneg _ _) same
    rw [line, line] at lines
    exact (Int.ofNat_inj.mp lines).symm
  · intro same
    have columns := Source.columnNumber_eq_add forward (Int.le_trans ahead inside) same
    rw [coordinatesOf, line, line, column, column, same, columns]

/-- If a line starts in the last token of a range, that is a literal with an escaped line break, and
counted on the line where the token starts its end is behind that line. -/
theorem last_token_of_lineStart {map : SourceMap} {file : Int} {entry : SourceFile}
    (stored : map.file? file = some entry) {hint : FixItHint}
    (h : hint.range.PlacedIn file entry.text) {first : Nat}
    (member : first ∈ Source.lineStarts entry.text) (behind : hint.range.stop.offset < first)
    (reached : (first : Int) ≤ stopOffset map hint) :
    let token := Source.Token.tokenAt entry.text hint.range.stop.offset
    hint.range.isToken = true ∧
    (∃ text, map.lineText? file (map.lineNumber file hint.range.stop.offset) = some text ∧
      text.length + 1 < map.columnNumber file hint.range.stop.offset +
        (stopOffset map hint - hint.range.stop.offset)) ∧
    Source.Token.IsLiteral token ∧
    ∃ front c behind, token = front ++ c :: behind ∧ (c = '\n' ∨ c = '\r') ∧
      front.getLast? = some '\\' := by
  intro token
  obtain ⟨sum, -, -⟩ := stopOffset_of_placedIn stored h
  have isToken : hint.range.isToken = true := by
    by_contra single
    rw [if_neg single] at sum
    omega
  rw [if_pos isToken, h.tokenLength_stop stored] at sum
  refine ⟨isToken, ?line, ?literal⟩
  case line =>
    obtain ⟨text, shown, short⟩ :=
      Source.exists_lineText_of_lineStart h.stopBounds.1 h.stopBounds.2 member behind
    simp only [SourceMap.lineText?, SourceMap.lineNumber, SourceMap.columnNumber, stored,
      Option.bind_some]
    exact ⟨text, shown, by omega⟩
  case literal =>
    obtain ⟨front, c, rest, whole, ends⟩ := Source.Token.exists_break_of_lineStart
      h.stopBounds.1 member behind (by omega)
    obtain ⟨literal, escaped⟩ := Source.Token.escaped_of_tokenAt whole ends
    exact ⟨literal, front, c, rest, whole, Source.isLineBreak_iff.mp ends, escaped⟩

/-- In front of a message and for a tool, a range of the file of the caret is shown with the same
coordinates exactly if no line starts behind its end up to the end of the token there. If one does,
the token is a literal with an escaped line break, and the coordinates in front of the message name
a column behind their line. -/
theorem range_and_fixIt_coordinates {map : SourceMap} {caret : Location} {entry : SourceFile}
    (stored : map.file? (map.expansionSite caret).file = some entry) {hint : FixItHint}
    (placed : hint.range.PlacedIn (map.expansionSite caret).file entry.text) :
    let file := (map.expansionSite caret).file
    let stop := hint.range.stop.offset
    let token := Source.Token.tokenAt entry.text stop
    let start := coordinatesOf map file hint.range.start.offset
    let line := map.lineNumber file stop
    let column := map.columnNumber file stop +
      if hint.range.isToken then (token.length : Int) else 0
    let info := bracedText start ⟨line, column⟩
    let edit := bracedText start (coordinatesOf map file (stopOffset map hint))
    Report.rangesText map caret [hint.range] = info ∧
    (∃ presumed, map.presumed? hint.range.start = some presumed ∧
      fixItLines map [hint] =
        ["fix-it:\"".toList ++ escapeFixItText presumed.filename ++ "\":".toList ++ edit ++
          ":\"".toList ++ escapeFixItText hint.text ++ ['"']]) ∧
    (info = edit ↔ ∀ first ∈ Source.lineStarts entry.text,
      stop < first → stopOffset map hint < (first : Int)) ∧
    (info ≠ edit → hint.range.isToken = true ∧
      (∃ text, map.lineText? file line = some text ∧ text.length + 1 < column) ∧
      Source.Token.IsLiteral token ∧
      ∃ front c behind, token = front ++ c :: behind ∧ (c = '\n' ∨ c = '\r') ∧
        front.getLast? = some '\\') := by
  intro file stop token start line column info edit
  obtain ⟨sum, ahead, inside⟩ := stopOffset_of_placedIn stored placed
  have length : map.tokenLength hint.range.stop = token.length := by
    rw [placed.tokenLength_stop stored, ← Source.Token.length_tokenAt]
  have width : (if hint.range.isToken then (token.length : Int) else 0) =
      stopOffset map hint - stop := by
    rw [sum, length]
    omega
  have agree : info = edit ↔ ∀ first ∈ Source.lineStarts entry.text,
      stop < first → stopOffset map hint < (first : Int) := by
    rw [← bracedText_eq_iff stored start placed.stopBounds.1 ahead inside, ← width]
  refine ⟨?info, ?edit, agree, ?differ⟩
  case info =>
    rw [Report.rangesText, List.filterMap_cons_some (placed.rangeText? map), length]
    exact List.append_nil _
  case edit =>
    obtain ⟨presumed, position⟩ := placed.exists_presumed stored
    refine ⟨presumed, position, ?_⟩
    have outside : hint.isInFile = true := by
      rw [FixItHint.isInFile, placed.isValid, isMacro_of_isFile placed.startInFile,
        isMacro_of_isFile placed.stopInFile]
      rfl
    rw [fixItLines, if_pos (by simp [outside]), fixItLinesFrom,
      fixItLine?_of_placedIn placed position]
    rfl
  case differ =>
    intro differ
    obtain ⟨first, member, behind, reached⟩ : ∃ first ∈ Source.lineStarts entry.text,
        stop < (first : Int) ∧ (first : Int) ≤ stopOffset map hint := by
      by_contra none
      refine differ (agree.mpr fun first member behind ↦ Int.not_le.mp fun reached ↦ ?_)
      exact none ⟨first, member, behind, reached⟩
    have last := last_token_of_lineStart stored placed member behind reached
    rw [← width] at last
    exact last

/-- The file of a literal that goes on behind an escaped line feed. -/
def continuedLiteral : SourceFile := { name := "a.c".toList, text := "x = \"a\\\nb\";\n".toList }

/-- A message counts the literal on its first line, which has seven columns, and a hint ends on its
second line. -/
theorem coordinates_of_continued_literal :
    let map := (SourceMap.empty.addFile continuedLiteral).1
    let caret := Location.inFile 1 0
    let hint : FixItHint := ⟨⟨.inFile 1 4, .inFile 1 4, true⟩, []⟩
    map.file? (map.expansionSite caret).file = some continuedLiteral ∧
    hint.range.PlacedIn (map.expansionSite caret).file continuedLiteral.text ∧
    Report.rangesText map caret [hint.range] = "\x7b1:5-1:11\x7d".toList ∧
    fixItLines map [hint] = ["fix-it:\"a.c\":\x7b1:5-2:3\x7d:\"\"".toList] ∧
    map.lineText? 1 1 = some "x = \"a\\".toList ∧
    Source.Token.IsLiteral (Source.Token.tokenAt continuedLiteral.text 4) := by
  intro map caret hint
  have stored : map.file? (map.expansionSite caret).file = some continuedLiteral := rfl
  have placed : hint.range.PlacedIn (map.expansionSite caret).file continuedLiteral.text := by
    constructor <;> decide
  obtain ⟨-, -, agree, differ⟩ := range_and_fixIt_coordinates stored placed
  have different := mt agree.mp fun last ↦
    absurd (last 8 (by decide) (by decide)) (by decide +kernel)
  obtain ⟨-, -, literal, -⟩ := differ different
  exact ⟨stored, placed, by decide +kernel, by decide +kernel, by decide +kernel, literal⟩

end Caret
