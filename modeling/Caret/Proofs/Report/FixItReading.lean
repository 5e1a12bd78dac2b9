import Caret.Proofs.Source.LineColumn
import Caret.Proofs.Source.TokenLength
import Caret.Report.FixItLine
import Mathlib.Data.List.Forall2

/-!
# Reading machine-readable hints

A tool reads a hint back from its line: the bytes of the file name and of the inserted text, and
two pairs of line and column. Quoted text ends at the first quote that no backslash stands in
front of; what stands in it are escapes and printable ASCII, a byte each. Nothing is lost on the
way, and the coordinates lead back to the ends of the range.
-/

namespace Caret

namespace FixItReader

/-! ## The reader -/

/-- A line and a column, as they are read from a line. -/
structure Coordinates where
  line : Int
  column : Int
  deriving DecidableEq, Repr

/-- A hint as it is read from its line. -/
structure Hint where
  file : List UInt8
  start : Coordinates
  stop : Coordinates
  text : List UInt8
  deriving DecidableEq, Repr

/-- Cuts a text at the first quote that no backslash stands in front of. -/
def cutAtQuote : Text → Option (Text × Text)
  | [] => none
  | '"' :: rest => some ([], rest)
  | '\\' :: c :: rest => (cutAtQuote rest).map fun (quoted, behind) ↦ ('\\' :: c :: quoted, behind)
  | c :: rest => (cutAtQuote rest).map fun (quoted, behind) ↦ (c :: quoted, behind)

/-- The byte of an escape of two characters. -/
def shortEscape? : Char → Option UInt8
  | '\\' => some 0x5C
  | '"' => some 0x22
  | 'n' => some 0x0A
  | 't' => some 0x09
  | _ => none

/-- The value of an octal digit. -/
def octalDigit? : Char → Option Nat
  | '0' => some 0
  | '1' => some 1
  | '2' => some 2
  | '3' => some 3
  | '4' => some 4
  | '5' => some 5
  | '6' => some 6
  | '7' => some 7
  | _ => none

/-- The byte of three octal digits. -/
def octalByte? (a b c : Char) : Option UInt8 := do
  let value := 64 * (← octalDigit? a) + 8 * (← octalDigit? b) + (← octalDigit? c)
  if value < 256 then some (UInt8.ofNat value) else none

/-- Whether a code point is printable ASCII. -/
def isPrintableAscii (c : Char) : Bool := 0x20 ≤ c.toNat && c.toNat < 0x7F

/-- The bytes of quoted text. -/
def unescape : Text → Option (List UInt8)
  | [] => some []
  | '\\' :: a :: rest =>
    match shortEscape? a with
    | some byte => (unescape rest).map (byte :: ·)
    | none =>
      match rest with
      | b :: c :: rest => (octalByte? a b c).bind fun byte ↦ (unescape rest).map (byte :: ·)
      | _ => none
  | c :: rest =>
    if isPrintableAscii c && c != '\\' && c != '"' then
      (unescape rest).map (UInt8.ofNat c.toNat :: ·)
    else none

/-- Reads a number in decimal digits. -/
def readNumber? (text : Text) : Option (Nat × Text) :=
  let digits := text.takeWhile Char.isDigit
  if digits = [] then none
  else some (Nat.ofDigitChars 10 digits 0, text.dropWhile Char.isDigit)

/-- Reads a line and a column. -/
def readCoordinates? (text : Text) : Option (Coordinates × Text) := do
  let (line, text) ← readNumber? text
  let text ← [':'].isPrefixOf? text
  let (column, text) ← readNumber? text
  some (⟨line, column⟩, text)

/-- Reads a hint from its line. -/
def read? (text : Text) : Option Hint := do
  let text ← "fix-it:\"".toList.isPrefixOf? text
  let (file, text) ← cutAtQuote text
  let file ← unescape file
  let text ← ":\x7b".toList.isPrefixOf? text
  let (start, text) ← readCoordinates? text
  let text ← ['-'].isPrefixOf? text
  let (stop, text) ← readCoordinates? text
  let text ← "\x7d:\"".toList.isPrefixOf? text
  let (inserted, text) ← cutAtQuote text
  let inserted ← unescape inserted
  if text = [] then some ⟨file, start, stop, inserted⟩ else none

/-! ## Bytes -/

/-- The forms that a byte of quoted text takes: printable ASCII other than a backslash and a
quote, an escape of two characters, and an escape of three digits. -/
inductive ByteForm (byte : UInt8) : Text → Prop
  | plain (c : Char) (shown : isPrintableAscii c = true) (noBackslash : c ≠ '\\')
      (noQuote : c ≠ '"') (value : UInt8.ofNat c.toNat = byte) : ByteForm byte [c]
  | short (c : Char) (shown : isPrintableAscii c = true) (value : shortEscape? c = some byte) :
      ByteForm byte ['\\', c]
  | octal (a b c : Char) (digits : ∀ d ∈ [a, b, c], (octalDigit? d).isSome = true)
      (value : octalByte? a b c = some byte) : ByteForm byte ['\\', a, b, c]

/-- An octal digit is printable, and it is neither a quote nor a backslash nor an escape. -/
theorem octalDigit_facts {c : Char} (h : (octalDigit? c).isSome = true) :
    isPrintableAscii c = true ∧ c ≠ '"' ∧ c ≠ '\\' ∧ shortEscape? c = none := by
  unfold octalDigit? at h
  split at h
  all_goals first | decide | cases h

/-- An octal digit is read back. -/
theorem octalDigit?_digitChar {d : Nat} (h : d < 8) : octalDigit? d.digitChar = some d := by
  have digits : ∀ d : Fin 8, octalDigit? (Nat.digitChar d) = some (d : Nat) := by decide
  exact digits ⟨d, h⟩

private theorem octal_eq {n : Nat} (h : n < 512) :
    octal n = [(n / 8 / 8).digitChar, (n / 8 % 8).digitChar, (n % 8).digitChar] := by
  unfold octal
  rcases Nat.lt_or_ge n 8 with one | more
  · rw [Nat.toDigits_of_lt_base one, Nat.div_eq_of_lt one, Nat.mod_eq_of_lt one]
    rfl
  · rw [Nat.toDigits_of_base_le (by decide) more]
    rcases Nat.lt_or_ge (n / 8) 8 with two | three
    · rw [Nat.toDigits_of_lt_base two, Nat.div_eq_of_lt two, Nat.mod_eq_of_lt two]
      rfl
    · have first : n / 8 / 8 < 8 := by omega
      rw [Nat.toDigits_of_base_le (by decide) three, Nat.toDigits_of_lt_base first]
      rfl

private theorem octal_digits {n : Nat} (h : n < 256) :
    ∃ a b c, octal n = [a, b, c] ∧ octalByte? a b c = some (UInt8.ofNat n) ∧
      ∀ d ∈ [a, b, c], (octalDigit? d).isSome = true := by
  have first := octalDigit?_digitChar (d := n / 8 / 8) (by omega)
  have second := octalDigit?_digitChar (d := n / 8 % 8) (by omega)
  have third := octalDigit?_digitChar (d := n % 8) (by omega)
  refine ⟨_, _, _, octal_eq (by omega), ?_, ?_⟩
  · have value : 64 * (n / 8 / 8) + 8 * (n / 8 % 8) + n % 8 = n := by omega
    rw [octalByte?, first, second, third]
    simp only [Option.bind_eq_bind, Option.bind_some]
    rw [value, if_pos h]
  · rintro digit member
    rcases List.mem_cons.mp member with rfl | member
    · rw [first]
      rfl
    · rcases List.mem_pair.mp member with rfl | rfl
      · rw [second]
        rfl
      · rw [third]
        rfl

/-- A byte of quoted text has one of the forms. -/
theorem byteForm_escapeByte (byte : UInt8) : ByteForm byte (escapeByte byte) := by
  have small : byte.toNat < 256 := byte.toNat_lt
  have code : (Char.ofNat byte.toNat).toNat = byte.toNat := by
    rw [Char.ofNat, dif_pos (Or.inl (by omega))]
    rfl
  have value : UInt8.ofNat (Char.ofNat byte.toNat).toNat = byte := by
    rw [code]
    exact UInt8.ofNat_toNat
  unfold escapeByte
  generalize Char.ofNat byte.toNat = c at code value
  dsimp only
  split
  · next marked =>
    rcases marked with rfl | rfl
    · exact .short _ (by decide) (congrArg some value)
    · exact .short _ (by decide) (congrArg some value)
  · next unmarked =>
    obtain ⟨noBackslash, noQuote⟩ := not_or.mp unmarked
    split
    · next feed =>
      subst feed
      exact .short _ (by decide) (congrArg some value)
    · split
      · next tab =>
        subst tab
        exact .short _ (by decide) (congrArg some value)
      · split
        · next shown =>
          have bounds := shown.imp UInt8.le_iff_toNat_le.mp UInt8.lt_iff_toNat_lt.mp
          refine .plain c ?_ noBackslash noQuote value
          rw [isPrintableAscii, code, Bool.and_eq_true, decide_eq_true_eq, decide_eq_true_eq]
          exact bounds
        · obtain ⟨x, y, z, digits, read, valid⟩ := octal_digits small
          rw [digits]
          exact .octal x y z valid (read.trans (congrArg some UInt8.ofNat_toNat))

/-- The bytes of quoted text are printable. -/
theorem ByteForm.isPrintableAscii {byte : UInt8} {form : Text} (h : ByteForm byte form) :
    ∀ c ∈ form, isPrintableAscii c = true := by
  cases h with
  | plain c shown => simpa using shown
  | short c shown => simpa using ⟨by decide, shown⟩
  | octal a b c digits =>
    exact List.forall_mem_cons.mpr
      ⟨by decide, fun d member ↦ (octalDigit_facts (digits d member)).1⟩

/-- Quoted text is printable ASCII. -/
theorem isPrintableAscii_of_mem_escapeFixItText {text : Text} {c : Char}
    (h : c ∈ escapeFixItText text) : isPrintableAscii c = true := by
  obtain ⟨byte, -, inside⟩ := List.mem_flatMap.mp h
  exact (byteForm_escapeByte byte).isPrintableAscii c inside

private theorem cutAtQuote_byteForm {byte : UInt8} {form : Text} (h : ByteForm byte form)
    (rest : Text) :
    cutAtQuote (form ++ rest) =
      (cutAtQuote rest).map fun (quoted, behind) ↦ (form ++ quoted, behind) := by
  have single (c : Char) (noBackslash : c ≠ '\\') (noQuote : c ≠ '"') (rest : Text) :
      cutAtQuote (c :: rest) =
        (cutAtQuote rest).map fun (quoted, behind) ↦ (c :: quoted, behind) := by
    rw [cutAtQuote]
    · exact noQuote
    · exact fun d behind backslash _ ↦ noBackslash backslash
  cases h with
  | plain c _ noBackslash noQuote => exact single c noBackslash noQuote rest
  | short c => rfl
  | octal a b c digits =>
    have second := octalDigit_facts (digits b (by simp))
    have third := octalDigit_facts (digits c (by simp))
    show (cutAtQuote (b :: c :: rest)).map _ = _
    rw [single b second.2.2.1 second.2.1, single c third.2.2.1 third.2.1, Option.map_map,
      Option.map_map]
    rfl

/-- No byte closes the quotes around it: quoted text ends where its closing quote stands. -/
theorem cutAtQuote_escapeFixItText (text rest : Text) :
    cutAtQuote (escapeFixItText text ++ '"' :: rest) = some (escapeFixItText text, rest) := by
  unfold escapeFixItText
  induction utf8Bytes text with
  | nil => rfl
  | cons byte bytes ih =>
    rw [List.flatMap_cons, List.append_assoc, cutAtQuote_byteForm (byteForm_escapeByte byte), ih]
    rfl

private theorem unescape_byteForm {byte : UInt8} {form : Text} (h : ByteForm byte form)
    (rest : Text) :
    unescape (form ++ rest) = (unescape rest).map (byte :: ·) := by
  cases h with
  | plain c shown noBackslash noQuote value =>
    have plain : (isPrintableAscii c && c != '\\' && c != '"') = true := by
      simp [shown, noBackslash, noQuote]
    show unescape (c :: rest) = _
    rw [unescape, if_pos plain, value]
    exact fun d behind backslash _ ↦ noBackslash backslash
  | short c _ value =>
    show unescape ('\\' :: c :: rest) = _
    rw [unescape.eq_def]
    simp only [value]
  | octal a b c digits value =>
    have first := octalDigit_facts (digits a (by simp))
    show unescape ('\\' :: a :: b :: c :: rest) = _
    rw [unescape, first.2.2.2, value]
    rfl

/-- The bytes of a text are read from its quoted form. -/
theorem unescape_escapeFixItText (text : Text) :
    unescape (escapeFixItText text) = some (utf8Bytes text) := by
  unfold escapeFixItText
  induction utf8Bytes text with
  | nil => rfl
  | cons byte bytes ih =>
    rw [List.flatMap_cons, unescape_byteForm (byteForm_escapeByte byte), ih]
    rfl

private theorem utf8Bytes_injective : Function.Injective utf8Bytes := by
  intro first second same
  have bytes : first.utf8Encode = second.utf8Encode := congrArg List.toByteArray same
  have read := congrArg ByteArray.utf8Decode? bytes
  rw [List.utf8Decode?_utf8Encode, List.utf8Decode?_utf8Encode] at read
  exact congrArg Array.toList (Option.some.inj read)

private theorem escapeFixItText_injective : Function.Injective escapeFixItText := by
  intro first second same
  have bytes := congrArg unescape same
  rw [unescape_escapeFixItText, unescape_escapeFixItText] at bytes
  exact utf8Bytes_injective (Option.some.inj bytes)

/-! ## Coordinates -/

/-- A number is read from its digits, which no digit follows. -/
theorem readNumber?_ofInt (n : Nat) {rest : Text} (h : ∀ c ∈ rest.head?, c.isDigit = false) :
    readNumber? (Text.ofInt n ++ rest) = some (n, rest) := by
  have digits : Text.ofInt n = Nat.toDigits 10 n := Nat.toList_repr
  have valid : ∀ c ∈ Nat.toDigits 10 n, c.isDigit = true := fun c member ↦
    Nat.isDigit_of_mem_toDigits (by decide) (by decide) member
  have behind : rest.takeWhile Char.isDigit = [] ∧ rest.dropWhile Char.isDigit = rest := by
    cases rest with
    | nil => exact ⟨rfl, rfl⟩
    | cons c rest =>
      have stops : c.isDigit = false := h c rfl
      rw [List.takeWhile_cons, List.dropWhile_cons, stops]
      exact ⟨rfl, rfl⟩
  rw [readNumber?, digits, List.takeWhile_append_of_pos valid, List.dropWhile_append_of_pos valid,
    behind.1, behind.2, List.append_nil, if_neg Nat.toDigits_ne_nil,
    Nat.ofDigitChars_toDigits (by decide) (by decide)]

/-- What stands in front of a text is read off it. -/
theorem isPrefixOf?_append (front text : Text) : front.isPrefixOf? (front ++ text) = some text :=
  List.isPrefixOf?_eq_some_iff_append_eq.mpr rfl

/-- What stands in front of a text is read off it. -/
theorem isPrefixOf?_singleton (c : Char) (text : Text) : [c].isPrefixOf? (c :: text) = some text :=
  isPrefixOf?_append [c] text

/-- The coordinates of an offset in a file. -/
def coordinatesOf (map : SourceMap) (file offset : Int) : Coordinates :=
  ⟨map.lineNumber file offset, map.columnNumber file offset⟩

/-- The offset behind the range of a hint: the end of its last token, or its end as it is. -/
def stopOffset (map : SourceMap) (hint : FixItHint) : Int :=
  (map.expansionSite hint.range.stop).offset +
    if hint.range.isToken then (map.tokenLength hint.range.stop : Int) else 0

/-- Line and column of an offset are read from their text, which no digit follows. -/
theorem readCoordinates?_positionText (map : SourceMap) (file offset : Int) {rest : Text}
    (h : ∀ c ∈ rest.head?, c.isDigit = false) :
    readCoordinates? (positionText map file offset ++ rest) =
      some (coordinatesOf map file offset, rest) := by
  obtain ⟨line, lineEq⟩ := Int.eq_ofNat_of_zero_le (map.lineNumber_nonneg file offset)
  obtain ⟨column, columnEq⟩ := Int.eq_ofNat_of_zero_le (map.columnNumber_nonneg file offset)
  have first : ∀ c ∈ (':' :: (Text.ofInt column ++ rest)).head?, c.isDigit = false := by
    rintro c ⟨⟩
    rfl
  rw [positionText, coordinatesOf, lineEq, columnEq, List.append_assoc, List.cons_append,
    readCoordinates?, readNumber?_ofInt line first]
  simp only [Option.bind_eq_bind, Option.bind_some, isPrefixOf?_singleton,
    readNumber?_ofInt column h]

/-- A hint is read from its line: the bytes of the file name and of the text, and the coordinates
of both ends. -/
theorem read?_of_presumed? {map : SourceMap} {hint : FixItHint} {presumed : Presumed}
    (h : map.presumed? hint.range.start = some presumed) :
    ∃ line, fixItLine? map hint = some line ∧
      read? line = some
        { file := utf8Bytes presumed.filename
          start := coordinatesOf map (map.expansionSite hint.range.start).file
            (map.expansionSite hint.range.start).offset
          stop := coordinatesOf map (map.expansionSite hint.range.stop).file (stopOffset map hint)
          text := utf8Bytes hint.text } := by
  unfold fixItLine?
  rw [h]
  refine ⟨_, rfl, ?_⟩
  have named : "\":\x7b".toList = '"' :: ":\x7b".toList := rfl
  have dash (rest : Text) : ∀ c ∈ ('-' :: rest).head?, c.isDigit = false := by
    rintro c ⟨⟩
    rfl
  have brace (rest : Text) : ∀ c ∈ ("\x7d:\"".toList ++ rest).head?, c.isDigit = false := by
    rintro c ⟨⟩
    rfl
  have start (rest : Text) := readCoordinates?_positionText map
    (map.expansionSite hint.range.start).file (map.expansionSite hint.range.start).offset
    (dash rest)
  have stop (rest : Text) := readCoordinates?_positionText map
    (map.expansionSite hint.range.stop).file (stopOffset map hint) (brace rest)
  rw [stopOffset] at stop ⊢
  simp only [read?, Option.bind_eq_bind, Option.bind_some, List.append_assoc, List.cons_append,
    named, isPrefixOf?_append, isPrefixOf?_singleton, cutAtQuote_escapeFixItText,
    unescape_escapeFixItText, start, stop, if_true]

/-! ## Hints in a file -/

/-- A hint is about a range of one file: both ends are places of it, and neither the start nor
the end behind the last token splits a line break. -/
structure InFile (map : SourceMap) (entry : SourceFile) (hint : FixItHint) : Prop where
  stored : map.file? hint.range.start.file = some entry
  startInFile : hint.range.start.isFile = true
  stopInFile : hint.range.stop.isFile = true
  sameFile : hint.range.stop.file = hint.range.start.file
  startBounds : 0 ≤ hint.range.start.offset ∧ hint.range.start.offset ≤ entry.text.length
  stopBounds : 0 ≤ hint.range.stop.offset ∧ hint.range.stop.offset ≤ entry.text.length
  startUnsplit : ¬Source.SplitsBreak entry.text hint.range.start.offset
  stopUnsplit : ¬Source.SplitsBreak entry.text (stopOffset map hint)

/-- The location that coordinates lead to. -/
def Coordinates.location (map : SourceMap) (file : Int) (coordinates : Coordinates) : Location :=
  map.locationAt file coordinates.line coordinates.column

/-- A line gives back its hint: the bytes of the presumed file name and of the text, and
coordinates that lead to the start of the range and to the end behind its last token. -/
def GivesBack (map : SourceMap) (hint : FixItHint) (line : Text) : Prop :=
  ∃ presumed back, map.presumed? hint.range.start = some presumed ∧ read? line = some back ∧
    back.file = utf8Bytes presumed.filename ∧ back.text = utf8Bytes hint.text ∧
    back.start.location map hint.range.start.file = hint.range.start ∧
    back.stop.location map hint.range.start.file =
      Location.inFile hint.range.start.file (stopOffset map hint)

/-- A place in a file is not in an expansion. -/
theorem isMacro_of_isFile {loc : Location} (h : loc.isFile = true) : loc.isMacro = false := by
  rw [Location.isFile, Bool.and_eq_true, Option.isNone_iff_eq_none] at h
  rw [Location.isMacro, h.2]
  rfl

private theorem inFile_eq_of_isFile {loc : Location} (h : loc.isFile = true) :
    Location.inFile loc.file loc.offset = loc := by
  rw [Location.isFile, Bool.and_eq_true, Option.isNone_iff_eq_none] at h
  obtain ⟨file, offset, expansion⟩ := loc
  obtain ⟨-, rfl⟩ := h
  rfl

/-- A place in a file is its own expansion site. -/
theorem expansionSite_of_isFile (map : SourceMap) {loc : Location} (h : loc.isFile = true) :
    map.expansionSite loc = loc :=
  map.expansionSite_of_not_isMacro (isMacro_of_isFile h)

/-- The token at a place in a file is the one of its text. -/
theorem tokenLength_of_isFile {map : SourceMap} {loc : Location} {entry : SourceFile}
    (isFile : loc.isFile = true) (stored : map.file? loc.file = some entry) :
    map.tokenLength loc = Source.Token.lengthAt entry.text loc.offset := by
  simp only [SourceMap.tokenLength, map.spelling_of_not_isMacro (isMacro_of_isFile isFile), stored]

/-- The end behind the last token is not in front of the end of the range, and it is in the file or
at its end. -/
theorem stopOffset_bounds_of_isFile {map : SourceMap} {entry : SourceFile} {hint : FixItHint}
    (isFile : hint.range.stop.isFile = true)
    (stored : map.file? hint.range.stop.file = some entry)
    (inside : hint.range.stop.offset ≤ entry.text.length) :
    hint.range.stop.offset ≤ stopOffset map hint ∧
      stopOffset map hint ≤ entry.text.length := by
  have token := Source.Token.add_lengthAt_le inside
  rw [stopOffset, expansionSite_of_isFile map isFile, tokenLength_of_isFile isFile stored]
  split <;> omega

namespace InFile

variable {map : SourceMap} {entry : SourceFile} {hint : FixItHint} (h : InFile map entry hint)

include h

/-- The start of the hint is where it is used. -/
theorem expansionSite_start : map.expansionSite hint.range.start = hint.range.start :=
  expansionSite_of_isFile map h.startInFile

/-- The end of the hint is where it is used. -/
theorem expansionSite_stop : map.expansionSite hint.range.stop = hint.range.stop :=
  expansionSite_of_isFile map h.stopInFile

/-- Both ends of the hint have a place. -/
theorem isValid : hint.range.isValid = true := by
  rw [SourceRange.isValid, Bool.and_eq_true, Location.isValid_iff, Location.isValid_iff]
  exact ⟨Or.inl h.startInFile, Or.inl h.stopInFile⟩

/-- The hint can be given to a tool. -/
theorem isInFile : hint.isInFile = true := by
  rw [FixItHint.isInFile, h.isValid, isMacro_of_isFile h.startInFile,
    isMacro_of_isFile h.stopInFile]
  rfl

/-- The start of the hint has a position. -/
theorem exists_presumed : ∃ presumed, map.presumed? hint.range.start = some presumed := by
  have line : map.lineNumber hint.range.start.file hint.range.start.offset ≠ 0 := by
    simp only [SourceMap.lineNumber, h.stored]
    exact Int.natCast_ne_zero.mpr
      (Source.lineNumber_ne_zero h.startBounds.1 h.startBounds.2)
  rw [← Option.isSome_iff_exists]
  simp only [SourceMap.presumed?, h.expansionSite_start, h.stored, if_neg line]
  rfl

/-- The end behind the last token is in the file or at its end. -/
theorem stopOffset_bounds :
    0 ≤ stopOffset map hint ∧ stopOffset map hint ≤ entry.text.length := by
  have bounds := h.stopBounds
  have stored : map.file? hint.range.stop.file = some entry := by rw [h.sameFile, h.stored]
  obtain ⟨ahead, inside⟩ := stopOffset_bounds_of_isFile h.stopInFile stored bounds.2
  exact ⟨Int.le_trans bounds.1 ahead, inside⟩

/-- The line of the hint gives it back. -/
theorem givesBack : ∃ line, fixItLine? map hint = some line ∧ GivesBack map hint line := by
  obtain ⟨presumed, position⟩ := h.exists_presumed
  obtain ⟨line, written, read⟩ := read?_of_presumed? position
  refine ⟨line, written, presumed, _, position, read, rfl, rfl, ?start, ?stop⟩
  case start =>
    rw [h.expansionSite_start]
    exact (SourceMap.locationAt_lineNumber_columnNumber h.stored h.startBounds.1
      h.startBounds.2 h.startUnsplit).trans (inFile_eq_of_isFile h.startInFile)
  case stop =>
    rw [h.expansionSite_stop, h.sameFile]
    exact SourceMap.locationAt_lineNumber_columnNumber h.stored h.stopOffset_bounds.1
      h.stopOffset_bounds.2 h.stopUnsplit

end InFile

/-- Hints about ranges of files have a line each, in their order, and each line gives back its
hint. -/
theorem forall₂_fixItLinesFrom {map : SourceMap} {hints : List FixItHint}
    (h : ∀ hint ∈ hints, ∃ entry, InFile map entry hint) :
    List.Forall₂ (GivesBack map) hints (fixItLinesFrom map hints) := by
  induction hints with
  | nil => exact .nil
  | cons hint rest ih =>
    obtain ⟨⟨entry, here⟩, later⟩ := List.forall_mem_cons.mp h
    obtain ⟨line, written, back⟩ := here.givesBack
    rw [fixItLinesFrom, written]
    exact .cons back (ih later)

/-- Machine-readable hints are read back without loss. Hints about ranges of files, whose ends
split no line break, have a line each, in their order, and a line gives back the bytes of the
presumed file name, the bytes of the text, and the two ends of the range. Different texts are
quoted differently, as printable ASCII, and quoted text ends at its closing quote. -/
theorem fixItLines_give_back (map : SourceMap) (hints : List FixItHint)
    (h : ∀ hint ∈ hints, ∃ entry, InFile map entry hint) :
    List.Forall₂ (GivesBack map) hints (fixItLines map hints) ∧
      Function.Injective escapeFixItText ∧
      (∀ text, ∀ c ∈ escapeFixItText text, isPrintableAscii c = true) ∧
      ∀ text rest, cutAtQuote (escapeFixItText text ++ '"' :: rest) =
        some (escapeFixItText text, rest) := by
  refine ⟨?lines, escapeFixItText_injective, fun _ _ ↦ isPrintableAscii_of_mem_escapeFixItText,
    cutAtQuote_escapeFixItText⟩
  have all : hints.all (·.isInFile) = true := by
    rw [List.all_eq_true]
    intro hint member
    obtain ⟨entry, inFile⟩ := h hint member
    exact inFile.isInFile
  rw [fixItLines, if_pos all]
  exact forall₂_fixItLinesFrom h

/-- Two hints in a file of two kinds of line breaks, one of them about a token. -/
theorem two_fixIts_give_back :
    let map : SourceMap := ⟨[⟨"é\"".toList, "x\r\nyy = 1;\nz".toList, Location.invalid, []⟩], []⟩
    let hints : List FixItHint :=
      [⟨⟨.inFile 1 3, .inFile 1 3, true⟩, "\\1\n".toList⟩, ⟨⟨.inFile 1 1, .inFile 1 11, false⟩, []⟩]
    (∀ hint ∈ hints, ∃ entry, InFile map entry hint) ∧
      List.Forall₂ (GivesBack map) hints (fixItLines map hints) := by
  intro map hints
  have inFile : ∀ hint ∈ hints, ∃ entry, InFile map entry hint := by
    intro hint member
    refine ⟨⟨"é\"".toList, "x\r\nyy = 1;\nz".toList, Location.invalid, []⟩, ?_⟩
    rcases List.mem_cons.mp member with rfl | last
    · constructor <;> decide +kernel
    · rw [List.mem_singleton.mp last]
      constructor <;> decide +kernel
  exact ⟨inFile, (fixItLines_give_back map hints inFile).1⟩

end FixItReader

end Caret
