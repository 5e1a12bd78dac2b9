import Caret.Diagnostic.Basic
import Caret.Source.SourceMap

/-!
# Machine-readable hints

Hints as lines for tools: the file, the range as lines and columns, and the text to put there.
File name and text are quoted byte by byte, so that a line is printable ASCII and can be read
back without loss. None of the hints of a diagnostic is written if one of them cannot be used or
is in a macro expansion; else they are written up to the first one whose place is not known.
-/

namespace Caret

/-- The bytes of a text in UTF-8. -/
def utf8Bytes (text : Text) : List UInt8 := text.flatMap fun c ↦ String.utf8EncodeChar c

/-- A byte in three octal digits. -/
def octal (n : Nat) : Text :=
  let digits := Nat.toDigits 8 n
  List.replicate (3 - digits.length) '0' ++ digits

/-- A byte of quoted text: backslash, quote, line feed and tab have an escape of two
characters, printable ASCII stands for itself, any other byte is a backslash and three octal
digits. -/
def escapeByte (byte : UInt8) : Text :=
  let c := Char.ofNat byte.toNat
  if c = '\\' ∨ c = '"' then ['\\', c]
  else if c = '\n' then ['\\', 'n']
  else if c = '\t' then ['\\', 't']
  else if 0x20 ≤ byte ∧ byte < 0x7F then [c]
  else '\\' :: octal byte.toNat

/-- A text as it stands between the quotes of a machine-readable line. -/
def escapeFixItText (text : Text) : Text := (utf8Bytes text).flatMap escapeByte

/-- Whether a hint can be given to a tool: both ends are places in files. -/
def FixItHint.isInFile (hint : FixItHint) : Bool :=
  hint.range.isValid && !hint.range.start.isMacro && !hint.range.stop.isMacro

/-- The line and column of an offset in a file. -/
def positionText (map : SourceMap) (file offset : Int) : Text :=
  Text.ofInt (map.lineNumber file offset) ++ ':' :: Text.ofInt (map.columnNumber file offset)

/-- The machine-readable line of a hint, unless the start of its range has no position. -/
def fixItLine? (map : SourceMap) (hint : FixItHint) : Option Text :=
  (map.presumed? hint.range.start).map fun presumed ↦
    let start := map.expansionSite hint.range.start
    let stop := map.expansionSite hint.range.stop
    let stopOffset :=
      stop.offset + if hint.range.isToken then (map.tokenLength hint.range.stop : Int) else 0
    "fix-it:\"".toList ++ escapeFixItText presumed.filename ++ "\":\x7b".toList ++
      positionText map start.file start.offset ++ '-' ::
      positionText map stop.file stopOffset ++ "\x7d:\"".toList ++
      escapeFixItText hint.text ++ ['"']

/-- The lines up to the first hint without a position. -/
def fixItLinesFrom (map : SourceMap) : List FixItHint → List Text
  | [] => []
  | hint :: rest =>
    match fixItLine? map hint with
    | some line => line :: fixItLinesFrom map rest
    | none => []

/-- The machine-readable lines of the hints of a diagnostic. -/
def fixItLines (map : SourceMap) (hints : List FixItHint) : List Text :=
  if hints.all (·.isInFile) then fixItLinesFrom map hints else []

end Caret
