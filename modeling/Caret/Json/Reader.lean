import Caret.Data.Value
import Caret.Text.Numeral

/-!
# Reading JSON

A JSON document is read to a value. Beyond the standard, `NaN`, `Infinity` and `-Infinity` are
numbers. A number without fraction and exponent is an integer of any size, up to a limit on the
number of its digits. Lists and records stand in one another up to a limit on their depth. The
first violation of the syntax is reported with its place.
-/

namespace Caret.Json

open Data (Value Fields)
open Decimal (Binary64)

/-- What is wrong at a place of a document. -/
inductive Violation where
  | byteOrderMark
  | expectedValue
  | expectedKey
  | expectedColon
  | expectedComma
  | extraData
  | unterminatedString
  | invalidControl
  | invalidEscape
  | invalidUnicodeEscape
  deriving DecidableEq, Repr

/-- The description of a violation. -/
def Violation.text : Violation → String
  | byteOrderMark => "Unexpected UTF-8 BOM (decode using utf-8-sig)"
  | expectedValue => "Expecting value"
  | expectedKey => "Expecting property name enclosed in double quotes"
  | expectedColon => "Expecting ':' delimiter"
  | expectedComma => "Expecting ',' delimiter"
  | extraData => "Extra data"
  | unterminatedString => "Unterminated string starting at"
  | invalidControl => "Invalid control character at"
  | invalidEscape => "Invalid \\escape"
  | invalidUnicodeEscape => "Invalid \\uXXXX escape"

/-- Why a document cannot be read. -/
inductive Error where
  | violation (what : Violation) (offset : Nat)
  | integerTooLong (digits : Nat)
  | tooDeep
  deriving DecidableEq, Repr

/-- The place of a violation: lines end at line feeds, lines and columns start at one. -/
def placeText (document : Text) (offset : Nat) : String :=
  let before := document.take offset
  let line := before.count '\n' + 1
  let column := (before.reverse.takeWhile (· ≠ '\n')).length + 1
  s!"line {line} column {column} (char {offset})"

/-- The report on a document that cannot be read. -/
def Error.message (document : Text) : Error → String
  | .violation what offset => s!"{what.text}: {placeText document offset}"
  | .integerTooLong digits => Text.tooManyDigitsText digits
  | .tooDeep => "maximum recursion depth exceeded"

/-- The rest of a document and its offset. -/
structure Cursor where
  rest : Text
  offset : Nat
  deriving DecidableEq, Repr

namespace Cursor

/-- The cursor behind the next `count` code points. -/
def advance (cursor : Cursor) (count : Nat) : Cursor :=
  ⟨cursor.rest.drop count, cursor.offset + count⟩

/-- Whether a code point may stand between two tokens. -/
def isSpace (c : Char) : Bool := c = ' ' || c = '\t' || c = '\n' || c = '\r'

/-- The cursor at the next token. -/
def skipSpace (cursor : Cursor) : Cursor :=
  cursor.advance (cursor.rest.takeWhile isSpace).length

/-- A violation at the cursor. -/
def fail {α : Type} (cursor : Cursor) (what : Violation) : Except Error α :=
  .error (.violation what cursor.offset)

end Cursor

/-! ## Strings -/

/-- The value of a hexadecimal digit. -/
def hexValue? (c : Char) : Option Nat :=
  if '0' ≤ c ∧ c ≤ '9' then some (c.toNat - 48)
  else if 'a' ≤ c ∧ c ≤ 'f' then some (c.toNat - 87)
  else if 'A' ≤ c ∧ c ≤ 'F' then some (c.toNat - 55)
  else none

/-- The number written by hexadecimal digits. -/
def hexNumber? (digits : Text) : Option Nat :=
  digits.foldl (fun sum c ↦ sum.bind fun n ↦ (hexValue? c).map (16 * n + ·)) (some 0)

/-- The number of the four hexadecimal digits in front; the document has to go on behind. -/
def unicodeUnit? (text : Text) : Option Nat :=
  if text.length ≤ 4 then none else hexNumber? (text.take 4)

/-- Whether a number is the first half of a pair that stands for one code point. -/
def isHighSurrogate (n : Nat) : Bool := 0xD800 ≤ n && n < 0xDC00

/-- Whether a number is the second half of such a pair. -/
def isLowSurrogate (n : Nat) : Bool := 0xDC00 ≤ n && n < 0xE000

/-- The escape at a cursor that stands behind the backslash: the code point, and the number of
code points the escape takes. A pair of escapes that stands for one code point is one. -/
def readEscape (cursor : Cursor) : Except Error (Char × Nat) :=
  match cursor.rest with
  | 'u' :: digits =>
    match unicodeUnit? digits with
    | none => cursor.fail .invalidUnicodeEscape
    | some first =>
      match digits.drop 4 with
      | '\\' :: 'u' :: more =>
        if isHighSurrogate first && 4 < more.length then
          match hexNumber? (more.take 4) with
          | none => (cursor.advance 6).fail .invalidUnicodeEscape
          | some second =>
            if isLowSurrogate second then
              .ok (Text.codePoint (0x10000 + (first - 0xD800) * 0x400 + (second - 0xDC00)), 11)
            else .ok (Text.codePoint first, 5)
        else .ok (Text.codePoint first, 5)
      | _ => .ok (Text.codePoint first, 5)
  | c :: _ =>
    match [('"', '"'), ('\\', '\\'), ('/', '/'), ('b', '\x08'), ('f', '\x0c'), ('n', '\n'),
        ('r', '\r'), ('t', '\t')].lookup c with
    | some escaped => .ok (escaped, 1)
    | none => .error (.violation .invalidEscape (cursor.offset - 1))
  | [] => cursor.fail .invalidEscape

/-- Reads a string up to its closing quote; `opening` is the offset of the opening one and
`read`, backwards, what was read so far. -/
def readString (opening : Nat) (text : Text) (offset : Nat) (read : Text) :
    Except Error (String × Cursor) :=
  match text with
  | [] => .error (.violation .unterminatedString opening)
  | c :: rest =>
    if c = '"' then .ok (String.ofList read.reverse, ⟨rest, offset + 1⟩)
    else if c = '\\' then
      if rest = [] then .error (.violation .unterminatedString opening)
      else
        match readEscape ⟨rest, offset + 1⟩ with
        | .error error => .error error
        | .ok (escaped, length) =>
          readString opening (rest.drop length) (offset + 1 + length) (escaped :: read)
    else if c.toNat < 0x20 then .error (.violation .invalidControl offset)
    else readString opening rest (offset + 1) (c :: read)
termination_by text.length
decreasing_by
  all_goals simp only [List.length_cons, List.length_drop]
  all_goals omega

/-! ## Numbers -/

/-- The parts of a number, and the number of code points it takes. -/
structure Numeral where
  negative : Bool
  whole : Text
  fraction : Text
  exponent : Option Int
  length : Nat

/-- The number written by decimal digits. -/
def decimalNumber (digits : Text) : Nat :=
  digits.foldl (fun n c ↦ 10 * n + (c.toNat - 48)) 0

/-- The fraction behind a number: a point and at least one digit. -/
def fractionOf : Text → Text
  | '.' :: rest => rest.takeWhile Char.isDigit
  | _ => []

/-- The exponent behind a number and the code points it takes: a letter, possibly a sign, and
at least one digit. -/
def exponentOf : Text → Option (Int × Nat)
  | c :: rest =>
    if c = 'e' ∨ c = 'E' then
      let sign := match rest with
        | '-' :: _ => some true
        | '+' :: _ => some false
        | _ => none
      let digits := (if sign.isSome then rest.drop 1 else rest).takeWhile Char.isDigit
      if digits = [] then none
      else
        let power : Int := decimalNumber digits
        some (if sign = some true then -power else power,
          1 + (if sign.isSome then 1 else 0) + digits.length)
    else none
  | [] => none

/-- The longest number at the start of a text: a whole part without superfluous zeros, then
possibly a fraction and an exponent. -/
def numeral? (text : Text) : Option Numeral :=
  let negative := text.head? = some '-'
  let body := if negative then text.drop 1 else text
  let whole := match body with
    | '0' :: _ => ['0']
    | _ => body.takeWhile Char.isDigit
  if whole = [] then none
  else
    let behind := body.drop whole.length
    let fraction := fractionOf behind
    let fractionLength := if fraction = [] then 0 else fraction.length + 1
    let length := (if negative then 1 else 0) + whole.length + fractionLength
    match exponentOf (behind.drop fractionLength) with
    | some (power, taken) => some ⟨negative, whole, fraction, some power, length + taken⟩
    | none => some ⟨negative, whole, fraction, none, length⟩

/-- The value of a number: an integer, unless it has a fraction or an exponent. -/
def Numeral.value (numeral : Numeral) : Except Error Value :=
  if numeral.fraction = [] ∧ numeral.exponent = none then
    if numeral.whole.length > Text.maxDecimalDigits then
      .error (.integerTooLong numeral.whole.length)
    else
      let n : Int := decimalNumber numeral.whole
      .ok (.integer (if numeral.negative then -n else n))
  else
    .ok (.float (Binary64.ofDecimal numeral.negative
      (decimalNumber (numeral.whole ++ numeral.fraction))
      (numeral.exponent.getD 0 - numeral.fraction.length)))

/-- The names that stand for a value. -/
def namedValues : List (Text × Value) :=
  [("null".toList, .null), ("true".toList, .boolean true), ("false".toList, .boolean false),
   ("NaN".toList, .float Binary64.nan), ("Infinity".toList, .float (Binary64.infinity false)),
   ("-Infinity".toList, .float (Binary64.infinity true))]

/-- Reads a name or a number. -/
def readScalar (cursor : Cursor) : Except Error (Value × Cursor) :=
  match namedValues.find? fun named ↦ named.1.isPrefixOf cursor.rest with
  | some (name, value) => .ok (value, cursor.advance name.length)
  | none =>
    match numeral? cursor.rest with
    | some numeral => numeral.value.map fun value ↦ (value, cursor.advance numeral.length)
    | none => cursor.fail .expectedValue

/-! ## Documents -/

/-- The greatest depth of lists and records in one another. -/
def maxDepth : Nat := 990

mutual

/-- Reads the value at a cursor, in which lists and records stand no deeper than `depth`. The
fuel bounds the calls on the way into the document; two for each code point are enough. -/
def readValue : Nat → Nat → Cursor → Except Error (Value × Cursor)
  | 0, _, cursor => cursor.fail .expectedValue
  | fuel + 1, depth, cursor =>
    match cursor.rest, depth with
    | '"' :: rest, _ =>
      (readString cursor.offset rest (cursor.offset + 1) []).map fun (string, behind) ↦
        (.string string, behind)
    | '[' :: _, depth + 1 =>
      let inside := (cursor.advance 1).skipSpace
      if inside.rest.head? = some ']' then .ok (.list [], inside.advance 1)
      else (readItems fuel depth inside).map fun (items, behind) ↦ (.list items, behind)
    | '\x7b' :: _, depth + 1 =>
      let inside := (cursor.advance 1).skipSpace
      if inside.rest.head? = some '\x7d' then .ok (.record [], inside.advance 1)
      else (readFields fuel depth inside []).map fun (fields, behind) ↦ (.record fields, behind)
    | '[' :: _, 0 | '\x7b' :: _, 0 => .error .tooDeep
    | _, _ => readScalar cursor

/-- Reads the values up to the end of a list. -/
def readItems : Nat → Nat → Cursor → Except Error (List Value × Cursor)
  | 0, _, cursor => cursor.fail .expectedValue
  | fuel + 1, depth, cursor => do
    let (item, behind) ← readValue fuel depth cursor
    let behind := behind.skipSpace
    match behind.rest with
    | ']' :: _ => return ([item], behind.advance 1)
    | ',' :: _ =>
      let (items, last) ← readItems fuel depth (behind.advance 1).skipSpace
      return (item :: items, last)
    | _ => behind.fail .expectedComma

/-- Reads the fields up to the end of a record, behind those read so far. -/
def readFields : Nat → Nat → Cursor → Fields → Except Error (Fields × Cursor)
  | 0, _, cursor, _ => cursor.fail .expectedKey
  | fuel + 1, depth, cursor, fields =>
    match cursor.rest with
    | '"' :: rest => do
      let (key, behind) ← readString cursor.offset rest (cursor.offset + 1) []
      let behind := behind.skipSpace
      if behind.rest.head? ≠ some ':' then behind.fail .expectedColon
      else
        let (value, behind) ← readValue fuel depth (behind.advance 1).skipSpace
        let fields := fields.set key value
        let behind := behind.skipSpace
        match behind.rest with
        | '\x7d' :: _ => return (fields, behind.advance 1)
        | ',' :: _ => readFields fuel depth (behind.advance 1).skipSpace fields
        | _ => behind.fail .expectedComma
    | _ => cursor.fail .expectedKey

end

/-- Reads a document. -/
def read (document : Text) : Except Error Value :=
  if document.head? = some '\uFEFF' then .error (.violation .byteOrderMark 0)
  else do
    let start := (Cursor.mk document 0).skipSpace
    let (value, behind) ← readValue (2 * document.length + 2) maxDepth start
    let behind := behind.skipSpace
    if behind.rest = [] then return value else behind.fail .extraData

end Caret.Json
