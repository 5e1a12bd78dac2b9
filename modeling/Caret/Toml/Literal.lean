import Caret.Decimal.Numeral
import Caret.Toml.Item
import Caret.Toml.Writer

/-!
# Single values of TOML

Strings, numbers, dates and times, as they stand in a document. Numbers and dates are words: they
end at white space, a comma, a closing bracket or a comment.
-/

namespace Caret.Toml

open Data (Value Day TimeOfDay Zone Moment)
open Text

/-- Why a text is no document. -/
inductive Error where
  | malformed
  | conflict (conflict : Conflict)
  deriving DecidableEq, Repr

/-- What was read at the start of a text, and what follows it. -/
abbrev Read (α : Type) := Except Error (α × Text)

/-- Whether a code point is white space in a line. -/
def isSpace (c : Char) : Bool := c = ' ' || c = '\t'

/-- Whether a code point is white space between values. -/
def isGap (c : Char) : Bool := isSpace c || c = '\n' || c = '\r'

/-- The text at its first code point that is no white space in a line. -/
def skipSpaces (text : Text) : Text := text.dropWhile isSpace

/-- Whether a code point may stand neither in a string nor in a comment. -/
def isForbidden (c : Char) : Bool := isControl c && c != '\t'

/-! ## Strings -/

/-- The letters of the escapes that stand for one code point. -/
def escapeLetters : List (Char × Char) := ('\x1b', 'e') :: shortEscapes

/-- The code point of an escape letter. -/
def shortEscape? (c : Char) : Option Char :=
  (escapeLetters.find? fun entry ↦ entry.2 == c).map (·.1)

/-- The letters of the escapes by number, with the number of digits behind them. -/
def numberedEscapes : List (Char × Nat) := [('x', 2), ('u', 4), ('U', 8)]

/-- Whether a code point is a digit of a base, written in ASCII. -/
def isAsciiDigit (base : Base) (c : Char) : Bool := c.toNat < 0x80 && (base.digit? c).isSome

/-- The code point of an escape by its number in hexadecimal digits; not every number has one. -/
def numberedEscape? (digits : Text) : Option Char :=
  let n := Base.hexadecimal.number digits
  if digits.all (isAsciiDigit .hexadecimal ·) ∧ n.isValidChar then some (codePoint n) else none

/-- The escape behind a backslash: what it stands for, and the number of code points it takes.
In a text of several lines, the white space from the end of a line on stands for nothing. -/
def readEscape? (severalLines : Bool) (text : Text) : Option (Text × Nat) :=
  match text with
  | [] => none
  | c :: rest =>
    if severalLines ∧ isGap c then
      let gap := text.takeWhile isGap
      if gap.contains '\n' ∧ gap.length < text.length then some ([], gap.length) else none
    else
      match numberedEscapes.lookup c with
      | some count =>
        if rest.length < count then none
        else (numberedEscape? (rest.take count)).map fun escaped ↦ ([escaped], count + 1)
      | none => (shortEscape? c).map fun escaped ↦ ([escaped], 1)

/-- How a string is written: the quote around it, whether it has several lines, and whether the
backslash starts an escape. -/
structure StringForm where
  quote : Char
  severalLines : Bool
  deriving DecidableEq, Repr

namespace StringForm

/-- Whether the backslash starts an escape. -/
def hasEscapes (form : StringForm) : Bool := form.quote == '"'

/-- Whether a code point may not stand in a string. -/
def refuses (form : StringForm) (c : Char) : Bool :=
  isForbidden c && !(form.severalLines && (c = '\n' || c = '\r'))

end StringForm

/-- Reads a string up to its closing quotes; `read`, backwards, is what was read so far. Three to
five quotes close a string of several lines, those behind the first three belong to the text. -/
def readChars (form : StringForm) (text read : Text) : Read String :=
  match text with
  | [] => .error .malformed
  | c :: rest =>
    if form.refuses c then .error .malformed
    else if c = form.quote then
      if form.severalLines then
        let run := text.takeWhile (· = form.quote)
        if run.length < 3 then readChars form (rest.drop (run.length - 1)) (run ++ read)
        else if run.length ≥ 6 then .error .malformed
        else .ok (String.ofList ((run.drop 3 ++ read).reverse), rest.drop (run.length - 1))
      else .ok (String.ofList read.reverse, rest)
    else if form.hasEscapes ∧ c = '\\' then
      match readEscape? form.severalLines rest with
      | none => .error .malformed
      | some (escaped, taken) =>
        readChars form (rest.drop taken) (escaped.reverse ++ read)
    else readChars form rest (c :: read)
termination_by text.length
decreasing_by
  all_goals simp only [List.length_cons, List.length_drop]
  all_goals omega

/-- Reads a string behind its first quote, and tells whether it has several lines. A line end
right behind the opening quotes does not belong to the text. -/
def readString (quote : Char) (text : Text) : Read (String × Bool) :=
  let oneLine : Read (String × Bool) :=
    (readChars ⟨quote, false⟩ text []).map fun (string, rest) ↦ ((string, false), rest)
  match text with
  | c :: d :: rest =>
    if c = quote ∧ d = quote then
      let inside := match rest with
        | '\n' :: behind => behind
        | _ => rest
      (readChars ⟨quote, true⟩ inside []).map fun (string, rest) ↦ ((string, true), rest)
    else oneLine
  | _ => oneLine

/-! ## Dates and times -/

/-- A number of exactly `count` digits. -/
def digits? (isDigit : Char → Bool) (count : Nat) (text : Text) : Option (Nat × Text) :=
  let run := text.take count
  if run.length = count ∧ run.all isDigit then
    some (Base.decimal.number run, text.drop count)
  else none

/-- A number of exactly four digits, which may be of any script. -/
def fourDigits? (text : Text) : Option (Nat × Text) := digits? isDecimal 4 text

/-- A number of exactly two digits, written in ASCII, that is in a range. -/
def twoDigits? (low high : Nat) (text : Text) : Option (Nat × Text) :=
  (digits? Char.isDigit 2 text).filter fun (n, _) ↦ low ≤ n && n ≤ high

/-- The text behind a mark. -/
def behind? (mark : Char) : Text → Option Text
  | c :: rest => if c = mark then some rest else none
  | [] => none

/-- Reads a day. -/
def readDay? (text : Text) : Option (Day × Text) := do
  let (year, rest) ← fourDigits? text
  let rest ← behind? '-' rest
  let (month, rest) ← twoDigits? 1 12 rest
  let rest ← behind? '-' rest
  let (day, rest) ← twoDigits? 1 31 rest
  return (⟨year, month, day⟩, rest)

/-- The microseconds of a fraction of a second; further digits are dropped. -/
def microseconds (fraction : Text) : Nat :=
  Base.decimal.number ((fraction ++ List.replicate 6 '0').take 6)

/-- Reads a second and a fraction of it, behind the minute. Both may be missing. -/
def readSecond? : Text → Option (Nat × Nat × Text)
  | ':' :: text => do
    let (second, rest) ← twoDigits? 0 60 text
    match rest with
    | '.' :: more =>
      let fraction := more.takeWhile Char.isDigit
      if fraction = [] then none
      else return (second, microseconds fraction, more.drop fraction.length)
    | _ => return (second, 0, rest)
  | text => some (0, 0, text)

/-- Reads a time of day. -/
def readTime? (text : Text) : Option (TimeOfDay × Text) := do
  let (hour, rest) ← twoDigits? 0 23 text
  let rest ← behind? ':' rest
  let (minute, rest) ← twoDigits? 0 59 rest
  let (second, microsecond, rest) ← readSecond? rest
  return (⟨hour, minute, second, microsecond⟩, rest)

/-- Reads the distance from universal time at the end of a word; there may be none. -/
def readZone? : Text → Option (Option Zone)
  | [] => some none
  | [c] => if c = 'Z' ∨ c = 'z' then some (some ⟨0, "UTC"⟩) else none
  | sign :: rest =>
    if sign = '+' ∨ sign = '-' then do
      let (hours, rest') ← twoDigits? 0 23 rest
      let rest' ← behind? ':' rest'
      let (minutes, rest') ← twoDigits? 0 59 rest'
      let distance : Int := 60 * hours + minutes
      if rest' = [] then
        return some ⟨if sign = '-' then -distance else distance, String.ofList (sign :: rest)⟩
      else none
    else none

/-- The date or time that a word is written like, whether there is such a day or time or not. -/
def readMoment? (word : Text) : Option Moment :=
  match readDay? word with
  | some (day, []) => some (.day day)
  | some (day, separator :: rest) =>
    if separator = 'T' ∨ separator = 't' ∨ separator = ' ' then do
      let (time, rest) ← readTime? rest
      let zone ← readZone? rest
      return .dayTime day time zone
    else none
  | none =>
    match readTime? word with
    | some (time, []) => some (.time time)
    | _ => none

/-- Refuses days and times that do not exist. -/
def existing (moment : Moment) : Except Error Moment :=
  let exist : Bool := match moment with
    | .day day => day.exists
    | .time time => time.exists
    | .dayTime day time _ => day.exists && time.exists
  if exist then .ok moment else .error .malformed

/-! ## Numbers -/

/-- Whether a code point ends a number or a date. -/
def endsWord (c : Char) : Bool := isGap c || c = '#' || c = ',' || c = ']' || c = '}'

/-- The word at the start of a text. -/
def wordOf (text : Text) : Text := text.takeWhile (!endsWord ·)

/-- The base that the start of a number tells. -/
def baseOf : Text → Base
  | '0' :: 'b' :: _ => .binary
  | '0' :: 'o' :: _ => .octal
  | '0' :: 'x' :: _ => .hexadecimal
  | _ => .decimal

/-- The text without the underscores that stand between two digits. -/
def ungroup (isDigit : Char → Bool) : Text → Text
  | a :: '_' :: b :: rest =>
    if isDigit a && isDigit b then a :: ungroup isDigit (b :: rest)
    else a :: ungroup isDigit ('_' :: b :: rest)
  | a :: rest => a :: ungroup isDigit rest
  | [] => []
termination_by text => text.length

/-- Whether a number without its sign starts as no number may: with a zero in front of another
digit, or, behind a sign, with a point or the mark of a base. -/
def startsBadly (signed : Bool) : Text → Bool
  | '0' :: c :: _ =>
    !(['.', 'o', 'x', 'b', 'e', 'E'].contains c) || (signed && ['o', 'x', 'b'].contains c)
  | '.' :: _ :: _ => signed
  | _ => false

/-- Whether a point has no digit behind it. -/
def hasBarePoint (text : Text) : Bool :=
  text.getLast? == some '.' ||
    (baseOf text != .hexadecimal && (text.takeWhile (· ≠ 'e')).getLast? == some '.')

/-- The words that stand for infinity and for what is not a number; they may have a sign. -/
def namedNumbers : List Text := ["inf".toList, "nan".toList]

/-- Whether a decimal number has a fraction or an exponent. -/
def isFractional (text : Text) : Bool := text.contains '.' || text.contains 'e'

/-- Reads a word as a number: an integer, one of the named numbers, or a decimal number with a
fraction or an exponent. -/
def readNumber? (word : Text) : Option Value :=
  let sign := word.take 1 |>.filter fun c ↦ c = '+' || c = '-'
  let body := word.drop sign.length
  let base := baseOf body
  let digits := lower (ungroup (isAsciiDigit base) body)
  if startsBadly (!sign.isEmpty) body || digits.contains '_' || hasBarePoint digits then none
  else
    match readInteger base (sign ++ digits) with
    | .ok n => some (.integer n)
    | .error _ =>
      if namedNumbers.contains body ∨ base = .decimal ∧ isFractional digits then
        (Decimal.readFloat (sign ++ digits)).map .float
      else none

/-- Reads a number at the start of a text. -/
def readNumber (text : Text) : Read Value :=
  let word := wordOf text
  match readNumber? word with
  | some value => .ok (value, text.drop word.length)
  | none => .error .malformed

/-- Whether a code point ends the text in which the time behind a day is looked for. -/
def endsDay (c : Char) : Bool := endsWord c && c != ' '

/-- Reads what starts with a digit: a date, a time or a number. A blank may stand between a day
and the time. -/
def readDigits (text : Text) : Except Error (Value × Text) :=
  let word := wordOf text
  let rest := text.drop word.length
  match readMoment? word with
  | none => readNumber text
  | some moment => do
    let moment ← existing moment
    match moment with
    | .day _ =>
      let more := rest.takeWhile (!endsDay ·)
      let behind := rest.drop more.length
      match trimEnd more with
      | [] => return (.moment moment, behind)
      | time =>
        match readMoment? (word ++ time) with
        | some whole => return (.moment (← existing whole), behind)
        | none => throw .malformed
    | _ => return (.moment moment, rest)

/-- Reads a name that stands for a value. -/
def readName (name : Text) (value : Value) (text : Text) : Read Value :=
  if name.isPrefixOf text then .ok (value, text.drop name.length) else .error .malformed

/-- Reads a value that holds no other values. -/
def readScalar (text : Text) : Read Value :=
  match text with
  | [] => .error .malformed
  | c :: rest =>
    if c = '"' ∨ c = '\'' then
      (readString c rest).map fun ((string, _), rest) ↦ (.string string, rest)
    else if c = 't' then readName "true".toList (.boolean true) text
    else if c = 'f' then readName "false".toList (.boolean false) text
    else if c = '+' ∨ c = '-' ∨ namedNumbers.contains (wordOf text) then readNumber text
    else if c.isDigit then readDigits text
    else .error .malformed

end Caret.Toml
