import Caret.Text.Alphanumeric
import Caret.Text.Blank
import Caret.Text.Digit

/-!
# Token lengths

How many code points the token at a place of C-like source spans. Tokens are recognised
without keywords and without a check of literals: quoted literals with their encoding mark,
numbers, identifiers, punctuation, and any other single code point. White space is no token.
The length depends on the text from the token on only.
-/

namespace Caret.Source.Token

open Caret.Text

/-- The punctuation of more than one code point; the longer ones come first. -/
def punctuators : List Text :=
  ["%:%:", "<<=", ">>=", "...", "->*", "<=>", "->", "++", "--", "<<", ">>", "<=", ">=", "==",
   "!=", "&&", "||", "*=", "/=", "%=", "+=", "-=", "&=", "^=", "|=", "##", "::", ".*", "<:",
   ":>", "<%", "%>", "%:"].map String.toList

/-- The number of code points of a quoted literal behind its opening quote. An escape takes
two code points; a literal that is not closed ends before the line break. -/
def quotedLength (quote : Char) : Text → Nat
  | [] => 0
  | ['\\'] => 1
  | '\\' :: _ :: rest => 2 + quotedLength quote rest
  | c :: rest =>
    if c = quote then 1
    else if c = '\r' ∨ c = '\n' then 0
    else 1 + quotedLength quote rest

/-- The length of a quoted literal without encoding mark, if the text starts with one. -/
def quoteLength? : Text → Option Nat
  | '"' :: rest => some (1 + quotedLength '"' rest)
  | '\'' :: rest => some (1 + quotedLength '\'' rest)
  | _ => none

/-- The length of a quoted literal, if the text starts with one. -/
def literalLength? : Text → Option Nat
  | 'u' :: '8' :: rest => (quoteLength? rest).map (· + 2)
  | 'u' :: rest => (quoteLength? rest).map (· + 1)
  | 'U' :: rest => (quoteLength? rest).map (· + 1)
  | 'L' :: rest => (quoteLength? rest).map (· + 1)
  | text => quoteLength? text

/-- Whether a code point continues a number by itself. -/
def continuesNumber (c : Char) : Bool := isWordChar c || c = '.' || c = '\''

/-- The number of code points that continue a number: an exponent sign belongs to the letter
in front of it. -/
def numberTailLength : Text → Nat
  | [] => 0
  | [c] => if continuesNumber c then 1 else 0
  | c :: d :: rest =>
    if (c = 'e' ∨ c = 'E' ∨ c = 'p' ∨ c = 'P') ∧ (d = '+' ∨ d = '-') then
      2 + numberTailLength rest
    else if continuesNumber c then 1 + numberTailLength (d :: rest)
    else 0

/-- The length of a number, if the text starts with one: a decimal digit, or a point and a
decimal digit, and what continues it. -/
def numberLength? : Text → Option Nat
  | '.' :: c :: rest => if isDecimal c then some (2 + numberTailLength rest) else none
  | c :: rest => if isDecimal c then some (1 + numberTailLength rest) else none
  | [] => none

/-- Whether a code point may start an identifier; all code points beyond ASCII may. -/
def startsIdentifier (c : Char) : Bool := c.isAlpha || c = '_' || c = '$' || 0x80 ≤ c.toNat

/-- Whether a code point may continue an identifier. -/
def continuesIdentifier (c : Char) : Bool := startsIdentifier c || c.isDigit

/-- The length of an identifier, if the text starts with one. -/
def identifierLength? : Text → Option Nat
  | c :: rest =>
    if startsIdentifier c then some (1 + (rest.takeWhile continuesIdentifier).length) else none
  | [] => none

/-- The length of the longest punctuation at the start of a text; a code point that starts
none stands for itself. -/
def punctuationLength (text : Text) : Nat :=
  match punctuators.find? (·.isPrefixOf text) with
  | some punctuator => punctuator.length
  | none => 1

/-- The length of the token at the start of a text: zero at the end and at white space. -/
def length : Text → Nat
  | [] => 0
  | c :: rest =>
    if isBlank c then 0
    else ((literalLength? (c :: rest)).orElse fun _ ↦
      (numberLength? (c :: rest)).orElse fun _ ↦
        identifierLength? (c :: rest)).getD (punctuationLength (c :: rest))

/-- The length of the token at an offset of a text: zero outside of the text. -/
def lengthAt (text : Text) (offset : Int) : Nat :=
  if offset < 0 then 0 else length (text.drop offset.toNat)

/-- Outside of the text there is no token. -/
theorem lengthAt_of_neg {text : Text} {offset : Int} (h : offset < 0) :
    lengthAt text offset = 0 := by
  simp [lengthAt, h]

end Caret.Source.Token
