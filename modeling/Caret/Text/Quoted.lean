import Caret.Text.Printable

/-!
# Quoted text

Text is shown in messages between single quotes, or between double quotes if it holds a single
quote and no double quote. The quote in use and the backslash are escaped; line breaks and tabs
have escapes of their own, and every other code point that is not printable is shown by its
number in two, four or eight hexadecimal digits.
-/

namespace Caret.Text

/-- A number in lower-case hexadecimal digits, filled with zeros on the left. -/
def hexadecimal (width n : Nat) : Text :=
  let digits := Nat.toDigits 16 n
  List.replicate (width - digits.length) '0' ++ digits

/-- The quote around a text. -/
def quoteFor (text : Text) : Char :=
  if text.contains '\'' && !text.contains '"' then '"' else '\''

/-- A code point between quotes. -/
def quotedChar (quote c : Char) : Text :=
  if c = quote ∨ c = '\\' then ['\\', c]
  else if c = '\t' then ['\\', 't']
  else if c = '\n' then ['\\', 'n']
  else if c = '\r' then ['\\', 'r']
  else if isPrintable c then [c]
  else if c.toNat < 0x100 then '\\' :: 'x' :: hexadecimal 2 c.toNat
  else if c.toNat < 0x10000 then '\\' :: 'u' :: hexadecimal 4 c.toNat
  else '\\' :: 'U' :: hexadecimal 8 c.toNat

/-- A text between quotes. -/
def quoted (text : Text) : Text :=
  let quote := quoteFor text
  quote :: text.flatMap (quotedChar quote) ++ [quote]

/-- A string between quotes. -/
def quotedString (s : String) : String := String.ofList (quoted s.toList)

end Caret.Text
