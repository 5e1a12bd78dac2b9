import Caret.Decimal.Binary64
import Caret.Text.LowerCase
import Caret.Text.Numeral

/-!
# Floating-point numerals

Floating-point numbers as they are written by hand: with padding around them, a sign, a point in
any place and an exponent, or as one of the names of infinity and of what is not a number.
-/

namespace Caret.Decimal

open Text

/-- The decimal digits of any script at the start of a text, and what follows them. -/
def spanDecimals (text : Text) : Text × Text := (text.takeWhile isDecimal, text.dropWhile isDecimal)

/-- The exponent at the end of a numeral; there may be none. -/
def exponent? : Text → Option Int
  | [] => some 0
  | c :: rest =>
    let (negative, body) := readSign rest
    let (digits, behind) := spanDecimals body
    if (c = 'e' ∨ c = 'E') ∧ digits ≠ [] ∧ behind = [] then
      let power : Int := Base.decimal.number digits
      some (if negative then -power else power)
    else none

/-- Reads a number in positional notation without its sign: there is a digit before or behind
the point. -/
def readPositional (negative : Bool) (text : Text) : Option Binary64 :=
  let (whole, rest) := spanDecimals text
  let (fraction, behind) := match rest with
    | '.' :: more => spanDecimals more
    | _ => ([], rest)
  if whole = [] ∧ fraction = [] then none
  else
    (exponent? behind).map fun power ↦
      Binary64.ofDecimal negative (Base.decimal.number (whole ++ fraction))
        (power - fraction.length)

/-- Reads a floating-point number. -/
def readFloat (text : Text) : Option Binary64 :=
  let (negative, body) := readSign (trimPadding text)
  let name := String.ofList (lower body)
  if name = "inf" ∨ name = "infinity" then some (Binary64.infinity negative)
  else if name = "nan" then some Binary64.nan
  else readPositional negative body

end Caret.Decimal
