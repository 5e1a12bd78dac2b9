import Caret.Text.Blank
import Caret.Text.Digit

/-!
# Numerals

Integers as they are written by hand: with padding around them, a sign, the mark of their base
in front, digits of any script, and single underscores between the digits. Numerals in base ten
have a limit on the number of their digits, for reading and for writing.
-/

namespace Caret.Text

/-- Whether a code point may stand around a numeral: white space, but not the information
separators. -/
def isPadding (c : Char) : Bool := isBlank c && !(0x1C ≤ c.toNat && c.toNat ≤ 0x1F)

/-- The text without padding at either end. -/
def trimPadding (text : Text) : Text :=
  ((text.dropWhile isPadding).reverse.dropWhile isPadding).reverse

/-- The base of a numeral. -/
inductive Base where
  | binary
  | octal
  | decimal
  | hexadecimal
  deriving DecidableEq, Repr

namespace Base

/-- The number of digits of a base. -/
def size : Base → Nat
  | binary => 2
  | octal => 8
  | decimal => 10
  | hexadecimal => 16

/-- The letter that marks a base behind a zero; base ten has none. -/
def mark? : Base → Option Char
  | binary => some 'b'
  | octal => some 'o'
  | decimal => none
  | hexadecimal => some 'x'

/-- The value of a digit in a base: decimal digits of any script, and then the letters of ASCII
in either case. -/
def digit? (base : Base) (c : Char) : Option Nat :=
  let value := match decimalValue? c with
    | some value => some value
    | none =>
      if 'a' ≤ c ∧ c ≤ 'z' then some (c.toNat - 87)
      else if 'A' ≤ c ∧ c ≤ 'Z' then some (c.toNat - 55)
      else none
  value.filter (· < base.size)

/-- The number written by digits of a base; what is no digit counts as zero. -/
def number (base : Base) (digits : Text) : Nat :=
  digits.foldl (fun n c ↦ base.size * n + (base.digit? c).getD 0) 0

end Base

/-- Why a text is no integer. -/
inductive NumeralError where
  | malformed
  | tooManyDigits (count : Nat)
  deriving DecidableEq, Repr

/-- The greatest number of digits of a numeral in base ten. -/
def maxDecimalDigits : Nat := 4300

/-- The report on a numeral with too many digits. -/
def tooManyDigitsText (count : Nat) : String :=
  s!"Exceeds the limit ({maxDecimalDigits} digits) for integer string conversion: value has " ++
    s!"{count} digits; use sys.set_int_max_str_digits() to increase the limit"

/-- Whether an integer has no more digits than a numeral in base ten may have. -/
def isWritable (n : Int) : Bool := (toString n.natAbs).length ≤ maxDecimalDigits

/-- The report on an integer with too many digits to be written. -/
def unwritableText : String :=
  s!"Exceeds the limit ({maxDecimalDigits} digits) for integer string conversion; " ++
    "use sys.set_int_max_str_digits() to increase the limit"

/-- An integer can be written up to a power of ten. -/
theorem isWritable_iff {n : Int} :
    isWritable n = true ↔ n.natAbs < Nat.pow 10 maxDecimalDigits := by
  rw [isWritable, decide_eq_true_iff, Nat.toString_eq_repr, Nat.repr_eq_ofList_toDigits,
    String.length_ofList, Nat.length_toDigits_le_iff (by decide) (by decide), Nat.pow_eq]

/-- Whether underscores stand singly and between digits only, in a text of digits and
underscores that follows a digit or does not. -/
def isGrouped (behindDigit : Bool) : Text → Bool
  | [] => behindDigit
  | c :: rest => if c = '_' then behindDigit && isGrouped false rest else isGrouped true rest

/-- Reads digits of a base, with underscores between them. The number of digits is limited
before the text behind them is looked at. -/
def readDigits (base : Base) (text : Text) : Except NumeralError Nat :=
  let run := text.takeWhile fun c ↦ c = '_' || (base.digit? c).isSome
  let digits := run.filter (· ≠ '_')
  if !isGrouped false run then .error .malformed
  else if base = .decimal ∧ digits.length > maxDecimalDigits then
    .error (.tooManyDigits digits.length)
  else if run.length < text.length then .error .malformed
  else .ok (base.number digits)

/-- The text behind the mark of a base; an underscore may follow the mark. -/
def dropMark (base : Base) (text : Text) : Text :=
  match text, base.mark? with
  | '0' :: c :: rest, some mark =>
    if c = mark ∨ c = mark.toUpper then
      match rest with
      | '_' :: behind => behind
      | _ => rest
    else text
  | _, _ => text

/-- The sign in front of a numeral, whether it is negative, and the text behind it. -/
def readSign : Text → Bool × Text
  | '-' :: rest => (true, rest)
  | '+' :: rest => (false, rest)
  | text => (false, text)

/-- Reads an integer in a base. -/
def readInteger (base : Base) (text : Text) : Except NumeralError Int :=
  let (negative, body) := readSign (trimPadding text)
  (readDigits base (dropMark base body)).map fun n ↦ if negative then -n else n

/-- The digits read are no more than the limit allows. -/
theorem length_le_of_readDigits {text : Text} {n : Nat} (h : readDigits .decimal text = .ok n) :
    (text.filter (· ≠ '_')).length ≤ maxDecimalDigits := by
  simp only [readDigits] at h
  split at h
  · cases h
  · split at h
    · cases h
    · next short =>
      split at h
      · cases h
      · next whole =>
        have prefixOf := List.takeWhile_prefix (l := text)
          fun c ↦ c = '_' || (Base.decimal.digit? c).isSome
        have same := prefixOf.eq_of_length_le (by omega)
        rw [same] at short
        simpa using short

end Caret.Text
