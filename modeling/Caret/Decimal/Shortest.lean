import Caret.Decimal.Binary64

/-!
# The shortest decimal text of a number

A finite number is written with the fewest decimal digits that read back as the same number,
and with the nearest of those to it. The digits are found on the decimal grids of one, two, …
seventeen digits, in exact arithmetic: the first grid wins on which a neighbour of the number
lies in the interval that rounds to it.
-/

namespace Caret.Decimal

/-- A decimal: the digits, read as a natural number, times a power of ten. -/
structure Scientific where
  digits : Nat
  exponent : Int
  deriving DecidableEq, Repr

namespace Shortest

/-- The interval of fractions, over a common denominator, that round to a number. -/
structure Interval where
  low : Nat
  value : Nat
  high : Nat
  denominator : Nat
  closed : Bool

/-- The interval of a positive finite number: half-way to its two neighbours. The lower
neighbour of a power of two is nearer; the ends belong to the number if it is even. -/
def intervalOf (significand : Nat) (power : Int) : Interval :=
  let nearer := significand = Nat.pow 2 52 ∧ power > -1074
  let low := if nearer then 4 * significand - 1 else 4 * significand - 2
  let scale := if power ≥ 2 then Nat.pow 2 (power - 2).toNat else 1
  { low := low * scale
    value := 4 * significand * scale
    high := (4 * significand + 2) * scale
    denominator := if power ≥ 2 then 1 else Nat.pow 2 (2 - power).toNat
    closed := significand % 2 = 0 }

/-- Whether `digits` times the power of ten lies in the interval. -/
def Interval.holds (interval : Interval) (digits : Nat) (exponent : Int) : Bool :=
  let (point, unit) :=
    if exponent ≥ 0 then (digits * Nat.pow 10 exponent.toNat * interval.denominator, 1)
    else (digits * interval.denominator, Nat.pow 10 (-exponent).toNat)
  if interval.closed then interval.low * unit ≤ point && point ≤ interval.high * unit
  else interval.low * unit < point && point < interval.high * unit

/-- The power of ten of the leading digit of a positive fraction. -/
def leadingExponent (numerator denominator : Nat) : Int :=
  if numerator ≥ denominator then Binary64.digitCount (numerator / denominator) - 1
  else
    let places := Binary64.digitCount (denominator / numerator)
    if numerator * Nat.pow 10 (places - 1) ≥ denominator then 1 - (places : Int)
    else -(places : Int)

/-- The nearest point in the interval on the grid of the multiples of a power of ten. -/
def candidate? (interval : Interval) (exponent : Int) : Option Scientific :=
  let (numerator, denominator) :=
    if exponent ≥ 0 then (interval.value, interval.denominator * Nat.pow 10 exponent.toNat)
    else (interval.value * Nat.pow 10 (-exponent).toNat, interval.denominator)
  let below := numerator / denominator
  let rest := 2 * (numerator % denominator)
  let nearest :=
    if rest > denominator ∨ (rest = denominator ∧ below % 2 = 1) then below + 1 else below
  let other := if nearest = below then below + 1 else below
  if interval.holds nearest exponent then some ⟨nearest, exponent⟩
  else if interval.holds other exponent then some ⟨other, exponent⟩
  else none

/-- The shortest digits that read back as a positive finite number. -/
def digits (significand : Nat) (power : Int) : Scientific :=
  let interval := intervalOf significand power
  let leading := leadingExponent interval.value interval.denominator
  ((List.range 17).findSome? fun (count : Nat) ↦ candidate? interval (leading - count)).getD
    ⟨significand, 0⟩

end Shortest

/-- How a number is written: from `positionalFrom` up to `positionalTo`, the power of ten of
the leading digit, in positional notation, otherwise with an exponent of at least
`exponentDigits` digits and a sign. -/
structure Layout where
  positionalFrom : Int
  positionalTo : Int
  exponentDigits : Nat

/-- Numbers below ten to the sixteenth and from one ten-thousandth on are positional. -/
def standardLayout : Layout := ⟨-4, 15, 2⟩

/-- The decimal digits of a scientific number without trailing zeros, and the power of ten of
the first. -/
def Scientific.significant (x : Scientific) : List Char × Int :=
  let all := Nat.toDigits 10 x.digits
  let kept := (all.reverse.dropWhile (· = '0')).reverse
  (kept, x.exponent + all.length - 1)

/-- The text of a positive decimal. A whole number keeps a zero behind the point. -/
def Scientific.text (layout : Layout) (x : Scientific) : List Char :=
  let (digits, leading) := x.significant
  if layout.positionalFrom ≤ leading ∧ leading ≤ layout.positionalTo then
    if leading < 0 then
      "0.".toList ++ List.replicate (-leading - 1).toNat '0' ++ digits
    else
      let count := leading.toNat + 1
      let whole := digits.take count ++ List.replicate (count - digits.length) '0'
      let fraction := digits.drop count
      whole ++ '.' :: (if fraction = [] then ['0'] else fraction)
  else
    let mantissa := match digits with
      | [] => []
      | [d] => [d]
      | d :: rest => d :: '.' :: rest
    let power := Nat.toDigits 10 leading.natAbs
    mantissa ++ 'e' :: (if leading < 0 then '-' else '+') ::
      (List.replicate (layout.exponentDigits - power.length) '0' ++ power)

/-- The shortest text of a number. -/
def Binary64.text (x : Binary64) : List Char :=
  if x.isNaN then "nan".toList
  else
    (if x.isNegative then ['-'] else []) ++
      if x.isInfinite then "inf".toList
      else if x.isZero then "0.0".toList
      else (Shortest.digits x.decompose.1 x.decompose.2).text standardLayout

end Caret.Decimal
