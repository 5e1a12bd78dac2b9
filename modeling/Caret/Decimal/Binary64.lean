/-!
# Floating-point numbers by their bits

A double-precision number is kept as its 64 bits, and decimal notation is rounded to it in
exact arithmetic on natural numbers: to the nearest number, and to the even one of two that
are equally near.
-/

namespace Caret.Decimal

/-- A double-precision number. -/
structure Binary64 where
  bits : UInt64
  deriving DecidableEq, Repr, Inhabited

namespace Binary64

/-- The bit of a negative number. -/
def signBit : Nat := Nat.pow 2 63

/-- The bits of infinity; larger ones, without the sign, are not a number. -/
def infinityBits : Nat := 0x7FF * Nat.pow 2 52

/-- A number with a sign and the bits behind it. -/
def ofBits (negative : Bool) (bits : Nat) : Binary64 :=
  ⟨UInt64.ofNat (if negative then signBit + bits else bits)⟩

/-- What is not a number. -/
def nan : Binary64 := ofBits false (infinityBits + Nat.pow 2 51)

/-- Infinity with a sign. -/
def infinity (negative : Bool) : Binary64 := ofBits negative infinityBits

/-- Whether the sign of a number is negative; zero has a sign too. -/
def isNegative (x : Binary64) : Bool := x.bits.toNat ≥ signBit

/-- The bits of a number without its sign. -/
def magnitudeBits (x : Binary64) : Nat := x.bits.toNat % signBit

/-- Whether this is a zero of either sign. -/
def isZero (x : Binary64) : Bool := x.magnitudeBits == 0

/-- Whether this is not a number. -/
def isNaN (x : Binary64) : Bool := x.magnitudeBits > infinityBits

/-- Whether this is infinity of either sign. -/
def isInfinite (x : Binary64) : Bool := x.magnitudeBits == infinityBits

/-- The significand and the power of two of a finite number. -/
def decompose (x : Binary64) : Nat × Int :=
  let exponent : Nat := x.magnitudeBits / Nat.pow 2 52
  let fraction : Nat := x.magnitudeBits % Nat.pow 2 52
  if exponent = 0 then (fraction, -1074)
  else (fraction + Nat.pow 2 52, (exponent : Int) - 1075)

/-- A quotient rounded to the nearest natural number, a half to the even one. -/
def roundQuotient (numerator denominator : Nat) : Nat :=
  let quotient := numerator / denominator
  let twice := 2 * (numerator % denominator)
  if twice > denominator ∨ (twice = denominator ∧ quotient % 2 = 1) then quotient + 1
  else quotient

/-- The quotient of a positive fraction and a power of two, rounded. -/
def roundScaled (numerator denominator : Nat) (power : Int) : Nat :=
  if power ≥ 0 then roundQuotient numerator (denominator * Nat.pow 2 power.toNat)
  else roundQuotient (numerator * Nat.pow 2 (-power).toNat) denominator

/-- The power of two that gives a positive fraction 53 significant bits, or the least power
there is. -/
def powerFor (numerator denominator : Nat) : Int :=
  let guess : Int := (numerator.log2 : Int) - denominator.log2 - 52
  let large :=
    if guess ≥ 0 then numerator ≥ denominator * Nat.pow 2 (guess.toNat + 52)
    else numerator * Nat.pow 2 (-guess).toNat ≥ denominator * Nat.pow 2 52
  max (if large then guess else guess - 1) (-1074)

/-- The bits of a positive fraction, rounded; infinity if it is too large. A significand that
is rounded up to the next power of two carries into the exponent by itself. -/
def magnitudeOf (numerator denominator : Nat) : Nat :=
  let power := powerFor numerator denominator
  let bits := (power + 1074).toNat * Nat.pow 2 52 + roundScaled numerator denominator power
  min bits infinityBits

/-- The number of decimal digits of a natural number. -/
def digitCount (n : Nat) : Nat := (Nat.toDigits 10 n).length

/-- The number nearest to `digits` times a power of ten. Powers that are out of range for any
digits are decided without computing them. -/
def ofDecimal (negative : Bool) (digits : Nat) (exponent : Int) : Binary64 :=
  if digits = 0 then ofBits negative 0
  else
    let scale := (digitCount digits : Int) + exponent
    if scale > 310 then infinity negative
    else if scale < -330 then ofBits negative 0
    else if exponent ≥ 0 then ofBits negative (magnitudeOf (digits * Nat.pow 10 exponent.toNat) 1)
    else ofBits negative (magnitudeOf digits (Nat.pow 10 (-exponent).toNat))

end Binary64

end Caret.Decimal
