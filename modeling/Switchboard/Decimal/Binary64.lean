/-
**Doubles in exact arithmetic.**

A finite double is a sign and a multiple of a power of two. Every operation computes the exact
result as a fraction of natural numbers and rounds it once, to the nearest double, a tie going to
the even significand.

* `roundRatio_zero`: zero is rounded to zero.
-/

namespace Switchboard.Decimal

/-- A finite double: its sign, and its magnitude `significand * 2 ^ exponent`. -/
structure Binary64 where
  negative : Bool
  significand : Nat
  exponent : Int
deriving DecidableEq, Repr, Inhabited

/-- The exponent of the smallest doubles. -/
def leastExponent : Int := -1074

/-- The exponent of the largest doubles. -/
def greatestExponent : Int := 971

/-- The smallest significand of 53 binary digits. -/
def leastNormal : Nat := 4503599627370496

/-- The nearest integer to a fraction, a tie going to the even one. -/
def roundHalfEven (numerator denominator : Nat) : Nat :=
  let quotient := numerator / denominator
  let double := 2 * (numerator % denominator)
  if double > denominator ∨ (double = denominator ∧ quotient % 2 = 1) then quotient + 1
  else quotient

/-- A fraction in units of `2 ^ exponent`, as numerator and denominator. -/
def scaled (numerator denominator : Nat) (exponent : Int) : Nat × Nat :=
  if exponent < 0 then (numerator * Nat.pow 2 exponent.natAbs, denominator)
  else (numerator, denominator * Nat.pow 2 exponent.natAbs)

/-- The exponent that gives the quotient of a fraction 53 binary digits, if it is not too small. -/
def unitExponent (numerator denominator : Nat) : Int :=
  let guess : Int := (numerator.log2 : Int) - denominator.log2 - 52
  let (above, below) := scaled numerator denominator guess
  max leastExponent (if above / below < leastNormal then guess - 1 else guess)

/-- Significand and exponent of the double nearest to a fraction, of any size. -/
def roundRatio (numerator denominator : Nat) : Nat × Int :=
  if numerator = 0 then (0, leastExponent)
  else
    let exponent := unitExponent numerator denominator
    let (above, below) := scaled numerator denominator exponent
    let significand := roundHalfEven above below
    if significand = 2 * leastNormal then (leastNormal, exponent + 1) else (significand, exponent)

/-- Zero is rounded to zero. -/
theorem roundRatio_zero (denominator : Nat) : roundRatio 0 denominator = (0, leastExponent) := by
  simp [roundRatio]

namespace Binary64

/-- The double nearest to a fraction, unless that is beyond the largest double. -/
def ofRatio? (negative : Bool) (numerator denominator : Nat) : Option Binary64 :=
  let (significand, exponent) := roundRatio numerator denominator
  if exponent > greatestExponent then none else some ⟨negative, significand, exponent⟩

/-- The magnitude of a double as a fraction. -/
def ratio (number : Binary64) : Nat × Nat :=
  scaled number.significand 1 (-number.exponent)

/-- The double is zero, of either sign. -/
def isZero (number : Binary64) : Bool :=
  number.significand == 0

/-- The zero of a sign. -/
def zero (negative : Bool) : Binary64 :=
  ⟨negative, 0, leastExponent⟩

/-- The product of two magnitudes, with the sign of the first. -/
def mul? (first second : Binary64) : Option Binary64 :=
  let (firstAbove, firstBelow) := first.ratio
  let (secondAbove, secondBelow) := second.ratio
  ofRatio? first.negative (firstAbove * secondAbove) (firstBelow * secondBelow)

/-- The quotient of two magnitudes, with the sign of the first. -/
def div? (first second : Binary64) : Option Binary64 :=
  let (firstAbove, firstBelow) := first.ratio
  let (secondAbove, secondBelow) := second.ratio
  ofRatio? first.negative (firstAbove * secondBelow) (firstBelow * secondAbove)

/-- The double nearest to a power of ten. -/
def powerOfTen? (exponent : Nat) : Option Binary64 :=
  ofRatio? false (Nat.pow 10 exponent) 1

/-- The largest power of ten that is taken as one factor. -/
def greatestPower : Nat := 308

/-- Divide by powers of ten, the largest one first as often as it takes. -/
def scaleDown (number : Binary64) (places : Nat) : Option Binary64 :=
  if number.isZero then some number
  else if places ≤ greatestPower then do
    number.div? (← powerOfTen? places)
  else do
    let smaller ← number.div? (← powerOfTen? greatestPower)
    scaleDown smaller (places - greatestPower)
termination_by places
decreasing_by simp only [greatestPower] at *; omega

/-- Multiply by a power of ten; a factor above the largest one leaves the range. -/
def scaleUp (number : Binary64) (places : Nat) : Option Binary64 :=
  if places ≤ greatestPower then do
    number.mul? (← powerOfTen? places)
  else if number.isZero then some number
  else none

/-- The double read from decimal digits and a power of ten: the digits are rounded first, then
their product with the rounded power; `none` if that is out of range. -/
def ofDecimal? (negative : Bool) (digits : Nat) (power : Int) : Option Binary64 := do
  let number ← ofRatio? negative digits 1
  if power < 0 then number.scaleDown power.natAbs else number.scaleUp power.natAbs

end Binary64

end Switchboard.Decimal
