/-
**Shortest decimals.**

The text of a double is the shortest decimal that reads back as it: among the decimals with the
fewest digits inside the interval of reals that round to the double, the one nearest to it.

A magnitude from `1e-5` on and below `1e16` is written positionally with a fraction, any other with
one digit before the point and a signed exponent.
-/

import Switchboard.Decimal.Binary64

namespace Switchboard.Decimal

/-- The reals that round to a double, all bounds multiplied by four and by one power of two:
`low ≤ value ≤ high` over the denominator `below`. -/
structure Interval where
  low : Nat
  value : Nat
  high : Nat
  below : Nat
  closed : Bool

/-- The interval of the reals that round to a magnitude. -/
def Interval.around (number : Binary64) : Interval :=
  let narrow := number.significand == leastNormal && decide (number.exponent > leastExponent)
  let lift (quarters : Nat) := quarters * Nat.pow 2 number.exponent.toNat
  { low := lift (4 * number.significand - (if narrow then 1 else 2))
    value := lift (4 * number.significand)
    high := lift (4 * number.significand + 2)
    below := 4 * Nat.pow 2 (-number.exponent).toNat
    closed := number.significand % 2 == 0 }

/-- The decimal `digits * 10 ^ power` as numerator and denominator. -/
def decimalRatio (digits : Nat) (power : Int) : Nat × Nat :=
  (digits * Nat.pow 10 power.toNat, Nat.pow 10 (-power).toNat)

/-- The decimal lies in the interval. -/
def Interval.holds (interval : Interval) (digits : Nat) (power : Int) : Bool :=
  let (above, below) := decimalRatio digits power
  let position := above * interval.below
  let low := interval.low * below
  let high := interval.high * below
  if interval.closed then decide (low ≤ position) && decide (position ≤ high)
  else decide (low < position) && decide (position < high)

/-- The number of decimal places in front of the point of a fraction, at most one too many. -/
def leadingPower (numerator denominator : Nat) : Int :=
  let quotient := numerator / denominator
  if quotient > 0 then ((Nat.toDigits 10 quotient).length : Int)
  else 1 - ((Nat.toDigits 10 (denominator / numerator)).length : Int)

/-- The decimal with a given number of digits in the interval that is nearest to its value. -/
def Interval.candidate? (interval : Interval) (lead : Int) (count : Nat) : Option (Nat × Int) :=
  let power := lead - count
  let (unitAbove, unitBelow) := decimalRatio 1 power
  let scaledValue := interval.value * unitBelow
  let unit := interval.below * unitAbove
  let floor := scaledValue / unit
  let remainder := scaledValue % unit
  let lower := interval.holds floor power
  let upper := interval.holds (floor + 1) power
  match lower, upper with
  | true, true =>
    if 2 * remainder < unit ∨ (2 * remainder = unit ∧ floor % 2 = 0) then some (floor, power)
    else some (floor + 1, power)
  | true, false => some (floor, power)
  | false, true => some (floor + 1, power)
  | false, false => none

/-- The decimal of fewest digits, at least as many as given, in the interval. -/
def Interval.shortest (interval : Interval) (lead : Int) : Nat → Nat → Nat × Int
  | 0, count => (interval.candidate? lead count).getD (0, 0)
  | further + 1, count =>
    match interval.candidate? lead count with
    | some found => found
    | none => interval.shortest lead further (count + 1)

/-- Decimal digits without the zeros at their end, with the power of ten that makes up for them. -/
def dropZeros (digits : List Char) (power : Int) : List Char × Int :=
  let kept := (digits.reverse.dropWhile (· == '0')).reverse
  (kept, power + (digits.length - kept.length : Nat))

/-- The digits of the shortest decimal of a magnitude other than zero, and its power of ten. -/
def shortestDigits (number : Binary64) : List Char × Int :=
  let interval := Interval.around number
  let lead := leadingPower interval.value interval.below
  let (digits, power) := interval.shortest lead 18 1
  dropZeros (Nat.toDigits 10 digits) power

/-- Digits with the point behind a given number of them, filled up with zeros. -/
def positional (digits : List Char) (places : Int) : List Char :=
  if places ≤ 0 then '0' :: '.' :: (List.replicate places.natAbs '0' ++ digits)
  else
    let whole := digits.take places.natAbs
    let filled := whole ++ List.replicate (places.natAbs - whole.length) '0'
    let fraction := digits.drop places.natAbs
    filled ++ '.' :: (if fraction.isEmpty then ['0'] else fraction)

/-- Digits with one of them in front of the point, and a signed exponent. -/
def scientific (digits : List Char) (exponent : Int) : List Char :=
  let fraction := digits.drop 1
  let sign := if exponent < 0 then '-' else '+'
  digits.take 1 ++ (if fraction.isEmpty then [] else '.' :: fraction)
    ++ 'e' :: sign :: Nat.toDigits 10 exponent.natAbs

/-- The text of a double. -/
def Binary64.toText (number : Binary64) : String :=
  let sign := if number.negative then ['-'] else []
  if number.isZero then String.ofList (sign ++ ['0', '.', '0'])
  else
    let (digits, power) := shortestDigits number
    let exponent := power + digits.length - 1
    let unsigned :=
      if -5 ≤ exponent ∧ exponent < 16 then positional digits (exponent + 1)
      else scientific digits exponent
    String.ofList (sign ++ unsigned)

end Switchboard.Decimal
