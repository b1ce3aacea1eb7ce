/-
**Arithmetic of remainders.**

Numbers below a modulus are added, subtracted and multiplied up to multiples of it; a number without
a common divisor with the modulus has an inverse.

* `add_lt`, `sub_lt`, `mul_lt`: results are below the modulus.
-/

namespace Switchboard.Credential.Residue

/-- The sum. -/
def add (modulus first second : Nat) : Nat :=
  (first + second) % modulus

/-- The difference. -/
def sub (modulus first second : Nat) : Nat :=
  (first + (modulus - second % modulus)) % modulus

/-- The product. -/
def mul (modulus first second : Nat) : Nat :=
  first * second % modulus

/-- The steps of the division algorithm on two numbers, each with the factor by which the number to
be inverted gives it. -/
def reduce (modulus upper lower upperFactor lowerFactor : Nat) : Nat :=
  if lower = 0 then upperFactor
  else
    reduce modulus lower (upper % lower) lowerFactor
      (sub modulus upperFactor (mul modulus (upper / lower) lowerFactor))
termination_by lower
decreasing_by exact Nat.mod_lt _ (by omega)

/-- The inverse. -/
def inverse (modulus number : Nat) : Nat :=
  reduce modulus modulus (number % modulus) 0 1

/-- The quotient. -/
def div (modulus first second : Nat) : Nat :=
  mul modulus first (inverse modulus second)

/-- A sum is below the modulus. -/
theorem add_lt {modulus : Nat} (positive : 0 < modulus) (first second : Nat) :
    add modulus first second < modulus :=
  Nat.mod_lt _ positive

/-- A difference is below the modulus. -/
theorem sub_lt {modulus : Nat} (positive : 0 < modulus) (first second : Nat) :
    sub modulus first second < modulus :=
  Nat.mod_lt _ positive

/-- A product is below the modulus. -/
theorem mul_lt {modulus : Nat} (positive : 0 < modulus) (first second : Nat) :
    mul modulus first second < modulus :=
  Nat.mod_lt _ positive

end Switchboard.Credential.Residue
