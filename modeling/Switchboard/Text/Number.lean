/-
**Numbers read from texts.**

A number of 64 bits is written as decimal digits, with a plus sign in front of them perhaps.
-/

namespace Switchboard.Text

/-- The number that decimal digits spell, if there is one digit at least and nothing else. -/
def readDigits? (digits : List Char) : Option Nat :=
  if digits.isEmpty || !digits.all Char.isDigit then none
  else some (digits.foldl (fun number digit => 10 * number + (digit.toNat - '0'.toNat)) 0)

/-- The largest number of 64 bits. -/
def greatestWord : Nat := 18446744073709551615

/-- A text without one plus sign in front. -/
def dropPlus : List Char → List Char
  | '+' :: rest => rest
  | text => text

/-- The number of 64 bits that a text spells. -/
def readWord? (text : List Char) : Option Nat :=
  match readDigits? (dropPlus text) with
  | some number => if number ≤ greatestWord then some number else none
  | none => none

end Switchboard.Text
