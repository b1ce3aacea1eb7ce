/-
**Hexadecimal digits.**

Numbers and bytes written in lower case, digits read in either case.
-/

namespace Switchboard.Text

/-- The value of a hexadecimal digit of either case. -/
def hexValue (digit : Char) : Option Nat :=
  if '0' ≤ digit ∧ digit ≤ '9' then some (digit.toNat - '0'.toNat)
  else if 'a' ≤ digit ∧ digit ≤ 'f' then some (digit.toNat - 'a'.toNat + 10)
  else if 'A' ≤ digit ∧ digit ≤ 'F' then some (digit.toNat - 'A'.toNat + 10)
  else none

/-- A number in lower-case hexadecimal digits. -/
def hexadecimal (number : Nat) : String :=
  String.ofList (Nat.toDigits 16 number)

/-- A number in hexadecimal digits, filled up with zeros on the left. -/
def paddedHexadecimal (width number : Nat) : String :=
  let digits := Nat.toDigits 16 number
  String.ofList (List.replicate (width - digits.length) '0' ++ digits)

/-- Bytes as pairs of hexadecimal digits. -/
def hexadecimalBytes (octets : List UInt8) : String :=
  String.join (octets.map fun octet => paddedHexadecimal 2 octet.toNat)

/-- The bytes that pairs of hexadecimal digits stand for. -/
def bytesOfHexadecimal? : List Char → Option (List UInt8)
  | [] => some []
  | [_] => none
  | high :: low :: rest => do
    let upperDigit ← hexValue high
    let lowerDigit ← hexValue low
    let octets ← bytesOfHexadecimal? rest
    some (UInt8.ofNat (16 * upperDigit + lowerDigit) :: octets)

end Switchboard.Text
