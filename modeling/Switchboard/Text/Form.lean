/-
**Query pairs.**

A query is cut at `&` into pieces, empty ones being skipped, and each piece at its first `=` into a
name and a value. In both a plus sign stands for a space and `%` with two hexadecimal digits for a
byte; a percent sign without them stands for itself. Bytes that spell no text are shown as U+FFFD.
-/

import Switchboard.Text.Hex
import Switchboard.Text.Split
import Switchboard.Text.Utf8

namespace Switchboard.Text

/-- The value of a byte as a hexadecimal digit. -/
def hexByte (octet : UInt8) : Option Nat :=
  hexValue (Char.ofNat octet.toNat)

/-- Bytes with their percent escapes undone. -/
def percentDecode : List UInt8 → List UInt8
  | 37 :: high :: low :: rest =>
    match hexByte high, hexByte low with
    | some upperDigit, some lowerDigit =>
      UInt8.ofNat (16 * upperDigit + lowerDigit) :: percentDecode rest
    | _, _ => 37 :: percentDecode (high :: low :: rest)
  | octet :: rest => octet :: percentDecode rest
  | [] => []

/-- The text of a name or a value. -/
def formText (octets : List UInt8) : String :=
  decodeLossy (percentDecode (octets.map fun octet => if octet == 43 then 32 else octet))

/-- The pair of a piece. -/
def formPair (piece : List UInt8) : String × String :=
  let (name, value) := splitFirst 61 piece
  (formText name, formText (value.getD []))

/-- The pairs of a query, in order. -/
def formPairs (query : String) : List (String × String) :=
  ((split 38 (bytes query)).filter fun piece => !piece.isEmpty).map formPair

end Switchboard.Text
