/-
**Request identifiers.**

A request that comes without an identifier is given a random one in the common form of 32
hexadecimal digits in five groups. Six of the 128 bits are fixed: they tell the version and the
variant of the form.
-/

import Switchboard.Text.Hex

namespace Switchboard.Identifier

/-- The bits of a number from a position on, as many as a width says. -/
def bitsAt (position width number : Nat) : Nat :=
  number / Nat.pow 2 position % Nat.pow 2 width

/-- The identifier that 128 random bits make. -/
def ofRandom (bits : Nat) : String :=
  String.intercalate "-"
    [Text.paddedHexadecimal 8 (bitsAt 96 32 bits),
      Text.paddedHexadecimal 4 (bitsAt 80 16 bits),
      Text.paddedHexadecimal 4 (0x4000 + bitsAt 64 12 bits),
      Text.paddedHexadecimal 4 (0x8000 + bitsAt 48 14 bits),
      Text.paddedHexadecimal 12 (bitsAt 0 48 bits)]

end Switchboard.Identifier
