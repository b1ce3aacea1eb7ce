/-
**Quoted texts.**

A text between double quotes for a reader of a message: quotes and backslashes are escaped, line
feed, carriage return, tab and NUL have letters, and every other character that is not shown is
written as its number in hexadecimal digits between braces.
-/

import Switchboard.Text.Hex
import Switchboard.Text.Unprintable

namespace Switchboard.Text

/-- How a character is written between the quotes. -/
def quotedCharacter (character : Char) : String :=
  if character = '"' then "\\\""
  else if character = '\\' then "\\\\"
  else if character = '\n' then "\\n"
  else if character = '\r' then "\\r"
  else if character = '\t' then "\\t"
  else if character.toNat = 0 then "\\0"
  else if isUnprintable character then
    "\\u\x7b" ++ hexadecimal character.toNat ++ "\x7d"
  else String.singleton character

/-- A text between quotes. -/
def quoted (text : String) : String :=
  "\"" ++ String.join (text.toList.map quotedCharacter) ++ "\""

end Switchboard.Text
