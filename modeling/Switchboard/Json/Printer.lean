/-
**The compact text of a JSON value.**

No blanks are written. Inside a text the quote, the backslash and the characters below U+0020 are
escaped, five of the latter by letter and the others by number; every other character stands for
itself.
-/

import Switchboard.Text.Hex
import Switchboard.Json.Basic

namespace Switchboard.Json

/-- How a character is written inside a text. -/
def escaped (character : Char) : String :=
  if character = '"' then "\\\""
  else if character = '\\' then "\\\\"
  else if character = '\n' then "\\n"
  else if character = '\r' then "\\r"
  else if character = '\t' then "\\t"
  else if character.toNat = 8 then "\\b"
  else if character.toNat = 12 then "\\f"
  else if character.toNat < 0x20 then "\\u" ++ Text.paddedHexadecimal 4 character.toNat
  else String.singleton character

/-- A text with its quotes. -/
def stringText (text : String) : String :=
  "\"" ++ String.join (text.toList.map escaped) ++ "\""

mutual

/-- The compact text of a value. -/
def toText : Json → String
  | .null => "null"
  | .bool value => if value then "true" else "false"
  | .integer value => toString value
  | .double value => value.toText
  | .string value => stringText value
  | .array [] => "[]"
  | .array (item :: rest) => "[" ++ toText item ++ itemsText rest ++ "]"
  | .object [] => "\x7b\x7d"
  | .object ((key, value) :: rest) =>
    "\x7b" ++ stringText key ++ ":" ++ toText value ++ membersText rest ++ "\x7d"

/-- The further items of a list. -/
def itemsText : List Json → String
  | [] => ""
  | item :: rest => "," ++ toText item ++ itemsText rest

/-- The further members of an object. -/
def membersText : List (String × Json) → String
  | [] => ""
  | (key, value) :: rest => "," ++ stringText key ++ ":" ++ toText value ++ membersText rest

end

/-- The compact text of an object whose members stand in a given order. -/
def orderedText (members : List (String × Json)) : String :=
  toText (.object members)

end Switchboard.Json
