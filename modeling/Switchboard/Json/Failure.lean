/-
**Why a JSON text is refused.**

A failure has a cause and the number of bytes that were left unread behind it; with the whole text
at hand that number gives the line and the column named in the message.
-/

import Switchboard.Text.Quoted
import Switchboard.Json.Basic

namespace Switchboard.Json

/-- What was being read when the text ended. -/
inductive Unfinished where
  | value
  | list
  | object
  | string
deriving DecidableEq, Repr

/-- The kind of a value that stands where another kind is wanted. -/
inductive Found where
  | null
  | bool (value : Bool)
  | integer (value : Int)
  | double (value : Decimal.Binary64)
  | string (value : String)
  | sequence
  | map
deriving DecidableEq, Repr

/-- Why a text is refused. -/
inductive Fault where
  | ended (inside : Unfinished)
  | expectedValue
  | expectedIdent
  | invalidNumber
  | numberOutOfRange
  | trailingCharacters
  | trailingComma
  | expectedListEnd
  | expectedObjectEnd
  | expectedColon
  | keyMustBeString
  | controlCharacter
  | invalidEscape
  | unexpectedEndOfHexEscape
  | loneSurrogate
  | invalidCodePoint
  | recursionLimit
  | missingField (name : String)
  | duplicateField (name : String)
  | unknownVariant (name : String) (known : List String)
  | wrongType (found : Found) (wanted : String)
  | wrongLength (length : Nat) (wanted : String)
deriving DecidableEq, Repr

/-- A fault and the number of bytes left unread behind it. -/
structure Failure where
  fault : Fault
  left : Nat
deriving DecidableEq, Repr

/-- What a reader finds, and the bytes behind it. -/
abbrev Reading (α : Type) := Except Failure (α × List UInt8)

/-- A name between backticks. -/
def ticked (name : String) : String :=
  "\x60" ++ name ++ "\x60"

/-- What was unfinished when the text ended. -/
def Unfinished.name : Unfinished → String
  | .value => "a value"
  | .list => "a list"
  | .object => "an object"
  | .string => "a string"

/-- The description of a value that was found. -/
def Found.describe : Found → String
  | .null => "null"
  | .bool value => "boolean " ++ ticked (if value then "true" else "false")
  | .integer value => "integer " ++ ticked (toString value)
  | .double value => "floating point " ++ ticked value.toText
  | .string value => "string " ++ Text.quoted value
  | .sequence => "sequence"
  | .map => "map"

/-- The text of a fault. -/
def Fault.message : Fault → String
  | .ended inside => "EOF while parsing " ++ inside.name
  | .expectedValue => "expected value"
  | .expectedIdent => "expected ident"
  | .invalidNumber => "invalid number"
  | .numberOutOfRange => "number out of range"
  | .trailingCharacters => "trailing characters"
  | .trailingComma => "trailing comma"
  | .expectedListEnd => "expected " ++ ticked "," ++ " or " ++ ticked "]"
  | .expectedObjectEnd => "expected " ++ ticked "," ++ " or " ++ ticked "\x7d"
  | .expectedColon => "expected " ++ ticked ":"
  | .keyMustBeString => "key must be a string"
  | .controlCharacter => "control character (\\u0000-\\u001F) found while parsing a string"
  | .invalidEscape => "invalid escape"
  | .unexpectedEndOfHexEscape => "unexpected end of hex escape"
  | .loneSurrogate => "lone leading surrogate in hex escape"
  | .invalidCodePoint => "invalid unicode code point"
  | .recursionLimit => "recursion limit exceeded"
  | .missingField name => "missing field " ++ ticked name
  | .duplicateField name => "duplicate field " ++ ticked name
  | .unknownVariant name known =>
    "unknown variant " ++ ticked name ++ ", expected one of "
      ++ String.intercalate ", " (known.map ticked)
  | .wrongType found wanted => "invalid type: " ++ found.describe ++ ", expected " ++ wanted
  | .wrongLength length wanted => "invalid length " ++ toString length ++ ", expected " ++ wanted

/-- The line and the column behind some bytes: lines count from one, columns from the last line
feed. -/
def lineAndColumn (consumed : List UInt8) : Nat × Nat :=
  consumed.foldl
    (fun ((line, column) : Nat × Nat) (octet : UInt8) =>
      if octet == 10 then (line + 1, 0) else (line, column + 1)) (1, 0)

/-- The text of a failure in a given text. -/
def Failure.message (failure : Failure) (text : List UInt8) : String :=
  let (line, column) := lineAndColumn (text.take (text.length - failure.left))
  failure.fault.message ++ " at line " ++ toString line ++ " column " ++ toString column

/-- A fault found at the next byte, which counts as read. -/
def failAtNext (fault : Fault) (rest : List UInt8) : Except Failure α :=
  .error ⟨fault, rest.length - 1⟩

/-- A fault found behind the bytes read so far. -/
def failHere (fault : Fault) (rest : List UInt8) : Except Failure α :=
  .error ⟨fault, rest.length⟩

/-- The text ended too early. -/
def failEnded (inside : Unfinished) : Except Failure α :=
  .error ⟨.ended inside, 0⟩

end Switchboard.Json
