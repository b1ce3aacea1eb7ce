/-
**The words of a JSON text.**

Blanks, literal names, numbers and quoted texts are read from the bytes of a text. Each reader
gives what it found together with the bytes behind it, or a failure.

* A number with at most 64 bits and neither point nor exponent is an integer, every other number is
  a double: its first digits up to 64 bits and its power of ten are collected exactly, then rounded.
* A quoted text is read byte by byte by a small machine, `StringState`.
-/

import Switchboard.Json.Failure
import Switchboard.Text.Hex
import Switchboard.Text.Number
import Switchboard.Text.Utf8

namespace Switchboard.Json

/-- Blanks between words. -/
def isSpace (octet : UInt8) : Bool :=
  octet == 32 || octet == 9 || octet == 13 || octet == 10

/-- The bytes behind the blanks. -/
def skipBlanks (rest : List UInt8) : List UInt8 :=
  rest.dropWhile isSpace

/-- A decimal digit. -/
def isDigit (octet : UInt8) : Bool :=
  Text.within 48 57 octet

/-- The value of a decimal digit. -/
def digitValue (octet : UInt8) : Nat :=
  octet.toNat - 48

/-- The rest of a literal name. -/
def readIdent : List UInt8 → List UInt8 → Except Failure (List UInt8)
  | [], rest => .ok rest
  | _ :: _, [] => failEnded .value
  | expected :: others, octet :: rest =>
    if octet == expected then readIdent others rest else failHere .expectedIdent rest

/-! ### Numbers -/

/-- A number before it becomes a value. -/
inductive Number where
  | integer (value : Int)
  | double (value : Decimal.Binary64)
deriving DecidableEq, Repr

/-- The largest exponent that is told apart. -/
def greatestExponent : Int := 2147483647

/-- A number without point and exponent. Below `-2 ^ 63` it becomes a double, and so does `-0`. -/
def integerNumber (negative : Bool) (significand : Nat) : Option Number :=
  if negative then
    if significand = 0 ∨ significand > 9223372036854775808 then
      (Decimal.Binary64.ofRatio? true significand 1).map .double
    else some (.integer (-significand))
  else some (.integer significand)

/-- The double of a sign, its leading digits and a power of ten. -/
def readDouble (negative : Bool) (significand : Nat) (power : Int) (rest : List UInt8) :
    Reading Number :=
  match Decimal.Binary64.ofDecimal? negative significand power with
  | some number => .ok (.double number, rest)
  | none => failHere .numberOutOfRange rest

/-- An exponent, of which some digits are read. -/
def readExponentDigits (negative : Bool) (significand : Nat) (start : Int) (negativePower : Bool)
    (exponent : Nat) : List UInt8 → Reading Number
  | octet :: rest =>
    if isDigit octet then
      let next := 10 * exponent + digitValue octet
      if next > greatestExponent.toNat then
        if significand ≠ 0 ∧ ¬ negativePower then failHere .numberOutOfRange rest
        else .ok (.double (Decimal.Binary64.zero negative), rest.dropWhile isDigit)
      else readExponentDigits negative significand start negativePower next rest
    else
      readDouble negative significand
        (if negativePower then max (start - exponent) (-greatestExponent - 1)
          else min (start + exponent) greatestExponent) (octet :: rest)
  | [] =>
    readDouble negative significand
      (if negativePower then max (start - exponent) (-greatestExponent - 1)
        else min (start + exponent) greatestExponent) []

/-- The sign of an exponent and the bytes behind it. -/
def exponentSign : List UInt8 → Bool × List UInt8
  | 43 :: rest => (false, rest)
  | 45 :: rest => (true, rest)
  | rest => (false, rest)

/-- The exponent of a number, behind its letter. -/
def readExponent (negative : Bool) (significand : Nat) (start : Int) (rest : List UInt8) :
    Reading Number :=
  let (negativePower, rest) := exponentSign rest
  match rest with
  | [] => failEnded .value
  | octet :: rest =>
    if isDigit octet then
      readExponentDigits negative significand start negativePower (digitValue octet) rest
    else failHere .invalidNumber rest

/-- The end of a double: an exponent or nothing. -/
def readPower (negative : Bool) (significand : Nat) (power : Int) (rest : List UInt8) :
    Reading Number :=
  match rest with
  | 101 :: behind => readExponent negative significand power behind
  | 69 :: behind => readExponent negative significand power behind
  | _ => readDouble negative significand power rest

/-- The digits behind a point; those that no longer fit 64 bits are dropped. -/
def readFraction (negative : Bool) (significand : Nat) (before : Int) (count : Nat) :
    List UInt8 → Reading Number
  | [] =>
    if count = 0 then failEnded .value else readPower negative significand (before - count) []
  | octet :: rest =>
    if isDigit octet then
      let next := 10 * significand + digitValue octet
      if next > Text.greatestWord then
        readPower negative significand (before - count) ((octet :: rest).dropWhile isDigit)
      else readFraction negative next before (count + 1) rest
    else if count = 0 then failAtNext .invalidNumber (octet :: rest)
    else readPower negative significand (before - count) (octet :: rest)

/-- The digits in front of the point that no longer fit 64 bits are counted. -/
def readLongInteger (negative : Bool) (significand dropped : Nat) : List UInt8 → Reading Number
  | [] => readDouble negative significand dropped []
  | octet :: rest =>
    if isDigit octet then readLongInteger negative significand (dropped + 1) rest
    else if octet == 46 then readFraction negative significand dropped 0 rest
    else readPower negative significand dropped (octet :: rest)

/-- What follows the digits in front of the point. -/
def readAfterInteger (negative : Bool) (significand : Nat) (rest : List UInt8) : Reading Number :=
  match rest with
  | 46 :: behind => readFraction negative significand 0 0 behind
  | 101 :: behind => readExponent negative significand 0 behind
  | 69 :: behind => readExponent negative significand 0 behind
  | _ =>
    match integerNumber negative significand with
    | some number => .ok (number, rest)
    | none => failHere .numberOutOfRange rest

/-- The digits in front of the point. -/
def readIntegerDigits (negative : Bool) (significand : Nat) : List UInt8 → Reading Number
  | [] => readAfterInteger negative significand []
  | octet :: rest =>
    if isDigit octet then
      let next := 10 * significand + digitValue octet
      if next > Text.greatestWord then readLongInteger negative significand 0 (octet :: rest)
      else readIntegerDigits negative next rest
    else readAfterInteger negative significand (octet :: rest)

/-- A number behind its sign: no digit follows a leading zero. -/
def readUnsigned (negative : Bool) (rest : List UInt8) : Reading Number :=
  match rest with
  | [] => failEnded .value
  | octet :: behind =>
    if octet == 48 then
      match behind with
      | next :: _ =>
        if isDigit next then failAtNext .invalidNumber behind
        else readAfterInteger negative 0 behind
      | [] => readAfterInteger negative 0 []
    else if isDigit octet then readIntegerDigits negative (digitValue octet) behind
    else failHere .invalidNumber behind

/-- A number that begins with the next byte. -/
def readNumber (rest : List UInt8) : Reading Number :=
  match rest with
  | 45 :: behind => readUnsigned true behind
  | _ => readUnsigned false rest

/-! ### Quoted texts -/

/-- Where a reader stands inside a quoted text. -/
inductive StringState where
  /-- between characters -/
  | plain
  /-- behind a backslash -/
  | escape
  /-- inside a number of four digits, behind a high surrogate if there is one -/
  | hex (high : Option Nat) (digits : List UInt8)
  /-- behind a high surrogate -/
  | leading (unit : Nat)
  /-- behind a high surrogate and a backslash -/
  | leadingEscape (unit : Nat)
deriving DecidableEq, Repr

/-- What a byte does inside a quoted text. -/
inductive StringStep where
  | close
  | next (state : StringState) (emitted : List UInt8)
  | fault (fault : Fault)

/-- The byte that an escape letter stands for. -/
def escapeLetter (letter : UInt8) : Option UInt8 :=
  if letter == 34 || letter == 92 || letter == 47 then some letter
  else if letter == 98 then some 8
  else if letter == 102 then some 12
  else if letter == 110 then some 10
  else if letter == 114 then some 13
  else if letter == 116 then some 9
  else none

/-- The number that hexadecimal digits spell. -/
def hexUnit? (digits : List UInt8) : Option Nat :=
  digits.foldlM (fun value digit =>
    (Text.hexValue (Char.ofNat digit.toNat)).map (16 * value + ·)) 0

/-- The bytes of the character with a code point. -/
def scalarBytes (code : Nat) : List UInt8 :=
  Text.bytes (String.singleton (Char.ofNat code))

/-- What the number of a complete escape means. -/
def StringStep.ofUnit (high : Option Nat) (unit : Nat) : StringStep :=
  match high with
  | none =>
    if 0xDC00 ≤ unit ∧ unit ≤ 0xDFFF then .fault .loneSurrogate
    else if 0xD800 ≤ unit ∧ unit ≤ 0xDBFF then .next (.leading unit) []
    else .next .plain (scalarBytes unit)
  | some leading =>
    if unit < 0xDC00 ∨ 0xDFFF < unit then .fault .loneSurrogate
    else .next .plain (scalarBytes (0x10000 + (leading - 0xD800) * 0x400 + (unit - 0xDC00)))

/-- What the next byte does. -/
def StringState.step (state : StringState) (octet : UInt8) : StringStep :=
  match state with
  | .plain =>
    if octet == 34 then .close
    else if octet == 92 then .next .escape []
    else if octet < 32 then .fault .controlCharacter
    else .next .plain [octet]
  | .escape =>
    if octet == 117 then .next (.hex none []) []
    else match escapeLetter octet with
      | some letter => .next .plain [letter]
      | none => .fault .invalidEscape
  | .hex high digits =>
    let collected := digits ++ [octet]
    if collected.length < 4 then .next (.hex high collected) []
    else match hexUnit? collected with
      | none => .fault .invalidEscape
      | some unit => StringStep.ofUnit high unit
  | .leading unit =>
    if octet == 92 then .next (.leadingEscape unit) [] else .fault .unexpectedEndOfHexEscape
  | .leadingEscape unit =>
    if octet == 117 then .next (.hex (some unit) []) [] else .fault .unexpectedEndOfHexEscape

/-- The bytes of a quoted text up to its closing quote; `reversed` holds those already read. -/
def readStringBytes (state : StringState) (reversed : List UInt8) :
    List UInt8 → Reading (List UInt8)
  | [] => failEnded .string
  | octet :: rest =>
    match state.step octet with
    | .close => .ok (reversed.reverse, rest)
    | .fault fault => failHere fault rest
    | .next state emitted => readStringBytes state (emitted.reverse ++ reversed) rest

/-- A quoted text behind its opening quote. The place of the first broken piece is counted back from
the closing quote over the bytes that the text spells, an escape for as many as it stands for. -/
def readString (rest : List UInt8) : Except Failure (String × List UInt8) := do
  let (octets, behind) ← readStringBytes .plain [] rest
  match Text.decode? octets with
  | some text => .ok (text, behind)
  | none =>
    let broken := octets.length - (Text.validLength? octets).getD octets.length
    .error ⟨.invalidCodePoint, behind.length + broken⟩

/-! ### Words that are passed over -/

/-- Pass over a quoted text behind its opening quote; surrogates and bytes are not checked. -/
def skipString (state : StringState) : List UInt8 → Except Failure (List UInt8)
  | [] => failEnded .string
  | octet :: rest =>
    match state with
    | .plain =>
      if octet == 34 then .ok rest
      else if octet == 92 then skipString .escape rest
      else if octet < 32 then failHere .controlCharacter (octet :: rest)
      else skipString .plain rest
    | .escape =>
      if octet == 117 then skipString (.hex none []) rest
      else if (escapeLetter octet).isSome then skipString .plain rest
      else failHere .invalidEscape rest
    | .hex _ digits =>
      let collected := digits ++ [octet]
      if collected.length < 4 then skipString (.hex none collected) rest
      else if (hexUnit? collected).isSome then skipString .plain rest
      else failHere .invalidEscape rest
    | _ => skipString .plain rest

/-- Pass over the exponent of a number, behind its letter. -/
def skipExponent (rest : List UInt8) : Except Failure (List UInt8) :=
  match (exponentSign rest).2 with
  | [] => failHere .invalidNumber []
  | octet :: behind =>
    if isDigit octet then .ok (behind.dropWhile isDigit) else failHere .invalidNumber behind

/-- Pass over what follows the integer part of a number. -/
def skipAfterInteger (rest : List UInt8) : Except Failure (List UInt8) :=
  match rest with
  | 46 :: behind =>
    if (behind.takeWhile isDigit).isEmpty then failAtNext .invalidNumber behind
    else match behind.dropWhile isDigit with
      | 101 :: power => skipExponent power
      | 69 :: power => skipExponent power
      | others => .ok others
  | 101 :: behind => skipExponent behind
  | 69 :: behind => skipExponent behind
  | _ => .ok rest

/-- Pass over a number behind its sign; its size does not matter. -/
def skipUnsigned (rest : List UInt8) : Except Failure (List UInt8) :=
  match rest with
  | [] => failHere .invalidNumber []
  | octet :: behind =>
    if octet == 48 then
      match behind with
      | next :: _ =>
        if isDigit next then failAtNext .invalidNumber behind else skipAfterInteger behind
      | [] => .ok []
    else if isDigit octet then skipAfterInteger (behind.dropWhile isDigit)
    else failHere .invalidNumber behind

end Switchboard.Json
