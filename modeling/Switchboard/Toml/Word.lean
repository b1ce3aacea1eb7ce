/-
**Words of a TOML document.**

Blanks and comments, keys, quoted texts, numbers, dates and times. Each reader gives what it found
together with the characters behind it, or `none` if the document is malformed.
-/

import Switchboard.Decimal.Binary64
import Switchboard.Text.Hex
import Switchboard.Toml.Item

namespace Switchboard.Toml

/-- A blank inside a line. -/
def isBlank (character : Char) : Bool :=
  character == ' ' || character == '\t'

/-- The characters behind the blanks. -/
def skipBlanks (text : List Char) : List Char :=
  text.dropWhile isBlank

/-- A character that may stand in a comment. -/
def isVisible (character : Char) : Bool :=
  character == '\t' || (decide (0x20 ≤ character.toNat) && character.toNat != 0x7F)

/-- The characters behind a comment, if one begins here. -/
def skipComment : List Char → List Char
  | '#' :: rest => rest.dropWhile isVisible
  | text => text

/-- The characters behind the end of a line. -/
def lineEnd : List Char → Option (List Char)
  | '\n' :: rest => some rest
  | '\r' :: '\n' :: rest => some rest
  | _ => none

/-- Nothing but blanks and a comment may follow in a line. -/
def restOfLine (text : List Char) : Option (List Char) :=
  match skipComment (skipBlanks text) with
  | [] => some []
  | others => lineEnd others

/-- The characters behind blanks, comments and ends of lines. -/
def skipLines : Nat → List Char → List Char
  | 0, text => text
  | budget + 1, text =>
    match lineEnd (skipComment (skipBlanks text)) with
    | some rest => skipLines budget rest
    | none => skipComment (skipBlanks text)

/-! ### Quoted texts -/

/-- The character of a code point that is a scalar value. -/
def scalarOf (code : Nat) : Option Char :=
  if code < 0xD800 ∨ (0xDFFF < code ∧ code < 0x110000) then some (Char.ofNat code) else none

/-- The number that hexadecimal digits spell. -/
def hexNumber? (digits : List Char) : Option Nat :=
  digits.foldlM (fun number digit => (Text.hexValue digit).map (16 * number + ·)) 0

/-- The character that an escape letter stands for. -/
def escapeLetter : Char → Option Char
  | 'b' => some (Char.ofNat 8)
  | 't' => some '\t'
  | 'n' => some '\n'
  | 'f' => some (Char.ofNat 12)
  | 'r' => some '\r'
  | '"' => some '"'
  | '\\' => some '\\'
  | _ => none

/-- An escape behind its backslash. -/
def readEscape : List Char → Option (Char × List Char)
  | 'u' :: a :: b :: c :: d :: rest => do
    let code ← hexNumber? [a, b, c, d]
    let character ← scalarOf code
    some (character, rest)
  | 'U' :: a :: b :: c :: d :: e :: f :: g :: h :: rest => do
    let code ← hexNumber? [a, b, c, d, e, f, g, h]
    let character ← scalarOf code
    some (character, rest)
  | letter :: rest => (escapeLetter letter).map (·, rest)
  | [] => none

/-- A text up to its closing double quote. -/
def readBasic : Nat → List Char → Option (List Char × List Char)
  | 0, _ => none
  | budget + 1, text =>
    match text with
    | [] => none
    | '"' :: rest => some ([], rest)
    | '\\' :: rest => do
      let (character, rest) ← readEscape rest
      let (characters, rest) ← readBasic budget rest
      some (character :: characters, rest)
    | character :: rest =>
      if isVisible character then do
        let (characters, rest) ← readBasic budget rest
        some (character :: characters, rest)
      else none

/-- A text up to its closing single quote. -/
def readLiteral (text : List Char) : Option (List Char × List Char) :=
  let characters := text.takeWhile fun character => isVisible character && character != '\''
  match text.drop characters.length with
  | '\'' :: rest => some (characters, rest)
  | _ => none

/-- The closing quotes of a text over several lines, up to two of which belong to the text. -/
def closingQuotes (quote : Char) (text : List Char) : Option (List Char × List Char) :=
  let quotes := text.takeWhile (· == quote)
  if 3 ≤ quotes.length ∧ quotes.length ≤ 5 then
    some (List.replicate (quotes.length - 3) quote, text.drop quotes.length)
  else none

/-- The characters behind blanks and ends of lines. -/
def skipBlankLines : List Char → List Char
  | '\r' :: '\n' :: rest => skipBlankLines rest
  | character :: rest =>
    if isBlank character || character == '\n' then skipBlankLines rest else character :: rest
  | [] => []

/-- A text over several lines with escapes, up to its three closing quotes. -/
def readBasicLines : Nat → List Char → Option (List Char × List Char)
  | 0, _ => none
  | budget + 1, text =>
    match text with
    | [] => none
    | '"' :: rest =>
      if (text.take 3).all (· == '"') && decide (3 ≤ text.length) then closingQuotes '"' text
      else do
        let (characters, rest) ← readBasicLines budget rest
        some ('"' :: characters, rest)
    | '\\' :: rest =>
      match lineEnd (skipBlanks rest) with
      | some behind =>
        readBasicLines budget (skipBlankLines behind)
      | none => do
        let (character, rest) ← readEscape rest
        let (characters, rest) ← readBasicLines budget rest
        some (character :: characters, rest)
    | character :: rest =>
      match lineEnd text with
      | some behind => do
        let (characters, behind) ← readBasicLines budget behind
        some ('\n' :: characters, behind)
      | none =>
        if isVisible character then do
          let (characters, rest) ← readBasicLines budget rest
          some (character :: characters, rest)
        else none

/-- A text over several lines without escapes, up to its three closing quotes. -/
def readLiteralLines : Nat → List Char → Option (List Char × List Char)
  | 0, _ => none
  | budget + 1, text =>
    match text with
    | [] => none
    | '\'' :: rest =>
      if (text.take 3).all (· == '\'') && decide (3 ≤ text.length) then closingQuotes '\'' text
      else do
        let (characters, rest) ← readLiteralLines budget rest
        some ('\'' :: characters, rest)
    | character :: rest =>
      match lineEnd text with
      | some behind => do
        let (characters, behind) ← readLiteralLines budget behind
        some ('\n' :: characters, behind)
      | none =>
        if isVisible character then do
          let (characters, rest) ← readLiteralLines budget rest
          some (character :: characters, rest)
        else none

/-- The characters behind the end of a line that follows opening quotes at once. -/
def dropFirstLineEnd (text : List Char) : List Char :=
  (lineEnd text).getD text

/-- A quoted text of any of the four kinds. -/
def readQuoted (budget : Nat) (text : List Char) : Option (String × List Char) :=
  let found := match text with
    | '"' :: '"' :: '"' :: rest => readBasicLines budget (dropFirstLineEnd rest)
    | '"' :: rest => readBasic budget rest
    | '\'' :: '\'' :: '\'' :: rest => readLiteralLines budget (dropFirstLineEnd rest)
    | '\'' :: rest => readLiteral rest
    | _ => none
  found.map fun (characters, rest) => (String.ofList characters, rest)

/-! ### Keys -/

/-- A character of a key without quotes. -/
def isBare (character : Char) : Bool :=
  character.isAlphanum || character == '_' || character == '-'

/-- One key. -/
def readKey (budget : Nat) (text : List Char) : Option (String × List Char) :=
  match text with
  | '"' :: rest =>
    (readBasic budget rest).map fun (characters, rest) => (String.ofList characters, rest)
  | '\'' :: rest =>
    (readLiteral rest).map fun (characters, rest) => (String.ofList characters, rest)
  | _ =>
    let characters := text.takeWhile isBare
    if characters.isEmpty then none
    else some (String.ofList characters, text.drop characters.length)

/-- Keys with points between them, blanks around each. -/
def readKeys : Nat → List Char → Option (List String × List Char)
  | 0, _ => none
  | budget + 1, text => do
    let (key, rest) ← readKey (budget + 1) (skipBlanks text)
    match skipBlanks rest with
    | '.' :: behind =>
      let (keys, behind) ← readKeys budget behind
      some (key :: keys, behind)
    | behind => some ([key], behind)

/-- The number of keys or of nested values that is refused. -/
def depthLimit : Nat := 80

/-- A dotted key, as the path to its last key and that key. -/
def readDottedKey (budget : Nat) (text : List Char) :
    Option (List String × String × List Char) := do
  let (keys, rest) ← readKeys budget text
  let last ← keys.getLast?
  if keys.length < depthLimit then some (keys.dropLast, last, rest) else none

/-! ### Numbers -/

/-- A digit of a base. -/
def isDigitOf (base : Nat) (character : Char) : Bool :=
  (Text.hexValue character).any (· < base)

/-- Further digits of a base, an underscore perhaps in front of each. -/
def readMoreDigits (base : Nat) : List Char → Option (List Char × List Char)
  | '_' :: digit :: rest =>
    if isDigitOf base digit then
      (readMoreDigits base rest).map fun (digits, left) => (digit :: digits, left)
    else none
  | digit :: rest =>
    if isDigitOf base digit then
      (readMoreDigits base rest).map fun (digits, left) => (digit :: digits, left)
    else some ([], digit :: rest)
  | [] => some ([], [])

/-- Digits of a base, an underscore perhaps between two of them; `none` without a digit. -/
def readDigits (base : Nat) : List Char → Option (List Char × List Char)
  | [] => none
  | digit :: rest =>
    if isDigitOf base digit then
      (readMoreDigits base rest).map fun (digits, left) => (digit :: digits, left)
    else none

/-- The number that digits of a base spell. -/
def numberOf (base : Nat) (digits : List Char) : Nat :=
  digits.foldl (fun number digit => base * number + (Text.hexValue digit).getD 0) 0

/-- An integer of 64 bits. -/
def wholeItem (value : Int) : Option Item :=
  if -9223372036854775808 ≤ value ∧ value ≤ 9223372036854775807 then some (.whole value) else none

/-- The sign in front of a number. -/
def readSign : List Char → Bool × List Char
  | '+' :: rest => (false, rest)
  | '-' :: rest => (true, rest)
  | text => (false, text)

/-- The digits behind a point, if there is one. -/
def readFraction (text : List Char) : Option (List Char × Bool × List Char) :=
  match text with
  | '.' :: rest => (readDigits 10 rest).map fun (digits, left) => (digits, true, left)
  | _ => some ([], false, text)

/-- The exponent, if there is one. -/
def readExponent (text : List Char) : Option (Int × Bool × List Char) :=
  let behindLetter (rest : List Char) : Option (Int × Bool × List Char) :=
    let (negative, rest) := readSign rest
    (readDigits 10 rest).map fun (digits, left) =>
      let value : Int := numberOf 10 digits
      (if negative then -value else value, true, left)
  match text with
  | 'e' :: rest => behindLetter rest
  | 'E' :: rest => behindLetter rest
  | _ => some (0, false, text)

/-- The magnitude `digits * 10 ^ power` is beyond the largest double. -/
def isInfinite (digits : Nat) (power : Int) : Bool :=
  if digits = 0 then false
  else
    let places := (Nat.toDigits 10 digits).length + power
    if places > 400 then true
    else if places < 300 then false
    else (Decimal.Binary64.ofRatio? false (digits * Nat.pow 10 power.toNat)
      (Nat.pow 10 (-power).toNat)).isNone

/-- The decimal digits in front of a point: a zero alone, or digits that do not begin with one. -/
def readWholePart (text : List Char) : Option (List Char × List Char) :=
  match text with
  | '0' :: rest => some (['0'], rest)
  | _ => readDigits 10 text

/-- A decimal number with a sign perhaps. -/
def readDecimal (text : List Char) : Option (Item × List Char) := do
  let (negative, unsigned) := readSign text
  match unsigned with
  | 'i' :: 'n' :: 'f' :: rest => some (.fraction, rest)
  | 'n' :: 'a' :: 'n' :: rest => some (.fraction, rest)
  | _ =>
    let (digits, rest) ← readWholePart unsigned
    let (places, pointed, rest) ← readFraction rest
    let (exponent, raised, rest) ← readExponent rest
    if pointed || raised then
      if !negative && isInfinite (numberOf 10 (digits ++ places)) (exponent - places.length) then
        none
      else some (.fraction, rest)
    else
      let value : Int := numberOf 10 digits
      let item ← wholeItem (if negative then -value else value)
      some (item, rest)

/-- An integer of a base other than ten, behind its mark. -/
def readBased (base : Nat) (text : List Char) : Option (Item × List Char) := do
  let (digits, rest) ← readDigits base text
  let item ← wholeItem (numberOf base digits)
  some (item, rest)

/-! ### Dates and times -/

/-- A number of exactly some digits within bounds. -/
def readPart (count least greatest : Nat) (text : List Char) : Option (Nat × List Char) :=
  let digits := text.take count
  let number := numberOf 10 digits
  if digits.length = count ∧ digits.all Char.isDigit ∧ least ≤ number ∧ number ≤ greatest then
    some (number, text.drop count)
  else none

/-- A certain character. -/
def readMark (wanted : Char) : List Char → Option (List Char)
  | [] => none
  | character :: rest => if character = wanted then some rest else none

/-- The number of days of a month. -/
def daysOf (year month : Nat) : Nat :=
  if month = 2 then
    if year % 4 = 0 ∧ (year % 100 ≠ 0 ∨ year % 400 = 0) then 29 else 28
  else if month = 4 ∨ month = 6 ∨ month = 9 ∨ month = 11 then 30
  else 31

/-- The characters behind a date. -/
def skipDate (text : List Char) : Option (List Char) := do
  let (year, rest) ← readPart 4 0 9999 text
  let (month, rest) ← readPart 2 1 12 (← readMark '-' rest)
  let (_, rest) ← readPart 2 1 (daysOf year month) (← readMark '-' rest)
  some rest

/-- The characters behind a fraction of a second, if there is one. -/
def skipSecondFraction (text : List Char) : Option (List Char) :=
  match text with
  | '.' :: rest =>
    if (rest.takeWhile Char.isDigit).isEmpty then none else some (rest.dropWhile Char.isDigit)
  | _ => some text

/-- The characters behind a time of day. -/
def skipTime (text : List Char) : Option (List Char) := do
  let (_, rest) ← readPart 2 0 23 text
  let (_, rest) ← readPart 2 0 59 (← readMark ':' rest)
  let (_, rest) ← readPart 2 0 60 (← readMark ':' rest)
  skipSecondFraction rest

/-- The characters behind the offset of a time, if there is one. -/
def skipOffset (text : List Char) : Option (List Char) :=
  let numeric (rest : List Char) : Option (List Char) := do
    let (_, rest) ← readPart 2 0 23 rest
    let (_, rest) ← readPart 2 0 59 (← readMark ':' rest)
    some rest
  match text with
  | 'Z' :: rest => some rest
  | 'z' :: rest => some rest
  | '+' :: rest => numeric rest
  | '-' :: rest => numeric rest
  | _ => some text

/-- A time of day begins here. -/
def beginsTime (text : List Char) : Bool :=
  (readPart 2 0 23 text).any fun (_, rest) => rest.head? == some ':'

/-- The characters behind a date and the time that may follow it. -/
def skipMoment (text : List Char) : Option (List Char) := do
  let rest ← skipDate text
  match rest with
  | separator :: behind =>
    if (separator == 'T' || separator == 't' || separator == ' ') && beginsTime behind then
      let rest ← skipTime behind
      skipOffset rest
    else some rest
  | [] => some []

/-- A date begins here. -/
def beginsDate (text : List Char) : Bool :=
  (readPart 4 0 9999 text).any fun (_, rest) => rest.head? == some '-'

/-- A number, a date or a time. -/
def readNumeric (text : List Char) : Option (Item × List Char) :=
  if beginsDate text then (skipMoment text).map (.moment, ·)
  else if beginsTime text then (skipTime text).map (.moment, ·)
  else match text with
    | '0' :: 'x' :: rest => readBased 16 rest
    | '0' :: 'o' :: rest => readBased 8 rest
    | '0' :: 'b' :: rest => readBased 2 rest
    | _ => readDecimal text

end Switchboard.Toml
