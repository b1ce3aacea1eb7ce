/-
**Socket addresses.**

An address is `a.b.c.d:port`, `[groups]:port` or `[groups%scope]:port`. The groups of the long form
may leave out one run of zeros as `::` and may end in the short form. It is written with its longest
run of zeros left out, and with the short form behind `::ffff:`.
-/

import Switchboard.Text.Hex

namespace Switchboard.Net

/-- An internet address. -/
inductive Host where
  /-- four numbers below 256 -/
  | short (octets : List Nat)
  /-- eight numbers below 65536 and the number of a scope, zero for none -/
  | long (groups : List Nat) (scope : Nat)
deriving DecidableEq, Repr

/-- An address with a port. -/
structure Address where
  host : Host
  port : Nat
deriving DecidableEq, Repr

/-- A digit of a base. -/
def isDigitOf (base : Nat) (character : Char) : Bool :=
  (Text.hexValue character).any (· < base)

/-- The number that digits spell. -/
def numberOf (base : Nat) (digits : List Char) : Nat :=
  digits.foldl (fun number digit => base * number + (Text.hexValue digit).getD 0) 0

/-- All digits at the head, and what follows. -/
def spanDigits (base : Nat) (text : List Char) : List Char × List Char :=
  (text.takeWhile (isDigitOf base), text.dropWhile (isDigitOf base))

/-- A number of any length up to a bound. -/
def readNumber (greatest : Nat) (text : List Char) : Option (Nat × List Char) :=
  let (digits, rest) := spanDigits 10 text
  if digits.isEmpty || decide (numberOf 10 digits > greatest) then none
  else some (numberOf 10 digits, rest)

/-- One of four numbers, without zeros in front. -/
def readOctet (text : List Char) : Option (Nat × List Char) :=
  let (digits, rest) := spanDigits 10 text
  if digits.isEmpty || decide (digits.length > 3) || decide (numberOf 10 digits > 255)
      || (digits.head? == some '0' && decide (digits.length > 1)) then none
  else some (numberOf 10 digits, rest)

/-- A certain character. -/
def readCharacter (wanted : Char) : List Char → Option (List Char)
  | [] => none
  | character :: rest => if character = wanted then some rest else none

/-- Four numbers with points between them. -/
def readShort (text : List Char) : Option (List Nat × List Char) := do
  let (first, text) ← readOctet text
  let (second, text) ← readOctet (← readCharacter '.' text)
  let (third, text) ← readOctet (← readCharacter '.' text)
  let (fourth, text) ← readOctet (← readCharacter '.' text)
  some ([first, second, third, fourth], text)

/-- One of eight groups. -/
def readGroup (text : List Char) : Option (Nat × List Char) :=
  let (digits, rest) := spanDigits 16 text
  if digits.isEmpty || decide (digits.length > 4) then none
  else some (numberOf 16 digits, rest)

/-- The colon in front of every group but the first. -/
def readSeparator (first : Bool) (text : List Char) : Option (List Char) :=
  if first then some text else readCharacter ':' text

/-- The two groups that four numbers stand for. -/
def groupsOfShort : List Nat → List Nat
  | [first, second, third, fourth] => [256 * first + second, 256 * third + fourth]
  | _ => []

/-- Up to a number of groups with colons between them; the last two may have the short form, which
the flag tells. -/
def readGroups (first : Bool) : Nat → List Char → List Nat × Bool × List Char
  | 0, text => ([], false, text)
  | limit + 1, text =>
    let embedded :=
      if limit = 0 then none else (readSeparator first text).bind readShort
    match embedded with
    | some (octets, rest) => (groupsOfShort octets, true, rest)
    | none =>
      match (readSeparator first text).bind readGroup with
      | none => ([], false, text)
      | some (group, rest) =>
        let (groups, short, rest) := readGroups false limit rest
        (group :: groups, short, rest)

/-- Eight groups, with one run of zeros left out perhaps. -/
def readLong (text : List Char) : Option (List Nat × List Char) :=
  let (head, short, rest) := readGroups true 8 text
  if head.length = 8 then some (head, rest)
  else if short then none
  else do
    let rest ← readCharacter ':' rest
    let rest ← readCharacter ':' rest
    let (tail, _, rest) := readGroups true (7 - head.length) rest
    some (head ++ List.replicate (8 - head.length - tail.length) 0 ++ tail, rest)

/-- The number of a scope behind a percent sign, zero if there is none. -/
def readScope (text : List Char) : Nat × List Char :=
  match (readCharacter '%' text).bind (readNumber 4294967295) with
  | some (scope, rest) => (scope, rest)
  | none => (0, text)

/-- A port behind its colon. -/
def readPort (text : List Char) : Option (Nat × List Char) :=
  (readCharacter ':' text).bind (readNumber 65535)

/-- An address in the short form. -/
def readShortAddress (text : List Char) : Option (Address × List Char) := do
  let (octets, rest) ← readShort text
  let (port, rest) ← readPort rest
  some (⟨.short octets, port⟩, rest)

/-- An address in the long form. -/
def readLongAddress (text : List Char) : Option (Address × List Char) := do
  let rest ← readCharacter '[' text
  let (groups, rest) ← readLong rest
  let (scope, rest) := readScope rest
  let rest ← readCharacter ']' rest
  let (port, rest) ← readPort rest
  some (⟨.long groups scope, port⟩, rest)

/-- The address that a text spells. -/
def Address.ofString? (text : String) : Option Address :=
  match readShortAddress text.toList with
  | some (address, []) => some address
  | some (_, _ :: _) => none
  | none =>
    match readLongAddress text.toList with
    | some (address, []) => some address
    | _ => none

/-! ### Writing -/

/-- Where the longest run of zeros begins, the first of several, and its length. -/
def longestZeros (groups : List Nat) : Nat × Nat :=
  let starts := List.range groups.length
  let runs := starts.map fun start => (start, ((groups.drop start).takeWhile (· == 0)).length)
  runs.foldl (fun best run => if run.2 > best.2 then run else best) (0, 0)

/-- Four numbers with points between them. -/
def shortText (octets : List Nat) : String :=
  String.intercalate "." (octets.map toString)

/-- Groups with colons between them. -/
def groupsText (groups : List Nat) : String :=
  String.intercalate ":" (groups.map Text.hexadecimal)

/-- Eight groups, the longest run of zeros left out. -/
def longText (groups : List Nat) : String :=
  match groups with
  | [0, 0, 0, 0, 0, 0xFFFF, high, low] =>
    "::ffff:" ++ shortText [high / 256, high % 256, low / 256, low % 256]
  | _ =>
    let (start, length) := longestZeros groups
    if length > 1 then
      groupsText (groups.take start) ++ "::" ++ groupsText (groups.drop (start + length))
    else groupsText groups

/-- The text of an address. -/
def Address.toText (address : Address) : String :=
  let host := match address.host with
    | .short octets => shortText octets
    | .long groups scope =>
      "[" ++ longText groups ++ (if scope = 0 then "" else "%" ++ toString scope) ++ "]"
  host ++ ":" ++ toString address.port

end Switchboard.Net
