/-
**Reading JSON values.**

A value is read from the bytes of a text by recursion on its structure. Every reader takes a budget
of steps, one more than the bytes that are left being always enough, and the number of lists and
objects that may still be opened, of which there are at most 127 around one another.

* `Json.parse` reads a whole text as one value;
* `skipValue` passes over a value whose meaning does not matter.
-/

import Switchboard.Json.Lexeme

namespace Switchboard.Json

/-- The number of nested lists and objects at which reading stops. -/
def nestingLimit : Nat := 128

/-- Open one more list or object; the next byte is its bracket. -/
def openNested (depth : Nat) (rest : List UInt8) : Except Failure Nat :=
  if depth ≤ 1 then failAtNext .recursionLimit rest else .ok (depth - 1)

/-- The bytes behind the colon of a member. -/
def readColon (rest : List UInt8) : Except Failure (List UInt8) :=
  match skipBlanks rest with
  | [] => failEnded .object
  | 58 :: behind => .ok behind
  | others => failAtNext .expectedColon others

/-- Where the next item of a list begins, or `none` in front of the closing bracket. -/
def nextItem (first : Bool) (rest : List UInt8) : Except Failure (Option (List UInt8)) :=
  match skipBlanks rest with
  | [] => failEnded .list
  | 93 :: _ => .ok none
  | octet :: behind =>
    if first then .ok (some (octet :: behind))
    else if octet == 44 then
      match skipBlanks behind with
      | [] => failEnded .value
      | 93 :: others => failAtNext .trailingComma (93 :: others)
      | others => .ok (some others)
    else failAtNext .expectedListEnd (octet :: behind)

/-- Where the key of the next member begins, behind its quote, or `none` in front of the closing
brace. -/
def nextKey (first : Bool) (rest : List UInt8) : Except Failure (Option (List UInt8)) :=
  match skipBlanks rest with
  | [] => failEnded .object
  | 125 :: _ => .ok none
  | octet :: behind =>
    if first then
      if octet == 34 then .ok (some behind) else failAtNext .keyMustBeString (octet :: behind)
    else if octet == 44 then
      match skipBlanks behind with
      | [] => failEnded .value
      | 34 :: others => .ok (some others)
      | 125 :: others => failAtNext .trailingComma (125 :: others)
      | others => failAtNext .keyMustBeString others
    else failAtNext .expectedObjectEnd (octet :: behind)

/-- Behind the items that were wanted a list must end. -/
def closeList (rest : List UInt8) : Except Failure (List UInt8) :=
  match skipBlanks rest with
  | [] => failEnded .list
  | 93 :: behind => .ok behind
  | 44 :: behind =>
    match skipBlanks behind with
    | 93 :: others => failAtNext .trailingComma (93 :: others)
    | others => failAtNext .trailingCharacters others
  | others => failAtNext .trailingCharacters others

/-- The items of a list up to its closing bracket. -/
def readItems (item : List UInt8 → Reading α) : Nat → Bool → List UInt8 →
    Except Failure (List α × List UInt8)
  | 0, _, rest => failHere .recursionLimit rest
  | budget + 1, first, rest => do
    match ← nextItem first rest with
    | none => return ([], (skipBlanks rest).drop 1)
    | some start =>
      let (value, behind) ← item start
      let (values, behind) ← readItems item budget false behind
      return (value :: values, behind)

/-- The members of an object up to its closing brace, each one changing a state. -/
def readMembers (member : σ → String → List UInt8 → Reading σ) :
    Nat → Bool → σ → List UInt8 → Except Failure (σ × List UInt8)
  | 0, _, _, rest => failHere .recursionLimit rest
  | budget + 1, first, state, rest => do
    match ← nextKey first rest with
    | none => return (state, (skipBlanks rest).drop 1)
    | some start =>
      let (key, behind) ← readString start
      let (state, behind) ← member state key behind
      readMembers member budget false state behind

/-- The value of a number. -/
def ofNumber : Number → Json
  | .integer value => .integer value
  | .double value => .double value

/-- A literal name, whose first letter is the next byte, as a value. -/
def readLiteral (name : List UInt8) (value : Json) (rest : List UInt8) :
    Except Failure (Json × List UInt8) := do
  let behind ← readIdent name rest
  return (value, behind)

/-- The letters behind the first one of `null`. -/
def nullTail : List UInt8 := [117, 108, 108]

/-- The letters behind the first one of `true`. -/
def trueTail : List UInt8 := [114, 117, 101]

/-- The letters behind the first one of `false`. -/
def falseTail : List UInt8 := [97, 108, 115, 101]

/-- A value that begins at the next word. -/
def readValue : Nat → Nat → List UInt8 → Except Failure (Json × List UInt8)
  | 0, _, rest => failHere .recursionLimit rest
  | budget + 1, depth, rest =>
    match skipBlanks rest with
    | [] => failEnded .value
    | octet :: behind =>
      if octet == 110 then readLiteral nullTail .null behind
      else if octet == 116 then readLiteral trueTail (.bool true) behind
      else if octet == 102 then readLiteral falseTail (.bool false) behind
      else if octet == 34 then (readString behind).map fun (text, left) => (.string text, left)
      else if octet == 45 || isDigit octet then
        (readNumber (octet :: behind)).map fun (number, left) => (ofNumber number, left)
      else if octet == 91 then do
        let inner ← openNested depth (octet :: behind)
        let (items, left) ← readItems (readValue budget inner) (budget + 1) true behind
        return (.array items, left)
      else if octet == 123 then do
        let inner ← openNested depth (octet :: behind)
        let member (members : List (String × Json)) (key : String) (left : List UInt8) :
            Except Failure (List (String × Json) × List UInt8) := do
          let start ← readColon left
          let (value, left) ← readValue budget inner start
          return (insertMember key value members, left)
        let (members, left) ← readMembers member (budget + 1) true [] behind
        return (.object members, left)
      else failAtNext .expectedValue (octet :: behind)

/-- Nothing but blanks may follow. -/
def readEnd (rest : List UInt8) : Except Failure Unit :=
  match skipBlanks rest with
  | [] => .ok ()
  | others => failAtNext .trailingCharacters others

/-- The value that a whole text spells. -/
def parse (text : List UInt8) : Except Failure Json := do
  let (value, rest) ← readValue (text.length + 1) nestingLimit text
  readEnd rest
  return value

/-! ### Values that are passed over -/

/-- A bracket that is still open. -/
inductive Bracket where
  | list
  | object
deriving DecidableEq, Repr

/-- The place reached while values are passed over. -/
inductive Passing where
  /-- a value begins -/
  | value
  /-- a value inside the innermost bracket has ended -/
  | behindValue
  /-- a bracket was opened just now -/
  | opened

/-- Pass over the key of a member and its colon. -/
def skipKey (rest : List UInt8) : Except Failure (List UInt8) :=
  match skipBlanks rest with
  | [] => failEnded .object
  | 34 :: behind => do
    let left ← skipString .plain behind
    readColon left
  | others => failAtNext .keyMustBeString others

/-- Begin the next entry of the innermost bracket. -/
def skipToEntry (bracket : Bracket) (rest : List UInt8) : Except Failure (List UInt8) :=
  match bracket with
  | .list => .ok rest
  | .object => skipKey rest

/-- Pass over one value and what is still open around it; nesting is not limited. -/
def skipValue : Nat → Passing → List Bracket → List UInt8 → Except Failure (List UInt8)
  | 0, _, _, rest => failHere .recursionLimit rest
  | budget + 1, .value, brackets, rest =>
    match skipBlanks rest with
    | [] => failEnded .value
    | octet :: behind => do
      if octet == 91 then skipValue budget .opened (.list :: brackets) behind
      else if octet == 123 then skipValue budget .opened (.object :: brackets) behind
      else
        let left ←
          if octet == 110 then readIdent nullTail behind
          else if octet == 116 then readIdent trueTail behind
          else if octet == 102 then readIdent falseTail behind
          else if octet == 34 then skipString .plain behind
          else if octet == 45 then skipUnsigned behind
          else if isDigit octet then skipUnsigned (octet :: behind)
          else failAtNext .expectedValue (octet :: behind)
        skipValue budget .behindValue brackets left
  | _ + 1, .behindValue, [], rest => .ok rest
  | _ + 1, .opened, [], rest => .ok rest
  | budget + 1, .behindValue, bracket :: brackets, rest =>
    match skipBlanks rest, bracket with
    | [], .list => failEnded .list
    | [], .object => failEnded .object
    | 44 :: behind, _ => do
      let left ← skipToEntry bracket behind
      skipValue budget .value (bracket :: brackets) left
    | 93 :: behind, .list => skipValue budget .behindValue brackets behind
    | 125 :: behind, .object => skipValue budget .behindValue brackets behind
    | others, .list => failAtNext .expectedListEnd others
    | others, .object => failAtNext .expectedObjectEnd others
  | budget + 1, .opened, bracket :: brackets, rest =>
    match skipBlanks rest, bracket with
    | [], .list => failEnded .list
    | [], .object => failEnded .object
    | 93 :: behind, .list => skipValue budget .behindValue brackets behind
    | 125 :: behind, .object => skipValue budget .behindValue brackets behind
    | others, _ => do
      let left ← skipToEntry bracket others
      skipValue budget .value (bracket :: brackets) left

end Switchboard.Json
