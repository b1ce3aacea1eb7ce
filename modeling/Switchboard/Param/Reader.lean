/-
**Parameters read from texts.**

The text of a parameter, or of a list of them, is read with the type of each member in mind: a
failure names the member and the kind of value that stands in its place. Members that a parameter
does not have are passed over unread, and a member may not occur twice.
-/

import Switchboard.Json.Reader
import Switchboard.Param.Basic

namespace Switchboard.Param

open Json

/-- The kind of the value that begins at the next word, where another kind is wanted. -/
def readOtherKind (wanted : String) (rest : List UInt8) : Except Failure α :=
  let other (found : Found) (behind : List UInt8) : Except Failure α :=
    failHere (.wrongType found wanted) behind
  match rest with
  | [] => failEnded .value
  | octet :: behind =>
    if octet == 110 then (readIdent nullTail behind).bind (other .null)
    else if octet == 116 then (readIdent trueTail behind).bind (other (.bool true))
    else if octet == 102 then (readIdent falseTail behind).bind (other (.bool false))
    else if octet == 34 then
      (readString behind).bind fun (text, left) => other (.string text) left
    else if octet == 45 || isDigit octet then
      (readNumber rest).bind fun (number, left) =>
        match number with
        | .integer value => other (.integer value) left
        | .double value => other (.double value) left
    else if octet == 91 then other .sequence rest
    else if octet == 123 then other .map rest
    else failAtNext .expectedValue rest

/-- A text where one is wanted. -/
def readText (wanted : String) (rest : List UInt8) : Except Failure (String × List UInt8) :=
  match skipBlanks rest with
  | [] => failEnded .value
  | 34 :: behind => readString behind
  | others => readOtherKind wanted others

/-- A truth value where one is wanted. -/
def readBool (rest : List UInt8) : Except Failure (Bool × List UInt8) :=
  match skipBlanks rest with
  | [] => failEnded .value
  | 116 :: behind => (readIdent trueTail behind).map (true, ·)
  | 102 :: behind => (readIdent falseTail behind).map (false, ·)
  | others => readOtherKind "a boolean" others

/-- Null where it is wanted. -/
def readNull (rest : List UInt8) : Except Failure (List UInt8) :=
  match skipBlanks rest with
  | [] => failEnded .value
  | 110 :: behind => readIdent nullTail behind
  | others => readOtherKind "unit" others

/-- The name of a location behind its opening quote. -/
def readLocationName (rest : List UInt8) : Except Failure (Location × List UInt8) := do
  let (name, behind) ← readString rest
  match Location.ofName? name with
  | some location => return (location, behind)
  | none => failHere (.unknownVariant name (Location.all.map Location.name)) behind

/-- A location: its name, or an object whose one member has that name and is null. Inside the object
the name is read as any key is: what is no text is refused as a key, and a text that ends in front of
it ends inside an object. -/
def readLocation (depth : Nat) (rest : List UInt8) : Except Failure (Location × List UInt8) :=
  match skipBlanks rest with
  | [] => failEnded .value
  | 34 :: behind => readLocationName behind
  | 123 :: behind => do
    let _ ← openNested depth (123 :: behind)
    match ← nextKey true behind with
    | none => failAtNext .expectedValue (skipBlanks behind)
    | some start =>
      let (location, left) ← readLocationName start
      let left ← readColon left
      let left ← readNull left
      match skipBlanks left with
      | [] => failEnded .object
      | 125 :: others => return (location, others)
      | others => failHere .expectedValue others
  | others => failAtNext .expectedValue others

/-- The members of a parameter read so far. -/
structure Partial where
  name : Option String := none
  location : Option Location := none
  required : Option Bool := none
  format : Option Json.Stored := none
  description : Option String := none

/-- A member that occurs again: what was read may end with the closing brace. -/
def failTwice (name : String) (rest : List UInt8) : Except Failure α :=
  match skipBlanks rest with
  | 125 :: behind => failHere (.duplicateField name) behind
  | others => failHere (.duplicateField name) others

/-- Read one member behind its key. -/
def readMember (budget depth : Nat) (state : Partial) (key : String) (rest : List UInt8) :
    Except Failure (Partial × List UInt8) := do
  if key = "name" then
    if state.name.isSome then failTwice key rest
    else
      let (value, behind) ← readText "a string" (← readColon rest)
      return ({ state with name := some value }, behind)
  else if key = "in" then
    if state.location.isSome then failTwice key rest
    else
      let (value, behind) ← readLocation depth (← readColon rest)
      return ({ state with location := some value }, behind)
  else if key = "required" then
    if state.required.isSome then failTwice key rest
    else
      let (value, behind) ← readBool (← readColon rest)
      return ({ state with required := some value }, behind)
  else if key = "format" then
    if state.format.isSome then failTwice key rest
    else
      let (value, behind) ← readStored budget depth (← readColon rest)
      return ({ state with format := some value }, behind)
  else if key = "description" then
    if state.description.isSome then failTwice key rest
    else
      let (value, behind) ← readText "a string" (← readColon rest)
      return ({ state with description := some value }, behind)
  else
    let behind ← skipValue (2 * budget) .value [] (← readColon rest)
    return (state, behind)

/-- The parameter of the members that were read. -/
def Partial.finish (state : Partial) (rest : List UInt8) :
    Except Failure (Param × List UInt8) :=
  match state.name, state.location with
  | none, _ => failHere (.missingField "name") rest
  | some _, none => failHere (.missingField "in") rest
  | some name, some location =>
    .ok (⟨name, location, state.required.getD false, state.format.getD .null,
      state.description.getD ""⟩, rest)

/-- What a parameter written as a list must be. -/
def listShape : String := "struct Param with 5 elements"

/-- The next of the members of a parameter written as a list, if there is one more. -/
def readNext (read : List UInt8 → Except Failure (α × List UInt8)) (first ended : Bool)
    (rest : List UInt8) : Except Failure (Option α × Bool × List UInt8) := do
  if ended then return (none, true, rest)
  else match ← nextItem first rest with
    | none => return (none, true, skipBlanks rest)
    | some start =>
      let (value, behind) ← read start
      return (some value, false, behind)

/-- The members of a parameter written as a list, behind the opening bracket. -/
def readListed (budget depth : Nat) (rest : List UInt8) :
    Except Failure (Param × List UInt8) := do
  let tooShort (length : Nat) (left : List UInt8) : Except Failure (Param × List UInt8) :=
    failHere (.wrongLength length listShape) (left.drop 1)
  let (name, ended, rest) ← readNext (readText "a string") true false rest
  let (location, ended, rest) ← readNext (readLocation depth) false ended rest
  match name, location with
  | none, _ => tooShort 0 rest
  | some _, none => tooShort 1 rest
  | some name, some location =>
    let (required, ended, rest) ← readNext readBool false ended rest
    let (format, ended, rest) ← readNext (readStored budget depth) false ended rest
    let (description, _, rest) ← readNext (readText "a string") false ended rest
    let behind ← closeList rest
    return (⟨name, location, required.getD false, format.getD .null, description.getD ""⟩, behind)

/-- A parameter that begins at the next word. -/
def read (budget depth : Nat) (rest : List UInt8) : Except Failure (Param × List UInt8) :=
  match skipBlanks rest with
  | [] => failEnded .value
  | 91 :: behind => do
    let inner ← openNested depth (91 :: behind)
    readListed budget inner behind
  | 123 :: behind => do
    let inner ← openNested depth (123 :: behind)
    let (state, left) ← readMembers (readMember budget inner) budget true {} behind
    state.finish left
  | others => readOtherKind "struct Param" others

/-- The parameter that a whole text spells. -/
def parse (text : List UInt8) : Except Failure Param := do
  let (param, rest) ← read (text.length + 1) nestingLimit text
  readEnd rest
  return param

/-- The list of parameters that a whole text spells. -/
def parseList (text : List UInt8) : Except Failure (List Param) := do
  let budget := text.length + 1
  match skipBlanks text with
  | [] => failEnded .value
  | 91 :: behind =>
    let inner ← openNested nestingLimit (91 :: behind)
    let (params, rest) ← readItems (read budget inner) budget true behind
    readEnd rest
    return params
  | others => readOtherKind "a sequence" others

end Switchboard.Param
