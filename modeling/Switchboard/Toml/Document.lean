/-
**TOML documents.**

A document is a sequence of lines: headers that open a table or one more table of a list, and keys
with values that go into the table opened last. A byte order mark may stand in front.

* `parse` reads a whole document as the members of its outermost table.
-/

import Switchboard.Toml.Word

namespace Switchboard.Toml

/-- The letters of a name are next. -/
def readName (name : String) (item : Item) (text : List Char) : Option (Item × List Char) :=
  let letters := name.toList
  if text.take letters.length = letters then some (item, text.drop letters.length) else none

/-- The items of a list behind its opening bracket. -/
def readItems (value : List Char → Option (Item × List Char)) :
    Nat → List Char → Option (List Item × List Char)
  | 0, _ => none
  | budget + 1, text =>
    match skipLines (text.length + 1) text with
    | ']' :: rest => some ([], rest)
    | start => do
      let (item, rest) ← value start
      match skipLines (rest.length + 1) rest with
      | ',' :: behind =>
        let (items, left) ← readItems value budget behind
        some (item :: items, left)
      | ']' :: behind => some ([item], behind)
      | _ => none

/-- The members of a table between braces, from the first or the next one on. -/
def readMembers (value : List Char → Option (Item × List Char)) :
    Nat → Members → List Char → Option (Members × List Char)
  | 0, _, _ => none
  | budget + 1, members, text => do
    let (path, key, rest) ← readDottedKey (text.length + 1) text
    let rest ← readMark '=' rest
    let (item, rest) ← value (skipBlanks rest)
    let members ← assignInline path key item members
    match skipBlanks rest with
    | ',' :: behind => readMembers value budget members behind
    | '}' :: behind => some (members, behind)
    | _ => none

/-- A value; `depth` is the number of lists and tables that may still be opened around values. -/
def readValue : Nat → Nat → List Char → Option (Item × List Char)
  | 0, _, _ => none
  | budget + 1, depth, text =>
    match text with
    | [] => none
    | first :: rest =>
      if first = '"' ∨ first = '\'' then
        (readQuoted (text.length + 1) text).map fun (value, left) => (.text value, left)
      else if first = '[' then
        if depth ≤ 1 then none
        else
          (readItems (readValue budget (depth - 1)) (budget + 1) rest).map
            fun (items, left) => (.list items, left)
      else if first = '\x7b' then
        if depth ≤ 1 then none
        else match skipBlanks rest with
          | '\x7d' :: left => some (.inline false false [], left)
          | start =>
            (readMembers (readValue budget (depth - 1)) (budget + 1) [] start).map
              fun (members, left) => (.inline false false members, left)
      else if first = 't' then readName "true" (.flag true) text
      else if first = 'f' then readName "false" (.flag false) text
      else if first = 'i' ∨ first = 'n' ∨ first = '+' ∨ first = '-' ∨ first.isDigit then
        readNumeric text
      else none

/-- A document that is being read: what is finished, and the table opened last with its path. -/
structure Draft where
  root : Members := []
  path : List String := []
  inList : Bool := false
  current : Members := []

namespace Draft

/-- Append a table to the list of tables under a key. -/
def appendTable (key : String) (table members : Members) : Option Members :=
  match members.lookup key with
  | none => some (members ++ [(key, .tables [table])])
  | some (.tables elements) => some (replace key (.tables (elements ++ [table])) members)
  | some _ => none

/-- Put a finished table under a key. -/
def placeTable (key : String) (table members : Members) : Option Members :=
  match members.lookup key with
  | none => some (members ++ [(key, .table false false table)])
  | some (.table true _ _) => some (replace key (.table false false table) members)
  | some _ => none

/-- Put the table opened last in its place; the result is the outermost table. -/
def close (draft : Draft) : Option Members :=
  match draft.path.getLast? with
  | none => some draft.current
  | some key =>
    let place := if draft.inList then appendTable else placeTable
    descend false (fun _ members => place key draft.current members) draft.path.dropLast false
      draft.root

/-- The members that an implicit table under a key has already. -/
def reopened (key : String) (members : Members) : Option Members :=
  match members.lookup key with
  | none => some []
  | some (.table true false inner) => some inner
  | some _ => none

/-- The members of the table at the end of a path, tables missing on the way being empty. -/
def membersAt : List String → Members → Option Members
  | [], members => some members
  | key :: path, members =>
    match members.lookup key with
    | none => membersAt path []
    | some (.table _ _ inner) => membersAt path inner
    | some (.tables elements) => elements.getLast?.bind (membersAt path)
    | some _ => none

/-- Open the table of a header. -/
def openTable (draft : Draft) (path : List String) (key : String) : Option Draft := do
  let root ← draft.close
  let parent ← membersAt path root
  let current ← reopened key parent
  let root ← descend false
    (fun _ members => some (members.filter fun member => member.1 != key)) path false root
  some { root, path := path ++ [key], inList := false, current }

/-- Open one more table of a list. -/
def openListed (draft : Draft) (path : List String) (key : String) : Option Draft := do
  let root ← draft.close
  let parent ← membersAt path root
  match parent.lookup key with
  | none => some { root, path := path ++ [key], inList := true, current := [] }
  | some (.tables _) => some { root, path := path ++ [key], inList := true, current := [] }
  | some _ => none

end Draft

/-- A header behind its opening brackets. -/
def readHeader (draft : Draft) (text : List Char) : Option (Draft × List Char) :=
  match text with
  | '[' :: '[' :: rest => do
    let (path, key, rest) ← readDottedKey (rest.length + 1) rest
    let rest ← readMark ']' rest
    let rest ← readMark ']' rest
    let rest ← restOfLine rest
    let draft ← draft.openListed path key
    some (draft, rest)
  | '[' :: rest => do
    let (path, key, rest) ← readDottedKey (rest.length + 1) rest
    let rest ← readMark ']' rest
    let rest ← restOfLine rest
    let draft ← draft.openTable path key
    some (draft, rest)
  | _ => none

/-- A key with its value. -/
def readAssignment (draft : Draft) (text : List Char) : Option (Draft × List Char) := do
  let (path, key, rest) ← readDottedKey (text.length + 1) text
  let rest ← readMark '=' rest
  let (item, rest) ← readValue (rest.length + 1) depthLimit (skipBlanks rest)
  let rest ← restOfLine rest
  let current ← assign path key item draft.current
  some ({ draft with current }, rest)

/-- The lines of a document. -/
def readLines : Nat → Draft → List Char → Option Draft
  | 0, _, _ => none
  | budget + 1, draft, text =>
    match skipLines (text.length + 1) text with
    | [] => some draft
    | '[' :: rest => do
      let (draft, rest) ← readHeader draft ('[' :: rest)
      readLines budget draft rest
    | start => do
      let (draft, rest) ← readAssignment draft start
      readLines budget draft rest

/-- A text without the byte order mark in front. -/
def dropMark (text : List Char) : List Char :=
  match text with
  | first :: rest => if first.toNat = 0xFEFF then rest else text
  | [] => []

/-- The members of the outermost table of a document. -/
def parse (text : String) : Option Members := do
  let characters := dropMark text.toList
  let draft ← readLines (characters.length + 1) {} characters
  draft.close

end Switchboard.Toml
