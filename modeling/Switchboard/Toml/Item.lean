/-
**Tables of a settings text.**

The items of a TOML document: scalar values, lists, tables and lists of tables. A table remembers how
it came about. One that was only passed through on the way to another is implicit and may still be
opened by a header; one that was opened by a dotted key may only be extended by dotted keys.

* `descend` changes the table at the end of a path;
* `assign` stores a value under a dotted key.
-/

namespace Switchboard.Toml

/-- An item of a document. -/
inductive Item where
  | text (value : String)
  | whole (value : Int)
  | fraction
  | flag (value : Bool)
  | moment
  | list (items : List Item)
  /-- a table between braces; it is implicit while only dotted keys have opened it -/
  | inline (implicit dotted : Bool) (members : List (String × Item))
  | table (implicit dotted : Bool) (members : List (String × Item))
  /-- the members of each table of a list of tables -/
  | tables (elements : List (List (String × Item)))
deriving Inhabited

/-- Items under their keys. -/
abbrev Members := List (String × Item)

/-- Put another item under a key. -/
def replace (key : String) (item : Item) (members : Members) : Members :=
  members.map fun (name, other) => if name = key then (name, item) else (name, other)

/-- Change the members of the table at the end of a path, of which the change learns whether it was
opened by a dotted key. Tables that are missing are opened on the way; `byDots` says whether the path
is part of a dotted key, which must not pass through a table that has a header. -/
def descend (byDots : Bool) (change : Bool → Members → Option Members) :
    List String → Bool → Members → Option Members
  | [], dotted, members => change dotted members
  | key :: path, _, members =>
    match members.lookup key with
    | none => do
      let inner ← descend byDots change path byDots []
      some (members ++ [(key, .table true byDots inner)])
    | some (.table implicit dotted inner) =>
      if byDots && !implicit then none
      else do
        let changed ← descend byDots change path dotted inner
        some (replace key (.table implicit dotted changed) members)
    | some (.tables elements) => do
      let last ← elements.getLast?
      let changed ← descend byDots change path false last
      some (replace key (.tables (elements.dropLast ++ [changed])) members)
    | some _ => none

/-- Add an item under a key that is still free, in a table that may be extended this way. -/
def addItem (key : String) (item : Item) (byDots dotted : Bool) (members : Members) :
    Option Members :=
  if dotted != byDots then none
  else if (members.lookup key).isSome then none
  else some (members ++ [(key, item)])

/-- Store an item under a dotted key of a table. -/
def assign (path : List String) (key : String) (item : Item) (members : Members) :
    Option Members :=
  descend true (addItem key item !path.isEmpty) path false members

/-- Change the members of the table between braces at the end of a dotted key. -/
def descendInline (change : Bool → Members → Option Members) :
    List String → Bool → Members → Option Members
  | [], dotted, members => change dotted members
  | key :: path, _, members =>
    match members.lookup key with
    | none => do
      let inner ← descendInline change path true []
      some (members ++ [(key, .inline true true inner)])
    | some (.inline implicit dotted inner) =>
      if !implicit then none
      else do
        let changed ← descendInline change path dotted inner
        some (replace key (.inline implicit dotted changed) members)
    | some _ => none

/-- Store an item under a dotted key of a table between braces. -/
def assignInline (path : List String) (key : String) (item : Item) (members : Members) :
    Option Members :=
  descendInline (addItem key item !path.isEmpty) path false members

end Switchboard.Toml
