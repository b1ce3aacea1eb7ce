/-
**JSON values.**

A value is null, a truth value, a number, a text, a list of values, or an object. Numbers are
integers or finite doubles. The members of an object that was read stand in the byte order of their
keys and no key occurs twice; `Json.ofMembers` builds such an object, the last member of a key being
kept. The members of a record stand in the order of its declaration instead.

* `lookup_insertMember`: an inserted member is found under its key;
* `lookup_insertMember_ne`: the other members stay as they are.
-/

import Switchboard.Text.Order
import Switchboard.Decimal.Shortest

namespace Switchboard

/-- A JSON value. -/
inductive Json where
  | null
  | bool (value : Bool)
  | integer (value : Int)
  | double (value : Decimal.Binary64)
  | string (value : String)
  | array (items : List Json)
  | object (members : List (String × Json))
deriving Inhabited

namespace Json

/-- Put a member in its place, over an earlier one with the same key. -/
def insertMember (key : String) (value : α) : List (String × α) → List (String × α)
  | [] => [(key, value)]
  | (name, other) :: rest =>
    if name = key then (key, value) :: rest
    else if Text.precedes name key then (name, other) :: insertMember key value rest
    else (key, value) :: (name, other) :: rest

/-- The object with some members; of several with one key the last is kept. -/
def ofMembers (members : List (String × Json)) : Json :=
  .object (members.foldl (fun kept member => insertMember member.1 member.2 kept) [])

/-- The member of an object with a key. -/
def member? (value : Json) (key : String) : Option Json :=
  match value with
  | .object members => members.lookup key
  | _ => none

/-- A list of texts. -/
def strings (texts : List String) : Json :=
  .array (texts.map .string)

/-- A text, or null if there is none. -/
def optionalString (text : Option String) : Json :=
  text.elim .null .string

/-- An inserted member is found under its key. -/
theorem lookup_insertMember (key : String) (value : α) (members : List (String × α)) :
    (insertMember key value members).lookup key = some value := by
  induction members with
  | nil => simp [insertMember]
  | cons head tail hypothesis =>
    obtain ⟨name, other⟩ := head
    rw [insertMember]
    split
    · simp
    · rename_i different
      have apart : (key == name) = false := by simpa using Ne.symm different
      split
      · simp [List.lookup_cons, apart, hypothesis]
      · simp

/-- The other members stay as they are. -/
theorem lookup_insertMember_ne {key other : String} (different : other ≠ key) (value : α)
    (members : List (String × α)) :
    (insertMember key value members).lookup other = members.lookup other := by
  have apart : (other == key) = false := by simpa using different
  induction members with
  | nil => simp [insertMember, different]
  | cons head tail hypothesis =>
    obtain ⟨name, present⟩ := head
    rw [insertMember]
    split
    · rename_i equal
      subst equal
      simp [List.lookup_cons, apart]
    · split
      · simp [List.lookup_cons, hypothesis]
      · simp [List.lookup_cons, apart]

end Json

end Switchboard
