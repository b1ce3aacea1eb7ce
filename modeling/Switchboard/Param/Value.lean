/-
**Parameters read from values.**

A parameter is an object with its members, of which all but name and place have defaults and others
are ignored, or a list of them in order. The place is a name, or an object whose only member has
that name and the value null.

* `ofJson?_toJson`: a parameter is read back from its value.
-/

import Switchboard.Param.Basic

namespace Switchboard

/-- The place that a value names. -/
def Location.ofJson? : Json → Option Location
  | .string name => ofName? name
  | .object [(name, .null)] => ofName? name
  | _ => none

namespace Param

/-- A text, or the default where there is no value. -/
def stringOr? (fallback : String) : Option Json → Option String
  | none => some fallback
  | some (.string text) => some text
  | some _ => none

/-- A truth value, or false where there is no value. -/
def boolOrFalse? : Option Json → Option Bool
  | none => some false
  | some (.bool value) => some value
  | some _ => none

/-- A parameter of its parts, of which name and place must be there. The format is one that may be
stored, as is every value that was read or put together. -/
def ofParts? (name location required format description : Option Json) : Option Param := do
  let nameText ← match name with
    | some (.string text) => some text
    | _ => none
  let place ← location.bind Location.ofJson?
  let isRequired ← boolOrFalse? required
  let shape ← Json.Stored.of? (format.getD .null)
  let about ← stringOr? "" description
  some ⟨nameText, place, isRequired, shape, about⟩

/-- The parameter that a value spells. -/
def ofJson? : Json → Option Param
  | .object members =>
    ofParts? (members.lookup "name") (members.lookup "in") (members.lookup "required")
      (members.lookup "format") (members.lookup "description")
  | .array items =>
    if items.length ≤ 5 then ofParts? items[0]? items[1]? items[2]? items[3]? items[4]? else none
  | _ => none

/-- The place is read back from its name. -/
theorem ofJson?_name (location : Location) :
    Location.ofJson? (.string location.name) = some location := by
  simp [Location.ofJson?, Location.ofName?_name]

/-- A parameter is read back from its value. -/
theorem ofJson?_toJson (param : Param) : ofJson? param.toJson = some param := by
  obtain ⟨name, location, required, format, description⟩ := param
  have found (key : String) (value : Json) (members : List (String × Json)) :=
    Json.lookup_insertMember key value members
  have kept {key other : String} (different : other ≠ key) (value : Json)
      (members : List (String × Json)) :=
    Json.lookup_insertMember_ne different value members
  simp [toJson, fields, Json.ofMembers, ofJson?, found, kept, ofParts?, ofJson?_name,
    boolOrFalse?, stringOr?, Json.Stored.of?_value]

end Param

end Switchboard
