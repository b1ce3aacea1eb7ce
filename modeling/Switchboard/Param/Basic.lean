/-
**Declared parameters.**

A parameter has a name, a place in the request, and an example value as it is stored. The parameters
that stand in the path are always required and make up the suffix of the path, `/:first/:second`, in
the order of their declaration.

* `Location.ofText?_name`: every location is read back from its name;
* `suffix_requirePath`: requiring the path parameters does not change the suffix.
-/

import Switchboard.Text.Blank
import Switchboard.Text.Case
import Switchboard.Text.Quoted
import Switchboard.Json.Printer
import Switchboard.Json.Stored

namespace Switchboard

/-- The place of a parameter in a request. -/
inductive Location where
  | path
  | query
  | form
  | body
  | header
deriving DecidableEq, Repr, Inhabited

namespace Location

/-- The name of a location. -/
def name : Location → String
  | .path => "path"
  | .query => "query"
  | .form => "form"
  | .body => "body"
  | .header => "header"

/-- All locations, in the order in which messages list them. -/
def all : List Location :=
  [.path, .query, .form, .body, .header]

/-- The location with exactly a name. -/
def ofName? (name : String) : Option Location :=
  all.find? fun location => location.name == name

/-- The location that a text names in any letter case. -/
def ofText? (text : String) : Option Location :=
  ofName? (Text.lower text)

/-- The message for a text that names no location. -/
def unknownMessage (text : String) : String :=
  "unsupported parameter location: " ++ Text.quoted text

/-- Every location is read back from its name. -/
theorem ofName?_name (location : Location) : ofName? location.name = some location := by
  cases location <;> decide

/-- Every location is read back from its name in lower case. -/
theorem ofText?_name (location : Location) : ofText? location.name = some location := by
  cases location <;> decide

end Location

/-- A declared parameter. -/
structure Param where
  name : String
  location : Location
  required : Bool := false
  format : Json.Stored := .null
  description : String := ""
deriving Inhabited

namespace Param

/-- The parameter stands in the path. -/
def isPath (param : Param) : Bool :=
  param.location == .path

/-- The name has no character but blanks. -/
def isNameless (param : Param) : Bool :=
  (Text.trim param.name).isEmpty

/-- The segment that the parameter adds to a path. -/
def segment (param : Param) : String :=
  "/:" ++ param.name

/-- The suffix that parameters add to a path. -/
def suffix (params : List Param) : String :=
  String.join ((params.filter isPath).map segment)

/-- Mark a parameter as required if it stands in the path. -/
def require (param : Param) : Param :=
  if param.isPath then { param with required := true } else param

/-- Mark the parameters in the path as required. -/
def requirePath (params : List Param) : List Param :=
  params.map require

/-- The members of a parameter in the order of its declaration. -/
def fields (param : Param) : List (String × Json) :=
  [("name", .string param.name), ("in", .string param.location.name),
    ("required", .bool param.required), ("format", param.format.value),
    ("description", .string param.description)]

/-- A parameter as a value. -/
def toJson (param : Param) : Json :=
  Json.ofMembers param.fields

/-- A parameter as a record. -/
def toRecord (param : Param) : Json :=
  .object param.fields

/-- The compact text of a parameter. -/
def toText (param : Param) : String :=
  Json.orderedText param.fields

/-- Requiring a parameter changes neither its name nor its place. -/
theorem require_name_location (param : Param) :
    param.require.name = param.name ∧ param.require.location = param.location := by
  unfold require
  split <;> simp

/-- A parameter is required at most once. -/
theorem require_require (param : Param) : param.require.require = param.require := by
  unfold require
  split <;> simp_all [isPath]

/-- Requiring the path parameters does not change the suffix. -/
theorem suffix_requirePath (params : List Param) : suffix (requirePath params) = suffix params := by
  have same (param : Param) : param.require.isPath = param.isPath ∧
      param.require.segment = param.segment := by
    simp [isPath, segment, require_name_location param]
  unfold suffix requirePath
  congr 1
  induction params with
  | nil => rfl
  | cons head tail hypothesis =>
    simp only [List.map_cons, List.filter_cons, same head]
    split <;> simp [hypothesis, same head]

end Param

end Switchboard
