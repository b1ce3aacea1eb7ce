/-
**Header fields.**

A header is a list of fields, a name with a value each, in the order in which the values of one name
were added. Names are tokens in lower case; values are bytes other than control characters.

* `get?_set`: a field that was set is found;
* `get?_set_ne`: the fields of other names stay as they are.
-/

import Switchboard.Text.Case
import Switchboard.Text.Order
import Switchboard.Http.Method

namespace Switchboard.Http

/-- The name of a header field. -/
structure FieldName where
  text : String
  isToken_text : isToken text = true
  lower_text : Text.lower text = text

/-- A field name is determined by its text. -/
theorem FieldName.ext_text {first second : FieldName} (equal : first.text = second.text) :
    first = second := by
  cases first
  cases second
  simp_all

instance : DecidableEq FieldName := fun first second =>
  decidable_of_iff (first.text = second.text) ⟨FieldName.ext_text, congrArg FieldName.text⟩

/-- A byte that may stand in a field value. -/
def isValueByte (octet : UInt8) : Bool :=
  octet == 9 || (decide (32 ≤ octet) && octet != 127)

/-- A byte that may stand in a field value read as text. -/
def isVisibleByte (octet : UInt8) : Bool :=
  octet == 9 || (decide (32 ≤ octet) && decide (octet < 127))

/-- The value of a header field. -/
structure FieldValue where
  octets : List UInt8
  valid : octets.all isValueByte = true
deriving DecidableEq

/-- The field name of a text in any case. -/
def FieldName.ofString? (text : String) : Option FieldName :=
  if valid : isToken (Text.lower text) = true then
    some ⟨Text.lower text, valid, Text.lower_lower text⟩
  else none

/-- The field value of some bytes. -/
def FieldValue.ofBytes? (octets : List UInt8) : Option FieldValue :=
  if valid : octets.all isValueByte = true then some ⟨octets, valid⟩ else none

/-- The field value of a text. -/
def FieldValue.ofString? (text : String) : Option FieldValue :=
  FieldValue.ofBytes? (Text.bytes text)

/-- A field value as a text, if all its bytes are visible. -/
def FieldValue.text? (value : FieldValue) : Option String :=
  if value.octets.all isVisibleByte then
    some (String.ofList (value.octets.map fun octet => Char.ofNat octet.toNat))
  else none

/-- The name `content-type`. -/
def contentType : FieldName := ⟨"content-type", by decide, by decide⟩

/-- The name `content-length`. -/
def contentLength : FieldName := ⟨"content-length", by decide, by decide⟩

/-- The name `allow`. -/
def allow : FieldName := ⟨"allow", by decide, by decide⟩

/-- The name `x-request-id`. -/
def requestId : FieldName := ⟨"x-request-id", by decide, by decide⟩

/-- The value that announces plain text. -/
def plainText : FieldValue := ⟨Text.bytes "text/plain; charset=utf-8", by decide⟩

/-- The value that announces JSON. -/
def jsonText : FieldValue := ⟨Text.bytes "application/json", by decide⟩

/-- The fields of a message. -/
structure Header where
  fields : List (FieldName × FieldValue) := []
deriving DecidableEq, Inhabited

namespace Header

/-- The field has a name, given in any case. -/
def isNamed (name : String) (field : FieldName × FieldValue) : Bool :=
  field.1.text == Text.lower name

/-- All values of a name, given in any case. -/
def getAll (header : Header) (name : String) : List FieldValue :=
  (header.fields.filter (isNamed name)).map Prod.snd

/-- The first value of a name. -/
def get? (header : Header) (name : String) : Option FieldValue :=
  (header.getAll name).head?

/-- The first value of a name as text. -/
def getText? (header : Header) (name : String) : Option String :=
  (header.get? name).bind FieldValue.text?

/-- The name has a value. -/
def contains (header : Header) (name : String) : Bool :=
  header.fields.any (isNamed name)

/-- The number of values. -/
def size (header : Header) : Nat :=
  header.fields.length

/-- There is no value. -/
def isEmpty (header : Header) : Bool :=
  header.fields.isEmpty

/-- Give a name one value in place of all it had. -/
def set (header : Header) (name : FieldName) (value : FieldValue) : Header :=
  ⟨header.fields.filter (fun field => field.1 ≠ name) ++ [(name, value)]⟩

/-- Add a value to those of a name. -/
def add (header : Header) (name : FieldName) (value : FieldValue) : Header :=
  ⟨header.fields ++ [(name, value)]⟩

/-- Take away all values of a name; the first of them is the result. -/
def remove (header : Header) (name : String) : Option FieldValue × Header :=
  (header.get? name, ⟨header.fields.filter fun field => !isNamed name field⟩)

/-- The names in byte order, each once. -/
def names (header : Header) : List String :=
  Text.dedupAdjacent (Text.sortBy id (header.fields.map fun field => field.1.text))

/-- The names in byte order, each with its values. -/
def grouped (header : Header) : List (String × List FieldValue) :=
  header.names.map fun name =>
    (name, (header.fields.filter fun field => field.1.text == name).map Prod.snd)

/-- A field that was set has this value alone. -/
theorem getAll_set (header : Header) (name : FieldName) (value : FieldValue) :
    (header.set name value).getAll name.text = [value] := by
  have dropped : (header.fields.filter (fun field => field.1 ≠ name)).filter (isNamed name.text)
      = [] := by
    rw [List.filter_filter, List.filter_eq_nil_iff]
    intro field _ both
    simp only [isNamed, name.lower_text, Bool.and_eq_true, beq_iff_eq, decide_eq_true_eq] at both
    exact both.2 (FieldName.ext_text both.1)
  rw [getAll, set, List.filter_append, dropped]
  simp [isNamed, name.lower_text]

/-- A field that was set is found. -/
theorem get?_set (header : Header) (name : FieldName) (value : FieldValue) :
    (header.set name value).get? name.text = some value := by
  simp [get?, getAll_set header name value]

/-- Setting a field keeps all values of other names. -/
theorem getAll_set_ne (header : Header) {name : FieldName} (value : FieldValue) {other : String}
    (different : Text.lower other ≠ name.text) :
    (header.set name value).getAll other = header.getAll other := by
  have kept : (header.fields.filter (fun field => field.1 ≠ name)).filter (isNamed other)
      = header.fields.filter (isNamed other) := by
    rw [List.filter_filter]
    apply List.filter_congr
    intro field _
    by_cases named : field.1.text = Text.lower other
    · have apart : field.1 ≠ name := fun same => different (named ▸ congrArg FieldName.text same)
      simp [isNamed, named, apart]
    · simp [isNamed, named]
  have last : isNamed other (name, value) = false := by
    simpa [isNamed] using Ne.symm different
  rw [getAll, set, List.filter_append, kept]
  simp [getAll, last]

/-- The fields of other names stay as they are. -/
theorem get?_set_ne (header : Header) {name : FieldName} (value : FieldValue) {other : String}
    (different : Text.lower other ≠ name.text) :
    (header.set name value).get? other = header.get? other := by
  rw [get?, getAll_set_ne header value different, get?]

end Header

end Switchboard.Http
