/-
**Request lines.**

A request line is a method, a target and perhaps a version, with a blank between them; without a
version it is 1.1.
-/

import Switchboard.Http.Message
import Switchboard.Text.Split
import Switchboard.Text.Utf8

namespace Switchboard.Http

/-- The request of a method, a target and a version, given as texts. -/
def Request.ofParts? (method target version : String) : Option Request := do
  let method ← Method.ofString? method
  let uri ← Uri.ofString? target
  some { method, uri, version := Version.ofName version }

/-- The request that a line asks for, without fields and body. -/
def Request.ofLine? (line : String) : Option Request :=
  match (Text.split ' ' (Text.trim line).toList).map String.ofList with
  | [method, target] => Request.ofParts? method target Version.http11.name
  | [method, target, version] => Request.ofParts? method target version
  | _ => none

/-- A field of a header as a line. -/
def fieldLine (field : FieldName × FieldValue) : String :=
  field.1.text ++ ": " ++ Text.decodeLossy field.2.octets

/-- A response as a text: its status, its fields, an empty line, and its body. -/
def Response.toText (response : Response) : String :=
  String.intercalate "\n"
    (response.status.describe :: response.header.fields.map fieldLine
      ++ ["", Text.decodeLossy response.body])

end Switchboard.Http
