/-
**Response wrappers.**

A pooled wrapper collects the response of a cycle. The first status, or the first byte of the body,
commits it; a later status is refused with a warning. The wrapper counts the bytes of the body in a
word of 64 bits, starting behind a callback from the length that the callback's response declares;
an addition that does not fit ends the handler.

* `writeHeader_of_committed`: a committed response keeps its status;
* `body_write`: writing appends to the body.
-/

import Switchboard.Event
import Switchboard.Http.Message
import Switchboard.Json.Printer
import Switchboard.Pool
import Switchboard.Wrapper.Request

namespace Switchboard.Wrapper

/-- A response in the making. The header is there for the length of a cycle. -/
structure Response where
  status : Http.Status := .ok
  size : Nat := 0
  committed : Bool := false
  body : List UInt8 := []
  fields : Option (Instance Fields) := none
deriving DecidableEq, Inhabited

instance : Recycle Response where
  fresh := {}
  recycle _ := {}

/-- The message of an addition that does not fit. -/
def overflowMessage : String := "attempt to add with overflow"

/-- What an operation leaves of a response: the events it reports, and whether it came to an end. -/
structure Written where
  response : Response
  events : List Event := []
  overflow : Bool := false

namespace Response

/-- Own a response under construction, with a wrapper that owns its header. -/
def bind (_ : Response) (response : Http.Response) (fields : Instance Fields) : Response :=
  { status := response.status
    size := 0
    committed := false
    body := response.body
    fields := some fields }

/-- The header fields; a wrapper outside a cycle has none. -/
def header (response : Response) : Http.Header :=
  response.fields.elim {} fun fields => fields.value.header

/-- The parts as one response, lent to a callback or given back to the transport. -/
def lend (response : Response) : Http.Response :=
  { status := response.status
    header := response.header
    body := response.body }

/-- Own what a callback left of a response; its size is the length it declares. -/
def restore (response : Response) (native : Http.Response) : Response :=
  { response with
    status := native.status
    size := native.contentLength
    body := native.body
    fields := response.fields.map fun fields => { fields with value := ⟨native.header⟩ } }

/-- Change the header fields. -/
def mapHeader (response : Response) (change : Http.Header → Http.Header) : Response :=
  { response with
    fields := response.fields.map fun fields =>
      { fields with value := ⟨change fields.value.header⟩ } }

/-- Replace all values of a header field. -/
def setField (response : Response) (name : Http.FieldName) (value : Http.FieldValue) : Response :=
  response.mapHeader (·.set name value)

/-- Add a value to a header field. -/
def addField (response : Response) (name : Http.FieldName) (value : Http.FieldValue) : Response :=
  response.mapHeader (·.add name value)

/-- Take away a header field; its first value is the result. -/
def removeField (response : Response) (name : String) : Option Http.FieldValue × Response :=
  (response.header.get? name, response.mapHeader fun header => (header.remove name).2)

/-- Commit a status, unless one is committed. -/
def writeHeader (response : Response) (status : Http.Status) : Written :=
  if response.committed then
    { response, events := [.alreadyCommitted response.status status] }
  else { response := { response with status, committed := true } }

/-- Append to the body, committing 200 first if no status is committed. -/
def write (response : Response) (data : List UInt8) : Written :=
  let opened := if response.committed then response else (response.writeHeader .ok).response
  let appended := { opened with body := opened.body ++ data }
  if opened.size + data.length > Text.greatestWord then { response := appended, overflow := true }
  else { response := { appended with size := opened.size + data.length } }

/-- Commit a status with a body of a certain type. -/
def writeAs (response : Response) (type : Http.FieldValue) (status : Http.Status)
    (data : List UInt8) : Written :=
  let opened := (response.setField Http.contentType type).writeHeader status
  let written := opened.response.write data
  { written with events := opened.events ++ written.events }

/-- Commit a status with a plain text. -/
def writeText (response : Response) (status : Http.Status) (text : String) : Written :=
  response.writeAs Http.plainText status (Text.bytes text)

/-- Commit a status with a JSON value. -/
def writeJson (response : Response) (status : Http.Status) (value : Json) : Written :=
  response.writeAs Http.jsonText status (Text.bytes value.toText)

/-- A committed response keeps its status. -/
theorem writeHeader_of_committed {response : Response} (committed : response.committed = true)
    (status : Http.Status) : (response.writeHeader status).response = response := by
  simp [writeHeader, committed]

/-- Writing appends to the body. -/
theorem body_write (response : Response) (data : List UInt8) :
    (response.write data).response.body = response.body ++ data := by
  simp only [write]
  split <;> split <;> simp_all [writeHeader]

end Response

end Switchboard.Wrapper
