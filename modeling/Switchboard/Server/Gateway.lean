/-
**The gateway.**

The gateway stands between the transport and the dispatcher. It gives every request an identifier,
collects its body up to a limit, dispatches it, and completes the response: with the length of its
body where none is declared, without a body for `HEAD`, without either for a successful `CONNECT`,
and with the identifier of the request.

* `read_of_within`: chunks that fit are joined.
-/

import Switchboard.Server.Dispatch

namespace Switchboard.Gateway

/-- What causes that a body cannot be read. -/
inductive ReadFault where
  | lengthLimit
  | transfer (cause : String)
deriving DecidableEq, Repr

/-- A piece of a body as it arrives, or the end of a broken transfer with its causes, the nearest
first. A limit is among them where the body was limited before it came to the gateway. -/
inductive Chunk where
  | data (octets : List UInt8)
  | broken (causes : List ReadFault)
deriving DecidableEq, Repr

/-- Why a body is refused. -/
inductive Refusal where
  | tooLarge
  | unreadable
deriving DecidableEq, Repr

/-- The body that chunks make up, none of which may lead beyond a limit. Otherwise reading stops,
and what causes that is told, the nearest first. -/
def read (limit : Nat) : List Chunk → Except (List ReadFault) (List UInt8)
  | [] => .ok []
  | .broken causes :: _ => .error causes
  | .data octets :: rest =>
    if octets.length > limit then .error [.lengthLimit]
    else (read (limit - octets.length) rest).map (octets ++ ·)

/-- Somewhere among the causes stands a limit, be it that of the gateway or another. -/
def exceedsLimit : List ReadFault → Bool
  | [] => false
  | .lengthLimit :: _ => true
  | .transfer _ :: further => exceedsLimit further

/-- Why a body is refused that cannot be read. -/
def refusal (causes : List ReadFault) : Refusal :=
  if exceedsLimit causes then .tooLarge else .unreadable

/-- The body that chunks make up, unless it is refused. -/
def collect (limit : Nat) (chunks : List Chunk) : Except Refusal (List UInt8) :=
  (read limit chunks).mapError refusal

/-- A plain text with a status. -/
def plainResponse (status : Http.Status) (text : String) : Http.Response :=
  { status
    header := Http.Header.set {} Http.contentType Http.plainText
    body := Text.bytes text }

/-- The response to a body that is refused. -/
def Refusal.response : Refusal → Http.Response
  | .tooLarge => plainResponse .payloadTooLarge "Request body too large"
  | .unreadable => plainResponse .badRequest "Failed to read request body"

/-- A number as a field value. -/
def lengthValue (length : Nat) : Option Http.FieldValue :=
  Http.FieldValue.ofString? (toString length)

/-- Declare the length of the body unless a length is declared. -/
def declareLength (response : Http.Response) : Http.Response :=
  if response.header.contains Http.contentLength.text then response
  else match lengthValue response.body.length with
    | some value => { response with header := response.header.set Http.contentLength value }
    | none => response

/-- Complete a response for the method of its request. -/
def complete (method : Http.Method) (response : Http.Response) : Http.Response :=
  if method = .connect ∧ response.status.isSuccess then { response with body := [] }
  else
    let declared := declareLength response
    if method = .head then { declared with body := [] } else declared

/-- Copy the identifier of a request to its response unless that has one. -/
def propagate (id : Option Http.FieldValue) (response : Http.Response) : Http.Response :=
  match id with
  | some value =>
    if response.header.contains Http.requestId.text then response
    else { response with header := response.header.set Http.requestId value }
  | none => response

/-- A request with an identifier, a fresh one if it came without. -/
def identify (fresh : Http.FieldValue) (request : Http.Request) : Http.Request :=
  if request.header.contains Http.requestId.text then request
  else { request with header := request.header.set Http.requestId fresh }

/-- Dispatch a request whose body arrives in chunks; the exchange holds the response that goes to
the transport. -/
def serve (limit : Nat) (fresh : Http.FieldValue) (world : World) (request : Http.Request)
    (chunks : List Chunk) : Served :=
  let identified := identify fresh request
  let id := identified.header.get? Http.requestId.text
  let finish (served : Served) : Served :=
    { served with
      exchange.response := propagate id (complete request.method served.exchange.response) }
  match collect limit chunks with
  | .error refusal =>
    finish { world, exchange := { request := identified, response := refusal.response } }
  | .ok body =>
    let served := world.serve { request := { identified with body } }
    if served.abort.isSome then served else finish served

/-- Chunks that fit are joined. -/
theorem read_of_within {limit : Nat} {parts : List (List UInt8)}
    (within : parts.flatten.length ≤ limit) :
    read limit (parts.map .data) = .ok parts.flatten := by
  induction parts generalizing limit with
  | nil => rfl
  | cons head tail hypothesis =>
    simp only [List.flatten_cons, List.length_append] at within
    rw [List.map_cons, read, if_neg (by omega), hypothesis (by omega)]
    rfl

end Switchboard.Gateway
