/-
**Errors of handlers.**

A handler may end with an error, a status and a message. The error becomes the response unless a
status is committed already.

* `writeTo_of_committed`: a committed response is left as it is.
-/

import Switchboard.Json.Failure
import Switchboard.Wrapper.Response

namespace Switchboard

/-- A failure that a handler reports. -/
structure HandlerError where
  status : Http.Status
  message : String
deriving DecidableEq

namespace HandlerError

/-- The request is malformed. -/
def badRequest (message : String) : HandlerError :=
  ⟨.badRequest, message⟩

/-- There is no such resource. -/
def notFound (message : String) : HandlerError :=
  ⟨.notFound, message⟩

/-- The server failed. -/
def internal (message : String) : HandlerError :=
  ⟨.internalServerError, message⟩

/-- The body is no JSON text of the wanted kind. -/
def ofJsonFailure (failure : Json.Failure) (text : List UInt8) : HandlerError :=
  badRequest (failure.message text)

/-- The status and the message of an error. -/
def describe (error : HandlerError) : String :=
  error.status.describe ++ ": " ++ error.message

/-- Make an error the response, unless a status is committed. -/
def writeTo (error : HandlerError) (response : Wrapper.Response) : Wrapper.Written :=
  if response.committed then { response } else response.writeText error.status error.message

/-- A committed response is left as it is. -/
theorem writeTo_of_committed (error : HandlerError) {response : Wrapper.Response}
    (committed : response.committed = true) :
    (error.writeTo response).response = response := by
  simp [writeTo, committed]

end HandlerError

end Switchboard
