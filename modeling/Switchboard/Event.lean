/-
**Events.**

What a dispatch reports to the log: a message with a level and named texts.
-/

import Switchboard.Http.Method
import Switchboard.Http.Status

namespace Switchboard

/-- How urgent an event is. -/
inductive Level where
  | error
  | warn
  | debug
deriving DecidableEq, Repr

/-- The name of a level. -/
def Level.name : Level → String
  | .error => "ERROR"
  | .warn => "WARN"
  | .debug => "DEBUG"

/-- An event. -/
structure Event where
  level : Level
  message : String
  fields : List (String × String)
deriving DecidableEq, Repr

namespace Event

/-- A dispatch finds no handler. -/
def handlerNotSet (method : Http.Method) (path : String) : Event :=
  ⟨.error, "handler not set, use \x60set_handler()\x60 to set it",
    [("method", method.token), ("path", path)]⟩

/-- A status is attempted behind the first one. -/
def alreadyCommitted (current attempted : Http.Status) : Event :=
  ⟨.warn, "response already committed",
    [("current", current.describe), ("attempted", attempted.describe)]⟩

/-- The handler of a route returns an error. -/
def handlerFailed (route : String) (status : Http.Status) (message : String) : Event :=
  ⟨.warn, "Handler returned error",
    [("route", route), ("status", status.describe), ("error", message)]⟩

/-- No route has a matching template. -/
def noRoute (method : Http.Method) (path : String) : Event :=
  ⟨.debug, "No route matched", [("method", method.token), ("path", path)]⟩

/-- An operation is stored for the first time. -/
def operationRegistered (id : String) : Event :=
  ⟨.debug, "operation registered", [("id", id)]⟩

end Event

end Switchboard
