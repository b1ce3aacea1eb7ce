/-
**Identities.**

The identity of a declaration is its symbol followed by its distinguishing texts, each between
square brackets. For an operation these are its suffix, its description and its types; for a route
they are its prefix and its methods. The texts are written as they are, brackets inside included.
-/

import Switchboard.Http.Method

namespace Switchboard.Declaration

/-- The symbol of an operation without a handler. -/
def nilSymbol : String := "nil"

/-- A text between square brackets. -/
def bracket (part : String) : String :=
  "[" ++ part ++ "]"

/-- A symbol followed by bracketed texts. -/
def identity (symbol : String) (parts : List String) : String :=
  symbol ++ String.join (parts.map bracket)

/-- The identity of an operation. -/
def operationIdentity (symbol suffix description : String) (types : List String) : String :=
  identity symbol (suffix :: description :: types)

/-- The identity of a route. -/
def routeIdentity (symbol whole : String) (methods : List Http.Method) : String :=
  identity symbol (whole :: methods.map Http.Method.token)

end Switchboard.Declaration
