/-
**Protocol versions.**
-/

namespace Switchboard.Http

/-- A version of the protocol. -/
inductive Version where
  | http09
  | http10
  | http11
  | http2
  | http3
deriving DecidableEq, Repr

instance : Inhabited Version := ⟨.http11⟩

namespace Version

/-- The name of a version. -/
def name : Version → String
  | .http09 => "HTTP/0.9"
  | .http10 => "HTTP/1.0"
  | .http11 => "HTTP/1.1"
  | .http2 => "HTTP/2.0"
  | .http3 => "HTTP/3.0"

/-- The version with a name; any other name means 1.1. -/
def ofName (name : String) : Version :=
  if name = "HTTP/0.9" then .http09
  else if name = "HTTP/1.0" then .http10
  else if name = "HTTP/2.0" then .http2
  else if name = "HTTP/3.0" then .http3
  else .http11

/-- Every version is read back from its name. -/
theorem ofName_name (version : Version) : ofName version.name = version := by
  cases version <;> decide

end Version

end Switchboard.Http
