/-
**Declared prefixes.**

The prefix under which a route is declared is a cleaned path without its query. It has a fixed part,
up to the first `/:`, and a part with parameters from there on.

* `append_splitAtMarker`: the two parts make up the whole.
-/

import Switchboard.Path.Clean

namespace Switchboard.Path

/-- A cleaned prefix and its two parts. -/
structure DeclaredPrefix where
  whole : String
  fixedPart : String
  paramPart : String
deriving DecidableEq, Repr, Inhabited

/-- A path in front of its first marker `/:`, and from the marker on. -/
def splitAtMarker : List Char → List Char × List Char
  | [] => ([], [])
  | [character] => ([character], [])
  | first :: second :: rest =>
    if first = '/' ∧ second = ':' then ([], first :: second :: rest)
    else
      let (before, behind) := splitAtMarker (second :: rest)
      (first :: before, behind)

/-- A path in front of its first question mark. -/
def dropQuery (path : List Char) : List Char :=
  path.takeWhile (· != '?')

/-- The prefix that a declaration means, and its parts. -/
def decompose (declared : String) : DeclaredPrefix :=
  let whole := dropQuery (clean declared).toList
  let (before, behind) := splitAtMarker whole
  { whole := String.ofList whole
    fixedPart := String.ofList before
    paramPart := String.ofList behind }

/-- The two parts make up the whole. -/
theorem append_splitAtMarker (path : List Char) :
    (splitAtMarker path).1 ++ (splitAtMarker path).2 = path := by
  fun_induction splitAtMarker path <;> simp_all

end Switchboard.Path
