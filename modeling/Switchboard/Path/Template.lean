/-
**Route templates.**

A template is a list of segments, each of which is a fixed text or, written with a colon in front, a
named parameter. A path matches a template as a whole, segment by segment; a parameter takes
whatever segment stands in its place.

* `length_of_matchSegments`: a path that matches has as many segments as the template.
-/

import Switchboard.Path.Clean

namespace Switchboard.Path

/-- A segment of a template. -/
inductive Part where
  | fixed (text : String)
  | param (name : String)
deriving DecidableEq, Repr, Inhabited

/-- The values that a path gives to the parameters of a template, in the order of its segments. -/
abbrev Captures := List (String × String)

/-- A template of paths. -/
structure Template where
  parts : List Part
deriving DecidableEq, Repr, Inhabited

/-- The segments of a path that are not empty. -/
def words (path : String) : List Segment :=
  (pieces path.toList).filter fun segment => !segment.isEmpty

/-- A segment of a declared prefix as a segment of a template. -/
def Part.ofSegment : Segment → Part
  | ':' :: name => .param (String.ofList name)
  | text => .fixed (String.ofList text)

/-- The segment is a fixed text. -/
def Part.isFixed : Part → Bool
  | .fixed _ => true
  | .param _ => false

namespace Template

/-- The template of a declared prefix. -/
def compile (declared : String) : Template :=
  ⟨(words (clean declared)).map Part.ofSegment⟩

/-- The number of fixed segments; more of them are more specific. -/
def fixedCount (template : Template) : Nat :=
  template.parts.countP Part.isFixed

/-- Match segments of a path against those of a template. -/
def matchSegments : List Part → List String → Option Captures
  | [], [] => some []
  | .fixed text :: parts, word :: words =>
    if text = word then matchSegments parts words else none
  | .param name :: parts, word :: words =>
    (matchSegments parts words).map ((name, word) :: ·)
  | _, _ => none

/-- The values of the parameters if a path matches. -/
def match? (template : Template) (path : String) : Option Captures :=
  matchSegments template.parts ((words path).map String.ofList)

/-- A path that matches has as many segments as the template. -/
theorem length_of_matchSegments {parts : List Part} {words : List String} {captures : Captures}
    (matched : matchSegments parts words = some captures) : words.length = parts.length := by
  induction parts, words using matchSegments.induct generalizing captures with
  | case1 => rfl
  | case2 parts word words hypothesis =>
    rw [matchSegments, if_pos rfl] at matched
    simp [hypothesis matched]
  | case3 text parts word words different => simp [matchSegments, different] at matched
  | case4 name parts word words hypothesis =>
    rw [matchSegments, Option.map_eq_some_iff] at matched
    obtain ⟨inner, found, _⟩ := matched
    simp [hypothesis found]
  | case5 parts words noEnd noFixed noParam =>
    rw [matchSegments] at matched
    · exact absurd matched (by simp)
    all_goals assumption

end Template

end Switchboard.Path
