/-
**Cleaning a path.**

A path is read as its segments between slashes. Empty segments and `.` are dropped, and `..` drops
the segment before it but never climbs above the root. What is left is written with a slash in front
of each segment; without any segment it is the root `/`.

* `ordinary_of_mem_resolve`: the segments that are left are ordinary ones;
* `resolve_of_ordinary`: ordinary segments are all left.
-/

import Switchboard.Text.Split

namespace Switchboard.Path

/-- A segment of a path. -/
abbrev Segment := List Char

/-- The segments of a path between its slashes, empty ones included. -/
def pieces (path : List Char) : List Segment :=
  Text.split '/' path

/-- A segment that names something. -/
def isOrdinary (segment : Segment) : Bool :=
  segment != [] && segment != ['.'] && segment != ['.', '.']

/-- Follow one segment from a place, given by its segments, the innermost first. -/
def follow (place : List Segment) (segment : Segment) : List Segment :=
  if segment = [] ∨ segment = ['.'] then place
  else if segment = ['.', '.'] then place.drop 1
  else segment :: place

/-- The place that segments lead to from the root. -/
def resolve (segments : List Segment) : List Segment :=
  (segments.foldl follow []).reverse

/-- A place written with a slash in front of each segment. -/
def render (segments : List Segment) : List Char :=
  if segments.isEmpty then ['/'] else segments.flatMap ('/' :: ·)

/-- The segments that are left of a path. -/
def cleanSegments (path : List Char) : List Segment :=
  resolve (pieces path)

/-- The cleaned path. -/
def clean (path : String) : String :=
  String.ofList (render (cleanSegments path.toList))

/-- The segments that are left are ordinary. -/
theorem ordinary_of_mem_resolve (segments : List Segment) :
    ∀ segment ∈ resolve segments, isOrdinary segment = true := by
  have kept (rest place : List Segment) (ordinary : ∀ segment ∈ place, isOrdinary segment = true) :
      ∀ segment ∈ rest.foldl follow place, isOrdinary segment = true := by
    induction rest generalizing place with
    | nil => exact ordinary
    | cons head tail hypothesis =>
      apply hypothesis
      intro segment member
      unfold follow at member
      split at member
      · exact ordinary segment member
      · rename_i notSkipped
        split at member
        · exact ordinary segment (List.mem_of_mem_drop member)
        · rename_i notParent
          rcases List.mem_cons.mp member with equal | member
          · subst equal
            simp_all [isOrdinary]
          · exact ordinary segment member
  intro segment member
  exact kept segments [] (by simp) segment (List.mem_reverse.mp member)

/-- Ordinary segments lead further inwards. -/
theorem foldl_follow_of_ordinary {segments : List Segment}
    (ordinary : ∀ segment ∈ segments, isOrdinary segment = true) (place : List Segment) :
    segments.foldl follow place = segments.reverse ++ place := by
  induction segments generalizing place with
  | nil => rfl
  | cons head tail hypothesis =>
    have first := ordinary head (by simp)
    simp only [isOrdinary, Bool.and_eq_true, bne_iff_ne, ne_eq] at first
    rw [List.foldl_cons, hypothesis fun segment member => ordinary segment (by simp [member])]
    simp [follow, first.1.1, first.1.2, first.2]

/-- Ordinary segments are all left. -/
theorem resolve_of_ordinary {segments : List Segment}
    (ordinary : ∀ segment ∈ segments, isOrdinary segment = true) :
    resolve segments = segments := by
  simp [resolve, foldl_follow_of_ordinary ordinary]

end Switchboard.Path
