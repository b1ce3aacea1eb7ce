/-
**Cleaning a path piece by piece.**

A path may be cleaned in two parts, joined by a slash: what stands behind the slash goes on from
where the part in front of it leads. It may climb from there into the segments of the first part and
out of them, so it cannot be cleaned apart; but of the first part only the segments that are left
matter. Without a `..` the second part adds its own segments and takes none away.

* `cleanSegments_clean_append_slash_append` — **the first part may be cleaned before** the other one
  joins it;
* `cleanSegments_append_of_inward` — **a second part that does not climb** is cleaned apart;
* `clean_joined` — both, for the texts.
-/

import Switchboard.Proofs.Path.Climbing

namespace Switchboard.Path

theorem toList_joined (first second : String) :
    (first ++ "/" ++ second).toList = first.toList ++ '/' :: second.toList := by
  rw [String.toList_append, String.toList_append, List.append_assoc]
  rfl

/-- **The first part of a path may be cleaned before** the second one joins it. -/
theorem cleanSegments_clean_append_slash_append (first : String) (behind : List Char) :
    cleanSegments ((clean first).toList ++ '/' :: behind)
      = cleanSegments (first.toList ++ '/' :: behind) := by
  rw [cleanSegments_append_slash_append, cleanSegments_clean, ← cleanSegments_append_slash_append]

/-- **A second part that does not climb** adds the segments that are left of it alone. -/
theorem cleanSegments_append_of_inward {behind : List Char} (inward : ¬ Climbs (pieces behind))
    (path : List Char) :
    cleanSegments (path ++ '/' :: behind) = cleanSegments path ++ cleanSegments behind := by
  obtain ⟨reached, -, leads⟩ := foldl_follow_of_not_climbs inward
  -- from the root the second part leads to the same places, with nothing further out
  have apart : cleanSegments behind = reached.reverse := by
    unfold cleanSegments resolve
    rw [leads, List.append_nil]
  rw [cleanSegments_append_slash_append, leads, apart, List.reverse_append, List.reverse_reverse]

/-- Without a `..` nothing climbs. -/
theorem not_climbs_of_parent_not_mem {segments : List Segment} (level : parent ∉ segments) :
    ¬ Climbs segments := by
  rintro ⟨start, front, more⟩
  have none : start.count parent = 0 :=
    List.count_eq_zero.mpr fun member => level (front.subset member)
  rw [none] at more
  exact Nat.not_lt_zero _ more

/-- **Cleaning goes from left to right.** Whatever stands behind a slash, the part in front of it
may be cleaned first. If no segment behind the slash is `..`, or those that are do not climb out of
the segments behind the slash themselves, the cleaned path is the join of the segments that are left
of both parts. -/
theorem clean_joined (first second : String) :
    clean (first ++ "/" ++ second) = clean (clean first ++ "/" ++ second)
      ∧ (parent ∉ pieces second.toList ∨ ¬ Climbs (pieces second.toList) →
        clean (first ++ "/" ++ second)
          = String.ofList (render (words (clean first) ++ words (clean second)))) := by
  refine ⟨?_, fun level => ?_⟩
  · rw [clean_eq_iff, toList_joined, toList_joined, cleanSegments_clean_append_slash_append]
  · have inward : ¬ Climbs (pieces second.toList) := level.elim not_climbs_of_parent_not_mem id
    unfold clean
    rw [toList_joined, cleanSegments_append_of_inward inward]
    show _ = String.ofList (render (words (clean first) ++ words (clean second)))
    rw [words_clean, words_clean]

/-- A second part that climbs into the first one, and one that stays within itself. -/
theorem clean_joined_climbing :
    clean "/a//b/." = "/a/b" ∧ clean ("/a//b/." ++ "/" ++ "../../../c") = clean "/a/b/../../../c"
    ∧ parent ∉ pieces "c/./d/".toList
    ∧ clean ("/a//b/." ++ "/" ++ "c/./d/") = "/a/b/c/d" := by
  have cleaned : clean "/a//b/." = "/a/b" := by decide
  have level : parent ∉ pieces "c/./d/".toList := by decide
  refine ⟨cleaned, ?_, level, ?_⟩
  · rw [(clean_joined "/a//b/." "../../../c").1, cleaned]
    rfl
  · rw [(clean_joined "/a//b/." "c/./d/").2 (.inl level)]
    decide

end Switchboard.Path
