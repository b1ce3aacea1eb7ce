/-
**What is left in front of a query.**

A declared prefix is cleaned first and loses its query afterwards. The cut can fall anywhere in a
segment, so what stands in front of it need not be clean any more: it may end in a slash, in `/.` or
in `/..`.

* `Cut`, `exists_cut` — **the segments in front of the cut**, and the piece of the one that is cut;
* `cleanSegments_of_cut` — a second cleaning follows that piece once more;
* `settled_whole_iff` — **what is left is clean** exactly if it is the root or its last piece names
  something;
* `whole_of_unqueried` — without a query it is the cleaned path.
-/

import Switchboard.Path.Prefix
import Switchboard.Proofs.Path.Cleaning
import Mathlib.Data.List.TakeWhile

namespace Switchboard.Path

/-! ### Characters of a cleaned path -/

theorem mem_of_mem_pieces {path : List Char} {piece : Segment} {character : Char}
    (member : piece ∈ pieces path) (inside : character ∈ piece) : character ∈ path := by
  unfold pieces at member
  induction path generalizing piece with
  | nil =>
    rw [List.mem_singleton.mp member] at inside
    cases inside
  | cons head tail hypothesis =>
    rw [Text.split] at member
    split at member
    · rcases List.mem_cons.mp member with rfl | behind
      · cases inside
      · exact List.mem_cons_of_mem _ (hypothesis behind inside)
    · split at member
      · rename_i parts
        exact absurd parts (Text.split_ne_nil _ _)
      · rename_i first others parts
        rw [parts] at hypothesis
        rcases List.mem_cons.mp member with rfl | behind
        · rcases List.mem_cons.mp inside with rfl | later
          · exact List.mem_cons_self
          · exact List.mem_cons_of_mem _ (hypothesis List.mem_cons_self later)
        · exact List.mem_cons_of_mem _ (hypothesis (List.mem_cons_of_mem _ behind) inside)

/-- A segment that is left holds no new character. -/
theorem mem_of_mem_cleanSegments {path : List Char} {segment : Segment} {character : Char}
    (member : segment ∈ cleanSegments path) (inside : character ∈ segment) : character ∈ path :=
  mem_of_mem_pieces (mem_of_mem_resolve member) inside

/-- The cleaned path holds what the segments hold that are left, and slashes. -/
theorem mem_clean_iff {path : String} {character : Char} (different : character ≠ '/') :
    character ∈ (clean path).toList
      ↔ ∃ segment ∈ cleanSegments path.toList, character ∈ segment := by
  rw [toList_clean]
  by_cases empty : cleanSegments path.toList = []
  · rw [empty]
    constructor
    · intro member
      exact absurd (List.mem_singleton.mp member) different
    · rintro ⟨segment, member, _⟩
      cases member
  · rw [render_of_ne_nil empty, List.mem_flatMap]
    refine exists_congr fun segment => and_congr_right fun _ => ?_
    rw [List.mem_cons, or_iff_right different]

theorem not_mem_clean {path : String} (unqueried : '?' ∉ path.toList) :
    '?' ∉ (clean path).toList := by
  intro member
  obtain ⟨segment, left, inside⟩ := (mem_clean_iff (by decide)).mp member
  exact unqueried (mem_of_mem_cleanSegments left inside)

/-! ### Dropping the query -/

theorem dropQuery_of_unqueried {path : List Char} (unqueried : '?' ∉ path) :
    dropQuery path = path := by
  unfold dropQuery
  rw [List.takeWhile_eq_self_iff]
  intro character member
  rw [bne_iff_ne]
  rintro rfl
  exact unqueried member

theorem not_mem_dropQuery (path : List Char) : '?' ∉ dropQuery path := by
  intro member
  have kept := List.mem_takeWhile_imp member
  exact absurd rfl (bne_iff_ne.mp kept)

/-- What stands behind a query is dropped with it. -/
theorem dropQuery_append_of_queried {first : List Char} (queried : '?' ∈ first)
    (second : List Char) : dropQuery (first ++ second) = dropQuery first := by
  induction first with
  | nil => cases queried
  | cons head tail hypothesis =>
    unfold dropQuery at hypothesis ⊢
    by_cases here : head = '?'
    · rw [here]
      rfl
    · have passed : (head != '?') = true := bne_iff_ne.mpr here
      rw [List.cons_append, List.takeWhile_cons, List.takeWhile_cons, if_pos passed, if_pos passed,
        hypothesis ((List.mem_cons.mp queried).resolve_left (Ne.symm here))]

theorem dropQuery_append_of_unqueried {first : List Char} (unqueried : '?' ∉ first)
    (second : List Char) : dropQuery (first ++ second) = first ++ dropQuery second := by
  have kept : ∀ character ∈ first, (character != '?') = true := by
    intro character member
    rw [bne_iff_ne]
    rintro rfl
    exact unqueried member
  exact List.takeWhile_append_of_pos kept

theorem toList_whole (declared : String) :
    (decompose declared).whole.toList = dropQuery (clean declared).toList := by
  unfold decompose
  rw [String.toList_ofList]

theorem not_mem_whole (declared : String) : '?' ∉ (decompose declared).whole.toList := by
  rw [toList_whole]
  exact not_mem_dropQuery _

/-- **Without a query** the prefix is the cleaned path. -/
theorem whole_of_unqueried {declared : String} (unqueried : '?' ∉ (clean declared).toList) :
    (decompose declared).whole = clean declared := by
  apply String.toList_inj.mp
  rw [toList_whole, dropQuery_of_unqueried unqueried]

/-! ### The cut -/

/-- The segments in front of the cut, and the piece of the one that is cut. -/
inductive Cut : List Segment → List Segment → Segment → Prop
  /-- there is no segment, so the slash of the root stands alone -/
  | root : Cut [] [] []
  /-- nothing is cut -/
  | none (before : List Segment) (piece : Segment) : Cut (before ++ [piece]) before piece
  /-- the query begins in a segment, and all behind it is lost -/
  | query (before : List Segment) (piece behind : Segment) (after : List Segment) :
    Cut (before ++ (piece ++ '?' :: behind) :: after) before piece

theorem Cut.proper {segments before : List Segment} {piece : Segment}
    (cut : Cut segments before piece) (proper : ∀ segment ∈ segments, Proper segment) :
    (∀ segment ∈ before, Proper segment) ∧ '/' ∉ piece := by
  cases cut with
  | root => exact ⟨proper, List.not_mem_nil⟩
  | none =>
    refine ⟨fun segment member => proper segment (List.mem_append_left _ member), ?_⟩
    exact (proper piece (by simp)).slashless
  | query before piece behind after =>
    refine ⟨fun segment member => proper segment (List.mem_append_left _ member), fun slash => ?_⟩
    exact (proper (piece ++ '?' :: behind) (by simp)).slashless (List.mem_append_left _ slash)

/-- The first segment with a question mark, if there is one. -/
theorem unqueried_or_exists_segment (segments : List Segment) :
    (∀ segment ∈ segments, '?' ∉ segment)
      ∨ ∃ before piece behind after, segments = before ++ (piece ++ '?' :: behind) :: after
        ∧ (∀ segment ∈ before, '?' ∉ segment) ∧ '?' ∉ piece := by
  induction segments with
  | nil => exact Or.inl fun _ member => absurd member List.not_mem_nil
  | cons head tail hypothesis =>
    by_cases here : '?' ∈ head
    · obtain ⟨piece, behind, rfl, free⟩ := List.eq_append_cons_of_mem here
      exact Or.inr ⟨[], piece, behind, tail, rfl, fun _ member => absurd member List.not_mem_nil,
        free⟩
    · rcases hypothesis with free | ⟨before, piece, behind, after, rfl, free, freePiece⟩
      · exact Or.inl (List.forall_mem_cons.mpr ⟨here, free⟩)
      · exact Or.inr ⟨head :: before, piece, behind, after, rfl,
          List.forall_mem_cons.mpr ⟨here, free⟩, freePiece⟩

theorem not_mem_flatMap_slash {segments : List Segment}
    (free : ∀ segment ∈ segments, '?' ∉ segment) : '?' ∉ segments.flatMap ('/' :: ·) := by
  intro member
  obtain ⟨segment, inside, here⟩ := List.mem_flatMap.mp member
  exact free segment inside ((List.mem_cons.mp here).resolve_left (by decide))

/-- The query is cut off with the rest of its segment and all segments behind it. -/
theorem dropQuery_render {before : List Segment} {piece : Segment}
    (free : ∀ segment ∈ before, '?' ∉ segment) (freePiece : '?' ∉ piece) (behind : Segment)
    (after : List Segment) :
    dropQuery (render (before ++ (piece ++ '?' :: behind) :: after))
      = (before ++ [piece]).flatMap ('/' :: ·) := by
  have front : '?' ∉ '/' :: piece := fun member =>
    freePiece ((List.mem_cons.mp member).resolve_left (by decide))
  have back : dropQuery ('?' :: behind ++ after.flatMap ('/' :: ·)) = [] := rfl
  have joined : ('/' :: (piece ++ '?' :: behind)) ++ after.flatMap ('/' :: ·)
      = ('/' :: piece) ++ ('?' :: behind ++ after.flatMap ('/' :: ·)) := by
    rw [← List.append_assoc]
    rfl
  rw [render_of_ne_nil (by simp), List.flatMap_append, List.flatMap_cons, joined,
    dropQuery_append_of_unqueried (not_mem_flatMap_slash free),
    dropQuery_append_of_unqueried front, back, List.append_nil, List.flatMap_append,
    List.flatMap_singleton]

/-- **A prefix ends in the cut** of its cleaned path. -/
theorem exists_cut (declared : String) :
    ∃ before piece, Cut (cleanSegments declared.toList) before piece
      ∧ (decompose declared).whole.toList = (before ++ [piece]).flatMap ('/' :: ·) := by
  rw [toList_whole, toList_clean]
  generalize cleanSegments declared.toList = segments
  rcases unqueried_or_exists_segment segments with
    free | ⟨before, piece, behind, after, rfl, free, freePiece⟩
  · rcases List.eq_nil_or_concat segments with rfl | ⟨before, piece, rfl⟩
    · exact ⟨[], [], .root, by decide⟩
    · rw [List.concat_eq_append] at free ⊢
      refine ⟨before, piece, .none before piece, ?_⟩
      rw [render_of_ne_nil (by simp), dropQuery_of_unqueried (not_mem_flatMap_slash free)]
  · exact ⟨before, piece, .query before piece behind after,
      dropQuery_render free freePiece behind after⟩

theorem pieces_of_slashless {segments : List Segment}
    (slashless : ∀ segment ∈ segments, '/' ∉ segment) :
    pieces (segments.flatMap ('/' :: ·)) = [] :: segments :=
  Text.split_append_flatMap [] slashless

/-- **A second cleaning** keeps the segments in front of the cut and follows the piece that the cut
leaves. -/
theorem cleanSegments_of_cut {before : List Segment} {piece : Segment}
    (proper : ∀ segment ∈ before, Proper segment) (slashless : '/' ∉ piece) :
    cleanSegments ((before ++ [piece]).flatMap ('/' :: ·))
      = (follow before.reverse piece).reverse := by
  have free : ∀ segment ∈ before ++ [piece], '/' ∉ segment :=
    List.forall_mem_append.mpr
      ⟨fun segment member => (proper segment member).slashless, List.forall_mem_singleton.mpr slashless⟩
  have reached := foldl_follow_of_ordinary (fun segment member => (proper segment member).ordinary)
    (follow [] [])
  unfold cleanSegments resolve
  rw [pieces_of_slashless free, List.foldl_cons, List.foldl_append, reached]
  exact congrArg List.reverse (congrArg (follow · piece) (List.append_nil _))

/-- A prefix is the root, or its last piece names something. -/
def Settled (whole : String) : Prop :=
  whole = "/" ∨ ∃ piece, (pieces whole.toList).getLast? = some piece ∧ isOrdinary piece = true

theorem settled_clean (path : String) : Settled (clean path) := by
  have proper : ∀ segment ∈ cleanSegments path.toList, Proper segment :=
    fun _ => proper_of_mem_cleanSegments
  have written := toList_clean path
  generalize cleanSegments path.toList = segments at proper written
  rcases List.eq_nil_or_concat segments with rfl | ⟨before, last, rfl⟩
  · exact Or.inl (String.toList_inj.mp written)
  · rw [List.concat_eq_append] at proper written
    refine Or.inr ⟨last, ?_, (proper last (by simp)).ordinary⟩
    rw [written, render_of_ne_nil (by simp),
      pieces_of_slashless fun segment member => (proper segment member).slashless,
      ← List.cons_append, List.getLast?_concat]

/-- **What is left in front of a query is clean** exactly if it is settled. -/
theorem settled_whole_iff (declared : String) :
    Settled (decompose declared).whole
      ↔ clean (decompose declared).whole = (decompose declared).whole := by
  constructor
  · rintro (root | ⟨last, found, ordinary⟩)
    · rw [root]
      decide
    · obtain ⟨before, piece, cut, written⟩ := exists_cut declared
      obtain ⟨proper, slashless⟩ := cut.proper fun _ => proper_of_mem_cleanSegments
      have free : ∀ segment ∈ before ++ [piece], '/' ∉ segment :=
        List.forall_mem_append.mpr ⟨fun segment member => (proper segment member).slashless,
          List.forall_mem_singleton.mpr slashless⟩
      have names : piece = last := by
        rw [written, pieces_of_slashless free, ← List.cons_append, List.getLast?_concat] at found
        exact Option.some.inj found
      have allProper : ∀ segment ∈ before ++ [piece], Proper segment :=
        List.forall_mem_append.mpr
          ⟨proper, List.forall_mem_singleton.mpr ⟨names ▸ ordinary, slashless⟩⟩
      have rendered : render (before ++ [piece]) = (before ++ [piece]).flatMap ('/' :: ·) :=
        render_of_ne_nil (by simp)
      apply String.toList_inj.mp
      rw [toList_clean, written, ← rendered, cleanSegments_render allProper]
  · intro same
    rw [← same]
    exact settled_clean _

/-- A prefix without a query is settled. -/
theorem settled_of_unqueried {declared : String} (unqueried : '?' ∉ (clean declared).toList) :
    Settled (decompose declared).whole := by
  rw [whole_of_unqueried unqueried]
  exact settled_clean declared

/-- **Declared once more**, the cleaned prefix is left as it is. -/
theorem whole_clean_whole (declared : String) :
    (decompose (clean (decompose declared).whole)).whole = clean (decompose declared).whole := by
  have unqueried := not_mem_clean (not_mem_clean (not_mem_whole declared))
  rw [whole_of_unqueried unqueried, clean_clean]

end Switchboard.Path
