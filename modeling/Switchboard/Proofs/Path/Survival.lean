/-
**Which segments cleaning leaves.**

Cleaning follows the segments of a path one after another and keeps the place that they lead to.
What it leaves can be told without following them: a segment that names something is left unless,
up to some position behind it, there are more `..` than segments that name something.

* `Survives`, `survivors` — the segments that are left, **told by their positions**;
* `resolve_cons` — **a segment in front** of others is left exactly if it names something and they do
  not climb out of it;
* `resolve_eq_survivors` — following the segments leaves those that survive;
* `clean_is_lexical` — **a cleaned path** is written from the segments that survive, and is clean.
-/

import Switchboard.Proofs.Path.Climbing

namespace Switchboard.Path

/-! ### Segments told by their positions -/

/-- The segments behind one position, up to another. -/
def between (segments : List Segment) (position last : Nat) : List Segment :=
  (segments.take (last + 1)).drop (position + 1)

/-- The segment at a position names something, and up to no later position are there more `..` behind
it than segments that name something. -/
def Survives (segments : List Segment) (position : Nat) : Prop :=
  segments[position]?.any isOrdinary = true
    ∧ ∀ last < segments.length, position < last →
      (between segments position last).count parent
        ≤ (between segments position last).countP isOrdinary

instance (segments : List Segment) (position : Nat) : Decidable (Survives segments position) :=
  inferInstanceAs (Decidable (_ ∧ _))

/-- The segments that survive, in their order. -/
def survivors (segments : List Segment) : List Segment :=
  (List.range segments.length).filterMap fun position =>
    if Survives segments position then segments[position]? else none

theorem between_zero (head : Segment) (tail : List Segment) (last : Nat) :
    between (head :: tail) 0 last = tail.take last := rfl

theorem between_succ (head : Segment) (tail : List Segment) (position last : Nat) :
    between (head :: tail) (position + 1) (last + 1) = between tail position last := rfl

/-- The first segment survives if it names something and those behind it do not climb. -/
theorem survives_zero_iff {head : Segment} {tail : List Segment} :
    Survives (head :: tail) 0 ↔ isOrdinary head = true ∧ ¬ Climbs tail := by
  refine and_congr_right fun _ => ?_
  constructor
  · rintro kept ⟨start, front, more⟩
    have starts : start = tail.take start.length := List.prefix_iff_eq_take.mp front
    have some_segment : 0 < start.length := by
      refine List.length_pos_of_ne_nil ?_
      rintro rfl
      exact absurd more (by decide)
    have bound := kept start.length
      (Nat.lt_succ_of_le front.length_le) some_segment
    rw [between_zero, ← starts] at bound
    omega
  · intro inward last _ _
    rw [between_zero]
    exact Nat.le_of_not_lt fun more => inward ⟨_, List.take_prefix last tail, more⟩

/-- A segment further back survives as it does without the first one. -/
theorem survives_succ_iff {head : Segment} {tail : List Segment} {position : Nat} :
    Survives (head :: tail) (position + 1) ↔ Survives tail position := by
  refine and_congr_right fun _ => ?_
  constructor
  · intro kept last inside later
    exact kept (last + 1) (Nat.succ_lt_succ inside) (Nat.succ_lt_succ later)
  · intro kept last inside later
    obtain ⟨before, rfl⟩ := Nat.exists_eq_add_one_of_ne_zero (Nat.ne_zero_of_lt later)
    rw [between_succ]
    exact kept before (Nat.lt_of_succ_lt_succ inside) (Nat.lt_of_succ_lt_succ later)

theorem survivors_cons (head : Segment) (tail : List Segment) :
    survivors (head :: tail)
      = if isOrdinary head = true ∧ ¬ Climbs tail then head :: survivors tail
        else survivors tail := by
  have behind : ((List.range tail.length).map Nat.succ).filterMap (fun position =>
        if Survives (head :: tail) position then (head :: tail)[position]? else none)
      = survivors tail := by
    rw [List.filterMap_map]
    refine congrArg (List.filterMap · _) (funext fun position => ?_)
    exact if_congr survives_succ_iff rfl rfl
  unfold survivors
  rw [List.length_cons, List.range_succ_eq_map, List.filterMap_cons, behind]
  by_cases first : isOrdinary head = true ∧ ¬ Climbs tail
  · rw [if_pos first, if_pos (survives_zero_iff.mpr first)]
    rfl
  · rw [if_neg first, if_neg (mt survives_zero_iff.mp first)]
    rfl

theorem survivors_eq_nil_iff {segments : List Segment} :
    survivors segments = [] ↔ ∀ position, ¬ Survives segments position := by
  unfold survivors
  rw [List.filterMap_eq_nil_iff]
  constructor
  · intro none position survives
    obtain ⟨segment, found, _⟩ := (Option.any_eq_true _ _).mp survives.1
    have inside : position < segments.length := (List.getElem?_eq_some_iff.mp found).1
    have missing := none position (List.mem_range.mpr inside)
    rw [if_pos survives, found] at missing
    cases missing
  · intro none position _
    exact if_neg (none position)

/-! ### Following the segments -/

/-- **A segment in front** of others is left exactly if it names something and they do not climb out
of it; what is left behind it stays the same. -/
theorem resolve_cons (head : Segment) (tail : List Segment) :
    resolve (head :: tail)
      = if isOrdinary head = true ∧ ¬ Climbs tail then head :: resolve tail else resolve tail := by
  have led : resolve (head :: tail) = (tail.foldl follow (follow [] head)).reverse := rfl
  rw [led]
  by_cases ordinary : isOrdinary head = true
  · have entered : follow [] head = [head] :=
      foldl_follow_of_ordinary (List.forall_mem_singleton.mpr ordinary) []
    rw [entered]
    by_cases climbs : Climbs tail
    · -- up to the `..` that climbs out of the head, nothing is left, with or without the head
      obtain ⟨within, after, leaves⟩ := climbs.exists_leavesAfter
      obtain ⟨reached, length, inner⟩ := foldl_follow_of_not_climbs leaves.inward
      have none : reached = [] := List.eq_nil_of_length_eq_zero (by have := leaves.back; omega)
      have same : tail.foldl follow [] = after.foldl follow [] := by
        rw [leaves.cut, List.foldl_append, inner, none]
        rfl
      rw [if_neg fun both => both.2 climbs, leaves.foldl_follow, ← same]
      rfl
    · obtain ⟨reached, -, inner⟩ := foldl_follow_of_not_climbs climbs
      have alone := inner []
      rw [List.append_nil] at alone
      rw [if_pos ⟨ordinary, climbs⟩, inner, List.reverse_append, ← alone]
      rfl
  · have stays : follow [] head = [] := by
      rcases skipped_or_parent_or_ordinary head with skipped | rfl | named
      · exact if_pos skipped
      · rfl
      · exact absurd named ordinary
    rw [stays, if_neg fun both => ordinary both.1]
    rfl

/-- **Following segments leaves those that survive.** -/
theorem resolve_eq_survivors (segments : List Segment) : resolve segments = survivors segments := by
  induction segments with
  | nil => rfl
  | cons head tail hypothesis => rw [resolve_cons, survivors_cons, hypothesis]

theorem cleanSegments_eq_survivors (path : List Char) :
    cleanSegments path = survivors (pieces path) :=
  resolve_eq_survivors _

/-! ### The cleaned path -/

theorem head?_render (segments : List Segment) : (render segments).head? = some '/' := by
  cases segments with
  | nil => rfl
  | cons head tail => rfl

/-- Segments that name something end in no slash. -/
theorem getLast?_render_ne {segments : List Segment} (some_segment : segments ≠ [])
    (proper : ∀ segment ∈ segments, Proper segment) :
    (render segments).getLast? ≠ some '/' := by
  obtain ⟨before, last, rfl⟩ := (List.eq_nil_or_concat segments).resolve_left some_segment
  rw [List.concat_eq_append] at proper ⊢
  have own : Proper last := proper last (by simp)
  obtain ⟨front, final, rfl⟩ := (List.eq_nil_or_concat last).resolve_left own.ne_nil
  rw [List.concat_eq_append] at own ⊢
  have ends : (render (before ++ [front ++ [final]])).getLast? = some final := by
    rw [render_of_ne_nil (by simp), List.flatMap_append, List.flatMap_singleton, ← List.cons_append,
      ← List.append_assoc, List.getLast?_concat]
  rw [ends]
  rintro same
  exact own.slashless (by simp [Option.some.inj same])

theorem clean_eq_root_iff {raw : String} : clean raw = "/" ↔ cleanSegments raw.toList = [] := by
  constructor
  · intro root
    have read := cleanSegments_clean raw
    rw [root] at read
    exact read.symm
  · intro none
    apply String.toList_inj.mp
    rw [toList_clean, none]
    rfl

/-- **A cleaned path is the lexical normal form**: a slash in front of each segment that survives, in
their order, or the root if none does. It begins with a slash, ends in one only if it is the root,
its segments are those that survive, and it is clean. -/
theorem clean_is_lexical (raw : String) :
    words (clean raw) = survivors (pieces raw.toList)
      ∧ (clean raw).toList
        = (if survivors (pieces raw.toList) = [] then ['/']
          else (survivors (pieces raw.toList)).flatMap ('/' :: ·))
      ∧ (clean raw).toList.head? = some '/'
      ∧ (clean raw = "/" ↔ ∀ position, ¬ Survives (pieces raw.toList) position)
      ∧ ((clean raw).toList.getLast? = some '/' ↔ clean raw = "/")
      ∧ clean (clean raw) = clean raw := by
  have left : cleanSegments raw.toList = survivors (pieces raw.toList) :=
    cleanSegments_eq_survivors _
  have written := toList_clean raw
  refine ⟨(words_clean raw).trans left, ?_, ?_, ?_, ?_, clean_clean raw⟩
  · rw [written, left]
    exact if_congr List.isEmpty_iff rfl rfl
  · rw [written]
    exact head?_render _
  · rw [clean_eq_root_iff, left]
    exact survivors_eq_nil_iff
  · constructor
    · intro slash
      by_contra named
      rw [written] at slash
      exact getLast?_render_ne (mt clean_eq_root_iff.mpr named)
        (fun _ => proper_of_mem_cleanSegments) slash
    · intro root
      rw [root]
      rfl

/-- Two `..` lead out of `b` and `a`, and the third one stays at the root. -/
example : survivors (pieces "a/b/.././/../../c/d/".toList) = ["c".toList, "d".toList] := by
  decide

end Switchboard.Path
