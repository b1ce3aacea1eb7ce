/-
**Sorting texts.**

* `not_precedes_of_precedes`, `not_precedes_trans` — the order of texts, negated;
* `insertBy_perm`, `sortBy_perm` — **sorting loses nothing**, and neither does dropping a value
  that stands beside its equal, `mem_dedupAdjacent`;
* `sublist_insertBy` — an insertion leaves the others in their order;
* `Ascending.insertBy` — **a value with a new key goes where the order wants it**;
* `ascending_dedupAdjacent_sortBy` — **texts that are sorted and freed of repetitions** are in
  ascending order;
* `Ascending.eq_of_mem_iff` — ascending lists of the same values are the same list.
-/

import Switchboard.Text.Order

namespace Switchboard.Text

/-! ### The order of texts, negated -/

theorem not_precedes_of_precedes {first second : String} (before : precedes first second = true) :
    precedes second first = false := by
  cases behind : precedes second first with
  | false => rfl
  | true => exact absurd (precedes_trans before behind) (by simp [precedes_irrefl])

theorem not_precedes_trans {first second third : String}
    (left : precedes second first = false) (right : precedes third second = false) :
    precedes third first = false := by
  by_cases same : second = first
  · rw [← same]
    exact right
  · rcases precedes_or_precedes same with before | before
    · rw [left] at before
      cases before
    · cases behind : precedes third first with
      | false => rfl
      | true => rw [precedes_trans behind before] at right; cases right

/-! ### Nothing is lost -/

variable {α : Type}

/-- A value joins the others, wherever it is put. -/
theorem insertBy_perm (key : α → String) (value : α) (values : List α) :
    (insertBy key value values).Perm (value :: values) := by
  induction values with
  | nil => exact List.Perm.refl _
  | cons head tail hypothesis =>
    rw [insertBy]
    split
    · exact (hypothesis.cons _).trans (List.Perm.swap _ _ _)
    · exact List.Perm.refl _

theorem sublist_insertBy (key : α → String) (value : α) (values : List α) :
    values.Sublist (insertBy key value values) := by
  induction values with
  | nil => exact List.nil_sublist _
  | cons head tail hypothesis =>
    rw [insertBy]
    split
    · exact hypothesis.cons_cons _
    · exact List.sublist_cons_self _ _

theorem sortBy_perm (key : α → String) (values : List α) :
    (sortBy key values).Perm values := by
  induction values with
  | nil => exact List.Perm.refl _
  | cons head tail hypothesis =>
    show (insertBy key head (sortBy key tail)).Perm (head :: tail)
    exact (insertBy_perm key head _).trans (hypothesis.cons head)

theorem mem_dedupAdjacent [DecidableEq α] (values : List α) (other : α) :
    other ∈ dedupAdjacent values ↔ other ∈ values := by
  fun_induction dedupAdjacent values with
  | case1 => rfl
  | case2 value => rfl
  | case3 second rest hypothesis =>
    rw [hypothesis]
    simp
  | case4 first second rest different hypothesis =>
    rw [List.mem_cons, hypothesis, List.mem_cons, List.mem_cons, List.mem_cons]

/-! ### Nothing is out of order -/

/-- The keys stand in strictly ascending byte order. -/
def Ascending (key : α → String) (values : List α) : Prop :=
  values.Pairwise fun first second => precedes (key first) (key second) = true

theorem Ascending.insertBy {key : α → String} {values : List α} (ascending : Ascending key values)
    {value : α} (absent : ∀ other ∈ values, key other ≠ key value) :
    Ascending key (insertBy key value values) := by
  induction values with
  | nil => exact List.pairwise_singleton _ _
  | cons head tail hypothesis =>
    obtain ⟨first, rest⟩ := List.pairwise_cons.mp ascending
    have inserted := hypothesis rest fun other member => absent other (List.mem_cons_of_mem _ member)
    rw [Text.insertBy]
    split
    · rename_i before
      refine List.pairwise_cons.mpr ⟨fun other member => ?_, inserted⟩
      rcases List.mem_cons.mp ((insertBy_perm key value tail).mem_iff.mp member) with rfl | old
      · exact before
      · exact first other old
    · rename_i notBefore
      -- the keys differ, so the value stands before the head and thereby before all of the tail
      have before : precedes (key value) (key head) = true :=
        (precedes_or_precedes (absent head List.mem_cons_self)).resolve_left notBefore
      refine List.pairwise_cons.mpr ⟨fun other member => ?_, ascending⟩
      rcases List.mem_cons.mp member with rfl | old
      · exact before
      · exact precedes_trans before (first other old)

/-- A value that is put in its place leaves the others in order. -/
theorem pairwise_insertBy {key : α → String} {values : List α}
    (sorted : values.Pairwise fun first second => precedes (key second) (key first) = false)
    (value : α) :
    (insertBy key value values).Pairwise fun first second =>
      precedes (key second) (key first) = false := by
  induction values with
  | nil => exact List.pairwise_singleton _ _
  | cons head tail hypothesis =>
    obtain ⟨first, rest⟩ := List.pairwise_cons.mp sorted
    rw [insertBy]
    split
    · rename_i before
      refine List.pairwise_cons.mpr ⟨fun other member => ?_, hypothesis rest⟩
      rcases List.mem_cons.mp ((insertBy_perm key value tail).mem_iff.mp member) with rfl | old
      · exact not_precedes_of_precedes before
      · exact first other old
    · rename_i notBefore
      have behind : precedes (key head) (key value) = false := Bool.eq_false_iff.mpr notBefore
      refine List.pairwise_cons.mpr ⟨fun other member => ?_, sorted⟩
      rcases List.mem_cons.mp member with rfl | old
      · exact behind
      · exact not_precedes_trans behind (first other old)

theorem pairwise_sortBy (key : α → String) (values : List α) :
    (sortBy key values).Pairwise fun first second => precedes (key second) (key first) = false := by
  induction values with
  | nil => exact List.Pairwise.nil
  | cons head tail hypothesis => exact pairwise_insertBy hypothesis head

theorem ascending_dedupAdjacent {texts : List String}
    (sorted : texts.Pairwise fun first second => precedes second first = false) :
    Ascending id (dedupAdjacent texts) := by
  fun_induction dedupAdjacent texts with
  | case1 => exact List.Pairwise.nil
  | case2 text => exact List.pairwise_singleton _ _
  | case3 second rest hypothesis => exact hypothesis (List.pairwise_cons.mp sorted).2
  | case4 first second rest different hypothesis =>
    obtain ⟨behind, others⟩ := List.pairwise_cons.mp sorted
    have before : precedes first second = true :=
      (precedes_or_precedes different).resolve_right
        (Bool.eq_false_iff.mp (behind second List.mem_cons_self))
    refine List.pairwise_cons.mpr ⟨fun other member => ?_, hypothesis others⟩
    rcases List.mem_cons.mp ((mem_dedupAdjacent _ _).mp member) with rfl | old
    · exact before
    · -- nothing behind the second text stands before it
      by_cases same : second = other
      · exact same ▸ before
      · have later := (List.pairwise_cons.mp others).1 other old
        exact precedes_trans before
          ((precedes_or_precedes same).resolve_right (Bool.eq_false_iff.mp later))

/-- **Texts that are sorted and freed of repetitions** are in ascending order. -/
theorem ascending_dedupAdjacent_sortBy (texts : List String) :
    Ascending id (dedupAdjacent (sortBy id texts)) :=
  ascending_dedupAdjacent (pairwise_sortBy id texts)

theorem Ascending.nodup {key : α → String} {values : List α} (ascending : Ascending key values) :
    values.Nodup := by
  refine ascending.imp fun {left right} before equal => ?_
  rw [equal, precedes_irrefl] at before
  cases before

/-- **Ascending lists of the same values** are the same list. -/
theorem Ascending.eq_of_mem_iff {key : α → String} {first second : List α}
    (one : Ascending key first) (other : Ascending key second)
    (same : ∀ value, value ∈ first ↔ value ∈ second) : first = second := by
  have perm := (List.perm_ext_iff_of_nodup one.nodup other.nodup).mpr same
  refine perm.eq_of_pairwise (fun left right _ _ before behind => ?_) one other
  rw [not_precedes_of_precedes before] at behind
  cases behind

end Switchboard.Text
