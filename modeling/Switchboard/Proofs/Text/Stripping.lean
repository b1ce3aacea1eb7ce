/-
**Stripping both ends.**

Values of one kind are dropped at both ends of a list, and kept further inside.

* `exists_trimBy` — what is dropped stands around what is left;
* `trimBy_append` — **what is kept is left** when dropped values stand around it;
* `trimBy_trimBy` — nothing is dropped a second time;
* `trimBy_eq_nil_iff` — nothing is left where all is dropped;
* `trimBy_map` — a change that is blind for dropping can be made before or after.
-/

import Switchboard.Text.Blank
import Mathlib.Data.List.Basic
import Mathlib.Data.List.DropRight
import Mathlib.Data.List.TakeWhile

namespace Switchboard.Text

variable {α : Type} {drops : α → Bool}

/-- What is dropped at the ends of values stands around what is left of them. -/
theorem exists_trimBy (drops : α → Bool) (values : List α) :
    ∃ front back, values = front ++ trimBy drops values ++ back
      ∧ (∀ value ∈ front, drops value = true) ∧ ∀ value ∈ back, drops value = true := by
  let behind := (values.dropWhile drops).reverse
  have cut : trimBy drops values ++ (behind.takeWhile drops).reverse
      = values.dropWhile drops := by
    show (behind.dropWhile drops).reverse ++ (behind.takeWhile drops).reverse = _
    rw [← List.reverse_append, List.takeWhile_append_dropWhile, List.reverse_reverse]
  refine ⟨values.takeWhile drops, (behind.takeWhile drops).reverse, ?_,
    fun value => List.mem_takeWhile_imp,
    fun value member => List.mem_takeWhile_imp (List.mem_reverse.mp member)⟩
  rw [List.append_assoc, cut, List.takeWhile_append_dropWhile]

theorem dropWhile_append_of_kept {front middle : List α} (back : List α)
    (dropped : ∀ value ∈ front, drops value = true)
    (kept : ∀ value ∈ middle, drops value = false) (some_kept : middle ≠ []) :
    (front ++ (middle ++ back)).dropWhile drops = middle ++ back := by
  rw [List.dropWhile_append_of_pos dropped]
  obtain ⟨head, tail, rfl⟩ := List.exists_cons_of_ne_nil some_kept
  rw [List.cons_append, List.dropWhile_cons_of_neg (by simp [kept head])]

/-- **What is kept is left** when dropped values stand around it. -/
theorem trimBy_append {front middle back : List α} (first : ∀ value ∈ front, drops value = true)
    (last : ∀ value ∈ back, drops value = true) (kept : ∀ value ∈ middle, drops value = false)
    (some_kept : middle ≠ []) : trimBy drops (front ++ middle ++ back) = middle := by
  have lastToo : ∀ value ∈ back.reverse, drops value = true :=
    fun value member => last value (List.mem_reverse.mp member)
  have keptToo : ∀ value ∈ middle.reverse, drops value = false :=
    fun value member => kept value (List.mem_reverse.mp member)
  have stripped := dropWhile_append_of_kept [] lastToo keptToo
    (mt List.reverse_eq_nil_iff.mp some_kept)
  rw [List.append_nil] at stripped
  unfold trimBy
  rw [List.append_assoc, dropWhile_append_of_kept back first kept some_kept, List.reverse_append,
    stripped, List.reverse_reverse]

/-- Stripping drops nothing that it has left before. -/
theorem trimBy_trimBy (drops : α → Bool) (values : List α) :
    trimBy drops (trimBy drops values) = trimBy drops values := by
  show ((trimBy drops values).dropWhile drops).rdropWhile drops = trimBy drops values
  have front : (trimBy drops values).dropWhile drops = trimBy drops values := by
    have leading : trimBy drops values <+: values.dropWhile drops := List.rdropWhile_prefix drops _
    rw [List.dropWhile_eq_self_iff]
    intro some
    obtain ⟨behind, whole⟩ := leading
    have stopped := List.dropWhile_get_zero_not drops values (by
      rw [← whole, List.length_append]
      omega)
    simpa [← whole, List.getElem_append_left some] using stopped
  rw [front]
  exact List.rdropWhile_idempotent drops _

/-- Nothing is left where there is nothing else to drop. -/
theorem trimBy_eq_nil_iff {values : List α} :
    trimBy drops values = [] ↔ ∀ value ∈ values, drops value = true := by
  constructor
  · intro none value member
    obtain ⟨front, back, whole, first, last⟩ := exists_trimBy drops values
    rw [none, List.append_nil] at whole
    rw [whole] at member
    exact (List.mem_append.mp member).elim (first value) (last value)
  · intro dropped
    show (values.dropWhile drops).rdropWhile drops = []
    rw [List.rdropWhile_eq_nil_iff]
    exact fun value member => dropped value ((List.dropWhile_sublist drops).subset member)

/-- Changing what is kept the same way for dropping can be done before or after stripping. -/
theorem trimBy_map {change : α → α} (blind : ∀ value, drops (change value) = drops value)
    (values : List α) :
    trimBy drops (values.map change) = (trimBy drops values).map change := by
  have same : drops ∘ change = drops := funext blind
  unfold trimBy
  rw [List.dropWhile_map, same, ← List.map_reverse, List.dropWhile_map, same, ← List.map_reverse]

end Switchboard.Text
