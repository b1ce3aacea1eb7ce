/-
**Splitting at a mark.**

A sequence is cut at every occurrence of a mark; the pieces between the marks are kept, empty ones
too, so there is always one piece more than there are marks.

* `split_ne_nil`: there is at least one piece;
* `not_mem_of_mem_split`: no piece holds the mark;
* `intercalate_split`: joining the pieces with the mark gives the sequence back;
* `split_append`: a sequence is cut on both sides of a mark on its own;
* `split_intercalate`: pieces joined with the mark are cut apart again;
* `split_append_of_pieces`: joined without a mark, two pieces become one.
-/

namespace Switchboard.Text

variable {α : Type} [DecidableEq α]

/-- The pieces of a sequence between the occurrences of a mark. -/
def split (mark : α) : List α → List (List α)
  | [] => [[]]
  | head :: tail =>
    if head = mark then [] :: split mark tail
    else match split mark tail with
      | [] => [[head]]
      | piece :: pieces => (head :: piece) :: pieces

/-- The part before the first mark, and the part behind it if there is a mark. -/
def splitFirst (mark : α) : List α → List α × Option (List α)
  | [] => ([], none)
  | head :: tail =>
    if head = mark then ([], some tail)
    else
      let (before, behind) := splitFirst mark tail
      (head :: before, behind)

/-- There is at least one piece. -/
theorem split_ne_nil (mark : α) (values : List α) : split mark values ≠ [] := by
  cases values with
  | nil => simp [split]
  | cons head tail =>
    rw [split]
    split
    · simp
    · split <;> simp

/-- No piece holds the mark. -/
theorem not_mem_of_mem_split (mark : α) (values : List α) :
    ∀ piece ∈ split mark values, mark ∉ piece := by
  induction values with
  | nil => simp [split]
  | cons head tail hypothesis =>
    rw [split]
    split
    · simpa using hypothesis
    · rename_i different
      split
      · simpa using fun equal => different equal.symm
      · rename_i piece pieces parts
        simp only [parts, List.mem_cons, forall_eq_or_imp] at hypothesis
        simp only [List.mem_cons, forall_eq_or_imp]
        exact ⟨by simpa [hypothesis.1] using fun equal => different equal.symm, hypothesis.2⟩

/-- Joining the pieces with the mark gives the sequence back. -/
theorem intercalate_split (mark : α) (values : List α) :
    [mark].intercalate (split mark values) = values := by
  induction values with
  | nil => simp [split, List.intercalate]
  | cons head tail hypothesis =>
    have some_piece := split_ne_nil mark tail
    rw [split]
    cases parts : split mark tail with
    | nil => exact absurd parts some_piece
    | cons piece pieces =>
      rw [parts] at hypothesis
      by_cases equal : head = mark
      · subst equal
        cases pieces <;> simp_all [List.intercalate]
      · cases pieces <;> simp_all [List.intercalate]

/-! ### Cutting joined texts -/

theorem split_of_not_mem {values : List α} {mark : α} (absent : mark ∉ values) :
    split mark values = [values] := by
  induction values with
  | nil => rfl
  | cons head tail hypothesis =>
    obtain ⟨different, rest⟩ := not_or.mp (mt List.mem_cons.mpr absent)
    rw [split, if_neg (Ne.symm different), hypothesis rest]

/-- A sequence is cut on both sides of a mark on its own. -/
theorem split_append (mark : α) (first second : List α) :
    split mark (first ++ mark :: second) = split mark first ++ split mark second := by
  induction first with
  | nil =>
    show split mark (mark :: second) = [] :: split mark second
    rw [split, if_pos rfl]
  | cons head tail hypothesis =>
    rw [List.cons_append, split, split, hypothesis]
    by_cases same : head = mark
    · rw [if_pos same, if_pos same, List.cons_append]
    · rw [if_neg same, if_neg same]
      cases parts : split mark tail with
      | nil => exact absurd parts (split_ne_nil mark tail)
      | cons piece pieces => rfl

/-- Texts that each stand behind a mark are cut apart again. -/
theorem split_append_flatMap {mark : α} {texts : List (List α)} (first : List α)
    (free : ∀ text ∈ texts, mark ∉ text) :
    split mark (first ++ texts.flatMap (mark :: ·)) = split mark first ++ texts := by
  induction texts generalizing first with
  | nil => rw [List.flatMap_nil, List.append_nil, List.append_nil]
  | cons text rest hypothesis =>
    have alone := split_of_not_mem (free text List.mem_cons_self)
    have others := hypothesis text fun other member => free other (List.mem_cons_of_mem _ member)
    rw [List.flatMap_cons, List.cons_append, split_append, others, alone]
    rfl

/-- Pieces without the mark are cut apart again when the mark joins them. -/
theorem split_intercalate {mark : α} {first : List α} {rest : List (List α)}
    (free : ∀ text ∈ first :: rest, mark ∉ text) :
    split mark ([mark].intercalate (first :: rest)) = first :: rest := by
  induction rest generalizing first with
  | nil =>
    rw [List.intercalate_singleton]
    exact split_of_not_mem (free first List.mem_cons_self)
  | cons second rest hypothesis =>
    rw [List.intercalate_cons_cons, List.append_assoc, List.singleton_append, split_append,
      split_of_not_mem (free first List.mem_cons_self),
      hypothesis fun text member => free text (List.mem_cons_of_mem _ member)]
    rfl

/-- Of two sequences joined without a mark, the last piece of the first and the first piece of the
second become one. -/
theorem split_append_of_pieces {mark : α} {first second last head : List α}
    {before tail : List (List α)} (cut : split mark first = before ++ [last])
    (cutToo : split mark second = head :: tail) :
    split mark (first ++ second) = before ++ (last ++ head) :: tail := by
  induction first generalizing before last with
  | nil =>
    have same : ([] : List (List α)) ++ [[]] = before ++ [last] := cut
    obtain ⟨rfl, alone⟩ := List.append_inj' same rfl
    cases alone
    exact cutToo
  | cons character rest hypothesis =>
    obtain ⟨others, inner, parts⟩ :=
      (List.eq_nil_or_concat (split mark rest)).resolve_left (split_ne_nil mark rest)
    rw [List.concat_eq_append] at parts
    have joined := hypothesis parts
    rw [split] at cut
    rw [List.cons_append, split, joined]
    by_cases here : character = mark
    · rw [if_pos here, parts, ← List.cons_append] at cut
      obtain ⟨rfl, alone⟩ := List.append_inj' cut rfl
      cases alone
      rw [if_pos here]
      rfl
    · rw [if_neg here, parts] at cut
      rw [if_neg here]
      -- the character goes to the first piece, which is the last one if there is no other
      cases others with
      | nil =>
        have same : ([] : List (List α)) ++ [character :: inner] = before ++ [last] := cut
        obtain ⟨rfl, alone⟩ := List.append_inj' same rfl
        cases alone
        rfl
      | cons piece others =>
        have same : ((character :: piece) :: others) ++ [inner] = before ++ [last] := cut
        obtain ⟨rfl, alone⟩ := List.append_inj' same rfl
        cases alone
        rfl

end Switchboard.Text
