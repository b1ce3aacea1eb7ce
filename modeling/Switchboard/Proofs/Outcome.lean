/-
**One step after another.**

A step that may fail gives an answer or a fault. Steps stand behind one another in builders and in
readers, and an account of what came out is an account of the steps.

* `ok_bind` — behind a step that answers stands the next one;
* `bind_eq_ok_iff`, `bind_eq_error_iff` — **what two steps answer**, and which of them is at fault;
* `bind_pure_eq_error_iff`, `map_eq_ok_iff` — the same where the second step cannot fail.
-/

namespace Switchboard

variable {ε α β : Type} {first : Except ε α} {next : α → Except ε β}

theorem ok_bind (found : α) (next : α → Except ε β) : Except.ok found >>= next = next found :=
  rfl

theorem bind_eq_ok_iff {value : β} :
    first >>= next = .ok value ↔ ∃ found, first = .ok found ∧ next found = .ok value := by
  cases first with
  | error fault => exact ⟨nofun, nofun⟩
  | ok found =>
    constructor
    · exact fun reached => ⟨found, rfl, reached⟩
    · rintro ⟨_, ⟨⟩, reached⟩
      exact reached

/-- The first step is at fault, or the next behind it. -/
theorem bind_eq_error_iff {fault : ε} :
    first >>= next = .error fault
      ↔ first = .error fault ∨ ∃ found, first = .ok found ∧ next found = .error fault := by
  cases first with
  | error own =>
    constructor
    · rintro ⟨⟩
      exact .inl rfl
    · rintro (⟨⟨⟩⟩ | ⟨_, ⟨⟩, _⟩)
      rfl
  | ok found =>
    constructor
    · exact fun refused => .inr ⟨found, rfl, refused⟩
    · rintro (⟨⟨⟩⟩ | ⟨_, ⟨⟩, refused⟩)
      exact refused

/-- What is made of the answer of a step has no fault of its own. -/
theorem bind_pure_eq_error_iff {make : α → β} {fault : ε} :
    (first >>= fun found => pure (make found)) = .error fault ↔ first = .error fault := by
  rw [bind_eq_error_iff]
  exact or_iff_left fun ⟨_, _, made⟩ => nomatch made

theorem map_eq_ok_iff {make : α → β} {value : β} :
    first.map make = .ok value ↔ ∃ found, first = .ok found ∧ make found = value := by
  cases first with
  | error fault => exact ⟨nofun, nofun⟩
  | ok found =>
    constructor
    · rintro ⟨⟩
      exact ⟨found, rfl, rfl⟩
    · rintro ⟨_, ⟨⟩, rfl⟩
      rfl

end Switchboard
