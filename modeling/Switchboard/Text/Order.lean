/-
**The order of texts.**

Identities, object keys and header names are listed in the order of their UTF-8 bytes.

* `precedes_irrefl`, `precedes_trans`: the order is strict;
* `bytes_injective`: texts with the same bytes are the same text, so the order separates them.
-/

namespace Switchboard.Text

/-- The UTF-8 bytes of a text. -/
def bytes (text : String) : List UInt8 :=
  text.toByteArray.data.toList

/-- One text stands strictly before another in byte order. -/
def precedes (first second : String) : Bool :=
  decide (bytes first < bytes second)

/-- A text is determined by its bytes. -/
theorem bytes_injective {first second : String} (equal : bytes first = bytes second) :
    first = second := by
  apply String.toByteArray_inj.mp
  exact ByteArray.ext (Array.toList_inj.mp equal)

/-- No text stands before itself. -/
theorem precedes_irrefl (text : String) : precedes text text = false := by
  simp [precedes, List.lt_irrefl]

/-- Standing before is transitive. -/
theorem precedes_trans {first second third : String} (left : precedes first second = true)
    (right : precedes second third = true) : precedes first third = true := by
  simp only [precedes, decide_eq_true_eq] at *
  exact List.lt_trans left right

/-- Of two different texts one stands before the other. -/
theorem precedes_or_precedes {first second : String} (different : first ≠ second) :
    precedes first second = true ∨ precedes second first = true := by
  simp only [precedes, decide_eq_true_eq]
  by_cases less : bytes first < bytes second
  · exact Or.inl less
  · refine Or.inr (Decidable.byContradiction fun more => different (bytes_injective ?_))
    exact List.le_antisymm (List.not_lt.mp more) (List.not_lt.mp less)

/-! ### Keeping a list in order -/

/-- Put a value behind every value whose key stands before its own. -/
def insertBy (key : α → String) (value : α) : List α → List α
  | [] => [value]
  | head :: tail =>
    if precedes (key head) (key value) then head :: insertBy key value tail
    else value :: head :: tail

/-- Sort by byte order of the key, keeping the order of values whose keys agree. -/
def sortBy (key : α → String) (values : List α) : List α :=
  values.foldr (insertBy key) []

/-- Drop each value that equals the one before it. -/
def dedupAdjacent [DecidableEq α] : List α → List α
  | [] => []
  | [value] => [value]
  | first :: second :: rest =>
    if first = second then dedupAdjacent (second :: rest)
    else first :: dedupAdjacent (second :: rest)

end Switchboard.Text
