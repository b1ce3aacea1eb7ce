/-
**Blank characters.**

The characters with the Unicode property `White_Space`, and texts stripped of them at both ends.

* `isBlank_of_isWhitespace`: the ASCII white space of the core library is blank;
* `trimBy_of_kept`: nothing is stripped where nothing is dropped.
-/

namespace Switchboard.Text

/-- The character has the property `White_Space`. -/
def isBlank (character : Char) : Bool :=
  let code := character.toNat
  (9 ≤ code && code ≤ 13) || code == 0x20 || code == 0x85 || code == 0xA0 || code == 0x1680
    || (0x2000 ≤ code && code ≤ 0x200A) || code == 0x2028 || code == 0x2029 || code == 0x202F
    || code == 0x205F || code == 0x3000

/-- White space of the core library is blank. -/
theorem isBlank_of_isWhitespace {character : Char} (white : character.isWhitespace = true) :
    isBlank character = true := by
  simp only [Char.isWhitespace, Bool.or_eq_true, decide_eq_true_eq] at white
  rcases white with ((white | white) | white) | white <;> subst white <;> decide

/-- Drop the characters of one kind at both ends. -/
def trimBy (drops : α → Bool) (values : List α) : List α :=
  ((values.dropWhile drops).reverse.dropWhile drops).reverse

/-- Nothing is stripped where no blank is. -/
theorem trimBy_of_kept {α : Type} {drops : α → Bool} {values : List α}
    (kept : ∀ value ∈ values, drops value = false) : trimBy drops values = values := by
  have front : ∀ values : List α, (∀ value ∈ values, drops value = false) →
      values.dropWhile drops = values := by
    intro values kept
    cases values with
    | nil => rfl
    | cons head tail => rw [List.dropWhile_cons_of_neg (by simp [kept head])]
  unfold trimBy
  rw [front values kept, front values.reverse (fun value member =>
    kept value (List.mem_reverse.mp member)), List.reverse_reverse]

/-- A text without the blanks at its ends. -/
def trim (text : String) : String :=
  String.ofList (trimBy isBlank text.toList)

end Switchboard.Text
