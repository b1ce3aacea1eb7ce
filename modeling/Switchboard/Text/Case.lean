/-
**Letter case.**

Case is changed for the ASCII letters alone; every other character stays as it is.

* `lower_lower`: a text in lower case stays as it is.
-/

namespace Switchboard.Text

/-- The ASCII letters of a text in upper case. -/
def upper (text : String) : String :=
  String.ofList (text.toList.map Char.toUpper)

/-- The ASCII letters of a text in lower case. -/
def lower (text : String) : String :=
  String.ofList (text.toList.map Char.toLower)

/-- A character in lower case stays as it is. -/
theorem toLower_toLower (character : Char) :
    character.toLower.toLower = character.toLower := by
  unfold Char.toLower
  grind

/-- A text in lower case stays as it is. -/
theorem lower_lower (text : String) : lower (lower text) = lower text := by
  have same : Char.toLower ∘ Char.toLower = Char.toLower := funext toLower_toLower
  simp [lower, same]

end Switchboard.Text
