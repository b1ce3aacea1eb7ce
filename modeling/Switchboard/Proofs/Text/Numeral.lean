/-
**Numbers in texts.**

A number is read from a text that is stripped of the blanks at its ends. What is left has to be
digits, behind a plus sign at most, and the number is the one that they stand for in base ten.

* `decimal` — the number that digits stand for;
* `readDigits?_eq_some_iff` — digits are read as the number that they stand for;
* `readDigits?_trim_eq_some_iff` — **a number is read** from a numeral with blanks around it;
* `readWord?_eq_some_iff` — of these numbers, a word of 64 bits is one that is not too large.
-/

import Switchboard.Proofs.Text.Stripping
import Switchboard.Text.Number
import Mathlib.Data.Nat.Digits.Defs

namespace Switchboard.Text

/-! ### Digits -/

/-- The number that digits stand for in base ten, the units last. -/
def decimal (digits : List Nat) : Nat :=
  Nat.ofDigits 10 digits.reverse

/-- The number that a digit stands for. -/
def valueOf (digit : Char) : Nat :=
  digit.toNat - 48

theorem foldl_eq_decimal (digits : List Char) :
    digits.foldl (fun number digit => 10 * number + (digit.toNat - '0'.toNat)) 0
      = decimal (digits.map valueOf) := by
  unfold decimal
  rw [Nat.ofDigits_eq_foldr, List.foldr_reverse, List.foldl_map]
  congr 1
  funext number digit
  exact Nat.add_comm _ _

theorem readDigits?_eq_some_iff {digits : List Char} {number : Nat} :
    readDigits? digits = some number ↔ digits ≠ [] ∧ (∀ digit ∈ digits, digit.isDigit = true)
      ∧ decimal (digits.map valueOf) = number := by
  unfold readDigits?
  rw [foldl_eq_decimal, Option.ite_none_left_eq_some, Option.some_inj]
  simp only [Bool.or_eq_true, not_or, List.isEmpty_iff, Bool.not_eq_true', Bool.not_eq_false,
    List.all_eq_true, and_assoc, ne_eq]

theorem dropPlus_of_isDigit {digits : List Char} (digit : ∀ digit ∈ digits, digit.isDigit = true) :
    dropPlus digits = digits := by
  unfold dropPlus
  split
  · exact absurd (digit '+' List.mem_cons_self) (by decide)
  · rfl

/-! ### Numerals -/

/-- A text is a number in digits, behind a plus sign at most. -/
structure Numeral (sign digits text : List Char) (number : Nat) : Prop where
  signed : sign = [] ∨ sign = ['+']
  text : text = sign ++ digits
  some_digit : digits ≠ []
  digit : ∀ digit ∈ digits, digit.isDigit = true
  value : decimal (digits.map valueOf) = number

theorem readDigits?_dropPlus_eq_some_iff {text : List Char} {number : Nat} :
    readDigits? (dropPlus text) = some number ↔ ∃ sign digits, Numeral sign digits text number := by
  constructor
  · unfold dropPlus
    split
    · rename_i digits
      intro read
      obtain ⟨some_digit, digit, value⟩ := readDigits?_eq_some_iff.mp read
      exact ⟨['+'], digits, .inr rfl, rfl, some_digit, digit, value⟩
    · intro read
      obtain ⟨some_digit, digit, value⟩ := readDigits?_eq_some_iff.mp read
      exact ⟨[], text, .inl rfl, rfl, some_digit, digit, value⟩
  · rintro ⟨sign, digits, signed, rfl, some_digit, digit, value⟩
    have read := readDigits?_eq_some_iff.mpr ⟨some_digit, digit, value⟩
    rcases signed with rfl | rfl
    · rw [List.nil_append, dropPlus_of_isDigit digit]
      exact read
    · exact read

theorem readWord?_eq_some_iff {text : List Char} {number : Nat} :
    readWord? text = some number
      ↔ readDigits? (dropPlus text) = some number ∧ number ≤ greatestWord := by
  unfold readWord?
  cases readDigits? (dropPlus text) with
  | none => simp
  | some found =>
    simp only [Option.ite_none_right_eq_some, Option.some_inj]
    constructor
    · rintro ⟨fits, rfl⟩
      exact ⟨rfl, fits⟩
    · rintro ⟨rfl, fits⟩
      exact ⟨fits, rfl⟩

theorem isBlank_of_isDigit {character : Char} (digit : character.isDigit = true) :
    isBlank character = false := by
  unfold Char.isDigit at digit
  rw [Bool.and_eq_true, decide_eq_true_eq, decide_eq_true_eq] at digit
  have low : 48 ≤ character.toNat := UInt32.le_iff_toNat_le.mp digit.1
  have high : character.toNat ≤ 57 := UInt32.le_iff_toNat_le.mp digit.2
  unfold isBlank
  simp only [Bool.or_eq_false_iff, Bool.and_eq_false_iff, decide_eq_false_iff_not,
    beq_eq_false_iff_ne]
  omega

namespace Numeral

variable {sign digits text : List Char} {number : Nat}

theorem ne_nil (numeral : Numeral sign digits text number) : text ≠ [] := by
  rw [numeral.text]
  exact mt (fun none => (List.append_eq_nil_iff.mp none).2) numeral.some_digit

/-- No blank stands in a numeral. -/
theorem isBlank_eq_false (numeral : Numeral sign digits text number) :
    ∀ character ∈ text, isBlank character = false := by
  intro character member
  rw [numeral.text] at member
  rcases List.mem_append.mp member with inSign | inDigits
  · rcases numeral.signed with rfl | rfl
    · cases inSign
    · rw [List.mem_singleton.mp inSign]
      decide
  · exact isBlank_of_isDigit (numeral.digit character inDigits)

end Numeral

/-- **A number is read** from a stripped text exactly if the text is a numeral with blanks around
it. -/
theorem readDigits?_trim_eq_some_iff {text : String} {number : Nat} :
    readDigits? (dropPlus (trim text).toList) = some number
      ↔ ∃ front sign digits middle back, text.toList = front ++ middle ++ back
        ∧ (∀ character ∈ front, isBlank character = true)
        ∧ (∀ character ∈ back, isBlank character = true)
        ∧ Numeral sign digits middle number := by
  unfold trim
  rw [String.toList_ofList, readDigits?_dropPlus_eq_some_iff]
  constructor
  · rintro ⟨sign, digits, numeral⟩
    obtain ⟨front, back, whole, first, last⟩ := exists_trimBy isBlank text.toList
    exact ⟨front, sign, digits, _, back, whole, first, last, numeral⟩
  · rintro ⟨front, sign, digits, middle, back, whole, first, last, numeral⟩
    rw [whole, trimBy_append first last numeral.isBlank_eq_false numeral.ne_nil]
    exact ⟨sign, digits, numeral⟩

end Switchboard.Text
