/-
**Lists of tokens in field values.**

A list of tokens is sent as one text, with a comma and a blank between them. Tokens are visible
ASCII and hold neither, so the text is a field value, and its members are the tokens again.

* `Text.bytes_eq_flatMap` — the bytes of a text are those of its characters;
* `Text.bytes_of_visible` — a visible character is one byte;
* `FieldValue.exists_ofString?_of_visible` — **a visible text is a field value** that is read back
  as it;
* `members_intercalate` — **the members of a list of tokens** are the tokens in their order.
-/

import Switchboard.Http.Header
import Switchboard.Text.Blank
import Switchboard.Text.Split
import Mathlib.Data.List.Basic

namespace Switchboard

/-! ### Visible characters -/

namespace Text

/-- The character is printed in ASCII, or is the blank. -/
def isVisible (character : Char) : Bool :=
  decide (32 ≤ character.toNat) && decide (character.toNat < 127)

/-- What holds of the visible characters, checked one by one, holds of each. -/
theorem visible_forall (property : Char → Prop)
    (holds : ∀ code, code < 127 → 32 ≤ code → property (Char.ofNat code)) {character : Char}
    (visible : isVisible character = true) : property character := by
  unfold isVisible at visible
  rw [Bool.and_eq_true, decide_eq_true_eq, decide_eq_true_eq] at visible
  have checked := holds character.toNat visible.2 visible.1
  rw [Char.ofNat_toNat] at checked
  exact checked

/-- The byte of a visible character. -/
def octetOf (character : Char) : UInt8 :=
  UInt8.ofNat character.toNat

theorem utf8EncodeChar_of_visible {character : Char} (visible : isVisible character = true) :
    String.utf8EncodeChar character = [octetOf character] :=
  visible_forall (fun character => String.utf8EncodeChar character = [octetOf character])
    (by decide +kernel) visible

theorem bytes_eq_flatMap (text : String) :
    bytes text = text.toList.flatMap String.utf8EncodeChar := by
  unfold bytes
  rw [← String.utf8Encode_toList, List.utf8Encode, List.data_toByteArray, List.toList_toArray]

theorem bytes_of_visible {text : String}
    (visible : ∀ character ∈ text.toList, isVisible character = true) :
    bytes text = text.toList.map octetOf := by
  rw [bytes_eq_flatMap, ← List.flatMap_pure_eq_map]
  exact List.flatMap_congr fun character member =>
    utf8EncodeChar_of_visible (visible character member)

end Text

namespace Http

theorem FieldValue.exists_ofString?_of_visible {text : String}
    (visible : ∀ character ∈ text.toList, Text.isVisible character = true) :
    ∃ value, FieldValue.ofString? text = some value ∧ value.text? = some text := by
  have octets := Text.bytes_of_visible visible
  have valid : (Text.bytes text).all isValueByte = true := by
    rw [octets, List.all_map, List.all_eq_true]
    intro character member
    exact Text.visible_forall (fun character => isValueByte (Text.octetOf character) = true)
      (by decide +kernel) (visible character member)
  have shown : (Text.bytes text).all isVisibleByte = true := by
    rw [octets, List.all_map, List.all_eq_true]
    intro character member
    exact Text.visible_forall (fun character => isVisibleByte (Text.octetOf character) = true)
      (by decide +kernel) (visible character member)
  refine ⟨⟨Text.bytes text, valid⟩, dif_pos valid, ?_⟩
  unfold FieldValue.text?
  rw [if_pos shown]
  show some (String.ofList ((Text.bytes text).map fun octet => Char.ofNat octet.toNat)) = some text
  rw [octets, List.map_map]
  have each : ∀ character ∈ text.toList,
      ((fun octet : UInt8 => Char.ofNat octet.toNat) ∘ Text.octetOf) character = character := by
    intro character member
    exact Text.visible_forall
      (fun character => Char.ofNat (Text.octetOf character).toNat = character)
      (by decide +kernel) (visible character member)
  rw [List.map_congr_left each, List.map_id', String.ofList_toList]

/-! ### Token characters -/

/-- A character that is visible and neither a comma nor a blank. -/
structure Plain (character : Char) : Prop where
  visible : Text.isVisible character = true
  comma : character ≠ ','
  blank : Text.isBlank character = false

theorem visible_of_isAlphanum {character : Char} (alphanum : character.isAlphanum = true) :
    Text.isVisible character = true := by
  unfold Char.isAlphanum Char.isAlpha Char.isUpper Char.isLower Char.isDigit at alphanum
  unfold Text.isVisible Char.toNat
  simp only [Bool.or_eq_true, Bool.and_eq_true, decide_eq_true_eq, ge_iff_le,
    UInt32.le_iff_toNat_le] at alphanum ⊢
  have bounds : 'A'.val.toNat = 65 ∧ 'Z'.val.toNat = 90 ∧ 'a'.val.toNat = 97
    ∧ 'z'.val.toNat = 122 ∧ '0'.val.toNat = 48 ∧ '9'.val.toNat = 57 := by decide
  omega

theorem plain_of_isTokenCharacter {character : Char} (token : isTokenCharacter character = true) :
    Plain character := by
  have visible : Text.isVisible character = true := by
    rcases Bool.or_eq_true_iff.mp token with alphanum | mark
    · exact visible_of_isAlphanum alphanum
    · have each : tokenMarks.all Text.isVisible = true := by decide
      exact List.all_eq_true.mp each character (List.contains_iff_mem.mp mark)
  have apart := Text.visible_forall (fun character => isTokenCharacter character = true →
    character ≠ ',' ∧ Text.isBlank character = false) (by decide +kernel) visible token
  exact ⟨visible, apart.1, apart.2⟩

theorem plain_of_isToken {text : String} (token : isToken text = true) :
    ∀ character ∈ text.toList, Plain character := by
  intro character member
  have every := (Bool.and_eq_true_iff.mp token).2
  exact plain_of_isTokenCharacter (List.all_eq_true.mp every character member)

/-! ### The members of a list -/

/-- The members of a list that is written with commas and blanks. -/
def members (text : String) : List String :=
  (Text.split ',' text.toList).map fun piece => Text.trim (String.ofList piece)

theorem split_intercalate {first : List Char} {rest : List (List Char)} (free : ',' ∉ first)
    (others : ∀ text ∈ rest, ',' ∉ text) :
    Text.split ',' ([',', ' '].intercalate (first :: rest)) = first :: rest.map (' ' :: ·) := by
  induction rest generalizing first with
  | nil =>
    rw [List.intercalate_singleton]
    exact Text.split_of_not_mem free
  | cons second rest hypothesis =>
    -- the blank behind the comma goes with the text behind it
    have moved : ' ' :: [',', ' '].intercalate (second :: rest)
        = [',', ' '].intercalate ((' ' :: second) :: rest) := by
      cases rest with
      | nil => rw [List.intercalate_singleton, List.intercalate_singleton]
      | cons third rest =>
        rw [List.intercalate_cons_cons, List.intercalate_cons_cons]
        rfl
    have joined : [',', ' '].intercalate (first :: second :: rest)
        = first ++ ',' :: [',', ' '].intercalate ((' ' :: second) :: rest) := by
      rw [List.intercalate_cons_cons, ← moved, List.append_assoc]
      rfl
    have behind : ',' ∉ ' ' :: second := by
      intro member
      exact others second List.mem_cons_self ((List.mem_cons.mp member).resolve_left (by decide))
    rw [joined, Text.split_append, Text.split_of_not_mem free,
      hypothesis behind fun text member => others text (List.mem_cons_of_mem _ member)]
    rfl

theorem trim_of_plain {text : String} (plain : ∀ character ∈ text.toList, Plain character) :
    Text.trim (String.ofList text.toList) = text
      ∧ Text.trim (String.ofList (' ' :: text.toList)) = text := by
  have kept := Text.trimBy_of_kept fun character member => (plain character member).blank
  unfold Text.trim
  rw [String.toList_ofList, String.toList_ofList, kept, String.ofList_toList]
  refine ⟨rfl, ?_⟩
  show String.ofList (Text.trimBy Text.isBlank text.toList) = text
  rw [kept, String.ofList_toList]

/-- **The members of a list of tokens** are the tokens in their order. -/
theorem members_intercalate {tokens : List String} (some_token : tokens ≠ [])
    (plain : ∀ token ∈ tokens, ∀ character ∈ token.toList, Plain character) :
    members (String.intercalate ", " tokens) = tokens := by
  have commaless : ∀ token ∈ tokens, ',' ∉ token.toList :=
    fun token member comma => (plain token member ',' comma).comma rfl
  obtain ⟨first, rest, rfl⟩ := List.exists_cons_of_ne_nil some_token
  have others : ∀ text ∈ rest.map String.toList, ',' ∉ text := by
    intro text member
    obtain ⟨token, behind, rfl⟩ := List.mem_map.mp member
    exact commaless token (List.mem_cons_of_mem _ behind)
  unfold members
  rw [String.toList_intercalate, List.map_cons]
  show (Text.split ',' ([',', ' '].intercalate _)).map _ = _
  rw [split_intercalate (commaless first List.mem_cons_self) others, List.map_cons, List.map_map,
    List.map_map, (trim_of_plain (plain first List.mem_cons_self)).1]
  refine congrArg (first :: ·) ?_
  conv_rhs => rw [← List.map_id' rest]
  refine List.map_congr_left fun token member => ?_
  exact (trim_of_plain (plain token (List.mem_cons_of_mem _ member))).2

theorem visible_intercalate {tokens : List String}
    (plain : ∀ token ∈ tokens, ∀ character ∈ token.toList, Plain character) :
    ∀ character ∈ (String.intercalate ", " tokens).toList, Text.isVisible character = true := by
  rw [String.toList_intercalate]
  show ∀ character ∈ [',', ' '].intercalate _, _
  induction tokens with
  | nil => exact fun _ member => absurd member List.not_mem_nil
  | cons first rest hypothesis =>
    have front : ∀ character ∈ first.toList, Text.isVisible character = true :=
      fun character member => (plain first List.mem_cons_self character member).visible
    have back := hypothesis fun token member => plain token (List.mem_cons_of_mem _ member)
    cases rest with
    | nil =>
      rw [List.map_singleton, List.intercalate_singleton]
      exact front
    | cons second rest =>
      rw [List.map_cons, List.map_cons, List.intercalate_cons_cons]
      have between : [',', ' '].all Text.isVisible = true := by decide
      exact List.forall_mem_append.mpr
        ⟨List.forall_mem_append.mpr ⟨front, List.all_eq_true.mp between⟩, back⟩

end Http

end Switchboard
