/-
**The words of a JSON text are read back.**

Texts and integers are printed as words; a reader that stands in front of such a word takes it off
and leaves the bytes behind it.

* `StringState.through` — the reader of quoted texts on bytes that neither close the text nor break
  it; `through_escaped` — **one escaped character is one character again**;
* `readString_stringText` — **a quoted text is read back**, whatever characters it has;
* `Stops` — no number goes on behind its digits;
* `readNumber_toString` — **an integer of at most 64 bits is read back.**
-/

import Switchboard.Json.Reader
import Switchboard.Json.Printer
import Switchboard.Proofs.Http.Members
import Switchboard.Proofs.Json.Shape
import Switchboard.Proofs.Outcome

namespace Switchboard

/-! ### The bytes of joined texts -/

namespace Text

theorem bytes_append (first second : String) :
    bytes (first ++ second) = bytes first ++ bytes second := by
  unfold bytes
  rw [String.toByteArray_append, ByteArray.data_append, Array.toList_append]

theorem bytes_singleton (character : Char) :
    bytes (String.singleton character) = String.utf8EncodeChar character := by
  rw [bytes_eq_flatMap, String.toList_singleton, List.flatMap_singleton]

theorem bytes_join (texts : List String) :
    bytes (String.join texts) = texts.flatMap bytes := by
  rw [bytes_eq_flatMap, String.toList_join, List.flatMap_assoc]
  exact List.flatMap_congr fun text _ => (bytes_eq_flatMap text).symm

/-- A character beyond ASCII has no byte of ASCII. -/
theorem le_of_mem_utf8EncodeChar {character : Char} (beyond : 128 ≤ character.toNat)
    {octet : UInt8} (member : octet ∈ String.utf8EncodeChar character) : 128 ≤ octet.toNat := by
  have wide : ¬ character.val.toNat ≤ 0x7f := by
    have : 128 ≤ character.val.toNat := beyond
    omega
  unfold String.utf8EncodeChar at member
  simp only [if_neg wide] at member
  split at member
  · simp only [List.mem_cons, List.not_mem_nil, or_false] at member
    rcases member with rfl | rfl <;> simp only [UInt8.toNat_ofNat'] <;> omega
  · split at member
    · simp only [List.mem_cons, List.not_mem_nil, or_false] at member
      rcases member with rfl | rfl | rfl <;> simp only [UInt8.toNat_ofNat'] <;> omega
    · simp only [List.mem_cons, List.not_mem_nil, or_false] at member
      rcases member with rfl | rfl | rfl | rfl <;> simp only [UInt8.toNat_ofNat'] <;> omega

end Text

namespace Json

/-! ### Quoted texts -/

/-- The place behind some bytes inside a quoted text and the bytes they spell, unless they close the
text or break it. -/
def StringState.through (state : StringState) : List UInt8 → Option (StringState × List UInt8)
  | [] => some (state, [])
  | octet :: rest =>
    match state.step octet with
    | .next later emitted =>
      (later.through rest).map fun (last, spelled) => (last, emitted ++ spelled)
    | _ => none

/-- The reader goes through such bytes. -/
theorem readStringBytes_through {state last : StringState} {octets spelled : List UInt8}
    (passed : state.through octets = some (last, spelled)) (reversed rest : List UInt8) :
    readStringBytes state reversed (octets ++ rest)
      = readStringBytes last (spelled.reverse ++ reversed) rest := by
  induction octets generalizing state spelled reversed with
  | nil =>
    cases passed
    rfl
  | cons octet octets hypothesis =>
    rw [StringState.through] at passed
    rw [List.cons_append, readStringBytes]
    cases stepped : state.step octet with
    | close => rw [stepped] at passed; cases passed
    | fault fault => rw [stepped] at passed; cases passed
    | next later emitted =>
      rw [stepped] at passed
      obtain ⟨⟨final, others⟩, further, same⟩ := Option.map_eq_some_iff.mp passed
      cases same
      show readStringBytes later (emitted.reverse ++ reversed) (octets ++ rest) = _
      rw [hypothesis further, List.reverse_append, List.append_assoc]

theorem through_append {state middle last : StringState} {first second left right : List UInt8}
    (one : state.through first = some (middle, left))
    (other : middle.through second = some (last, right)) :
    state.through (first ++ second) = some (last, left ++ right) := by
  induction first generalizing state left with
  | nil =>
    cases one
    exact other
  | cons octet first hypothesis =>
    rw [StringState.through] at one
    rw [List.cons_append, StringState.through]
    cases stepped : state.step octet with
    | close => rw [stepped] at one; cases one
    | fault fault => rw [stepped] at one; cases one
    | next later emitted =>
      rw [stepped] at one
      obtain ⟨⟨final, others⟩, further, same⟩ := Option.map_eq_some_iff.mp one
      cases same
      show (later.through (first ++ second)).map _ = _
      rw [hypothesis further, Option.map_some, List.append_assoc]

/-- Bytes beyond ASCII stand for themselves. -/
theorem through_beyond {octets : List UInt8} (beyond : ∀ octet ∈ octets, 128 ≤ octet.toNat) :
    StringState.plain.through octets = some (.plain, octets) := by
  induction octets with
  | nil => rfl
  | cons octet octets hypothesis =>
    have high := beyond octet List.mem_cons_self
    have quote : (octet == 34) = false := beq_eq_false_iff_ne.mpr fun same => by
      rw [same] at high
      exact absurd high (by decide)
    have backslash : (octet == 92) = false := beq_eq_false_iff_ne.mpr fun same => by
      rw [same] at high
      exact absurd high (by decide)
    have control : ¬ octet < 32 := by
      rw [UInt8.lt_iff_toNat_lt, show (32 : UInt8).toNat = 32 from rfl]
      omega
    have stepped : StringState.plain.step octet = .next .plain [octet] := by
      unfold StringState.step
      simp only [quote, backslash, control, if_false, Bool.false_eq_true]
    rw [StringState.through, stepped]
    show (StringState.plain.through octets).map _ = _
    rw [hypothesis fun other member => beyond other (List.mem_cons_of_mem _ member)]
    rfl

/-- **One escaped character is one character again.** -/
theorem through_escaped (character : Char) :
    StringState.plain.through (Text.bytes (escaped character))
      = some (.plain, String.utf8EncodeChar character) := by
  by_cases beyond : 128 ≤ character.toNat
  · have itself : escaped character = String.singleton character := by
      have apart : ∀ other : Char, other.toNat < 128 → character ≠ other := by
        rintro other low rfl
        omega
      unfold escaped
      rw [if_neg (apart '"' (by decide)), if_neg (apart '\\' (by decide)),
        if_neg (apart '\n' (by decide)), if_neg (apart '\r' (by decide)),
        if_neg (apart '\t' (by decide)), if_neg (by omega), if_neg (by omega), if_neg (by omega)]
    rw [itself, Text.bytes_singleton]
    exact through_beyond fun octet member => Text.le_of_mem_utf8EncodeChar beyond member
  · have each : ∀ code, code < 128 →
        StringState.plain.through (Text.bytes (escaped (Char.ofNat code)))
          = some (.plain, String.utf8EncodeChar (Char.ofNat code)) := by
      decide +kernel
    have checked := each character.toNat (by omega)
    rw [Char.ofNat_toNat] at checked
    exact checked

/-- The bytes between the quotes of a text. -/
def quotedBytes (text : String) : List UInt8 :=
  text.toList.flatMap fun character => Text.bytes (escaped character)

theorem bytes_stringText (text : String) :
    Text.bytes (stringText text) = 34 :: (quotedBytes text ++ [34]) := by
  unfold stringText quotedBytes
  rw [Text.bytes_append, Text.bytes_append, Text.bytes_join, List.flatMap_map]
  rfl

theorem through_quotedBytes (text : String) :
    StringState.plain.through (quotedBytes text) = some (.plain, Text.bytes text) := by
  rw [Text.bytes_eq_flatMap]
  unfold quotedBytes
  induction text.toList with
  | nil => rfl
  | cons character characters hypothesis =>
    rw [List.flatMap_cons, List.flatMap_cons]
    exact through_append (through_escaped character) hypothesis

/-- **A quoted text is read back.** -/
theorem readString_stringText (text : String) (rest : List UInt8) :
    readString (quotedBytes text ++ 34 :: rest) = .ok (text, rest) := by
  have spelled : readStringBytes .plain [] (quotedBytes text ++ 34 :: rest)
      = .ok (Text.bytes text, rest) := by
    rw [readStringBytes_through (through_quotedBytes text), List.append_nil]
    exact congrArg (fun octets => Except.ok (octets, rest)) (List.reverse_reverse _)
  unfold readString
  simp only [spelled, ok_bind, Text.decode?_bytes]

/-! ### Integers -/

/-- The next byte, if there is one, does not go on with a number. -/
def Stops (rest : List UInt8) : Prop :=
  ∀ octet ∈ rest.head?, isDigit octet = false ∧ octet ≠ 46 ∧ octet ≠ 101 ∧ octet ≠ 69

theorem stops_nil : Stops [] :=
  fun _ member => nomatch member

theorem stops_cons {octet : UInt8} {rest : List UInt8}
    (stops : isDigit octet = false ∧ octet ≠ 46 ∧ octet ≠ 101 ∧ octet ≠ 69) :
    Stops (octet :: rest) := by
  rintro other ⟨⟩
  exact stops

/-- The byte of a decimal digit. -/
def digitByte (digit : Nat) : UInt8 :=
  UInt8.ofNat (48 + digit)

theorem digitByte_spec : ∀ digit, digit < 10 →
    isDigit (digitByte digit) = true ∧ digitValue (digitByte digit) = digit := by
  decide

theorem bytes_digit {number : Nat} (small : number < 10) :
    Text.bytes (toString number) = [digitByte number] := by
  have each : ∀ number, number < 10 → Text.bytes (toString number) = [digitByte number] := by
    decide +kernel
  exact each number small

theorem bytes_digits {number : Nat} (large : 10 ≤ number) :
    Text.bytes (toString number)
      = Text.bytes (toString (number / 10)) ++ [digitByte (number % 10)] := by
  have cut : toString number = toString (number / 10) ++ toString (number % 10) := by
    rw [Nat.toString_eq_ofList_toDigits, Nat.toString_eq_ofList_toDigits,
      Nat.toString_eq_ofList_toDigits, Nat.toDigits_of_base_le (by decide) large,
      Nat.toDigits_of_lt_base (Nat.mod_lt _ (by decide)), String.ofList_append]
  rw [cut, Text.bytes_append, bytes_digit (Nat.mod_lt _ (by decide))]

theorem bytes_toString_eq_cons (number : Nat) :
    ∃ octet others, Text.bytes (toString number) = octet :: others ∧ isDigit octet = true := by
  induction number using Nat.strongRecOn with
  | ind number hypothesis =>
    by_cases small : number < 10
    · exact ⟨digitByte number, [], bytes_digit small, (digitByte_spec number small).1⟩
    · obtain ⟨octet, others, begun, digit⟩ := hypothesis (number / 10) (by omega)
      rw [bytes_digits (by omega), begun]
      exact ⟨octet, _, rfl, digit⟩

/-- The digits of a number without leading zero are collected again. -/
theorem readUnsigned_digits {number : Nat} (positive : 0 < number)
    (fits : number ≤ Text.greatestWord) (negative : Bool) (rest : List UInt8) :
    readUnsigned negative (Text.bytes (toString number) ++ rest)
      = readIntegerDigits negative number rest := by
  induction number using Nat.strongRecOn generalizing rest with
  | ind number hypothesis =>
    by_cases small : number < 10
    · obtain ⟨digit, value⟩ := digitByte_spec number small
      have nonzero : (digitByte number == 48) = false := beq_eq_false_iff_ne.mpr fun same => by
        rw [same] at value
        exact absurd value (Nat.ne_of_lt positive)
      rw [bytes_digit small]
      show readUnsigned negative (digitByte number :: rest) = _
      simp only [readUnsigned, nonzero, digit, value, if_true, if_false, Bool.false_eq_true]
    · obtain ⟨digit, value⟩ := digitByte_spec (number % 10) (Nat.mod_lt _ (by decide))
      have front := hypothesis (number / 10) (by omega) (by omega) (by omega)
        (digitByte (number % 10) :: rest)
      have whole : 10 * (number / 10) + number % 10 = number := Nat.div_add_mod number 10
      rw [bytes_digits (by omega), List.append_assoc]
      show readUnsigned negative
        (Text.bytes (toString (number / 10)) ++ digitByte (number % 10) :: rest) = _
      rw [front, readIntegerDigits, if_pos digit, value, whole, if_neg (by omega)]

theorem readIntegerDigits_stops {rest : List UInt8} (stops : Stops rest) (negative : Bool)
    (number : Nat) :
    readIntegerDigits negative number rest = readAfterInteger negative number rest := by
  cases rest with
  | nil => rfl
  | cons octet rest =>
    have digit := (stops octet rfl).1
    simp only [readIntegerDigits, digit, if_false, Bool.false_eq_true]

theorem readAfterInteger_stops {rest : List UInt8} (stops : Stops rest) {negative : Bool}
    {significand : Nat} {number : Number}
    (whole : integerNumber negative significand = some number) :
    readAfterInteger negative significand rest = .ok (number, rest) := by
  unfold readAfterInteger
  split
  · exact absurd rfl (stops 46 rfl).2.1
  · exact absurd rfl (stops 101 rfl).2.2.1
  · exact absurd rfl (stops 69 rfl).2.2.2
  · rw [whole]

/-- The digits of a number, and nothing more of it, are read back. -/
theorem readUnsigned_toString {rest : List UInt8} (stops : Stops rest) {magnitude : Nat}
    (fits : magnitude ≤ Text.greatestWord) {negative : Bool} {number : Number}
    (whole : integerNumber negative magnitude = some number) :
    readUnsigned negative (Text.bytes (toString magnitude) ++ rest) = .ok (number, rest) := by
  rcases Nat.eq_zero_or_pos magnitude with rfl | positive
  · rw [bytes_digit (by decide)]
    show readUnsigned negative (48 :: rest) = _
    have after := readAfterInteger_stops stops whole
    cases rest with
    | nil => exact after
    | cons octet rest =>
      have digit := (stops octet rfl).1
      simp only [readUnsigned, digit, beq_self_eq_true, if_true, if_false, Bool.false_eq_true]
      exact after
  · rw [readUnsigned_digits positive fits, readIntegerDigits_stops stops,
      readAfterInteger_stops stops whole]

/-- **An integer of at most 64 bits is read back.** -/
theorem readNumber_toString {rest : List UInt8} (stops : Stops rest) {value : Int}
    (fits : Fits value) :
    readNumber (Text.bytes (toString value) ++ rest) = .ok (.integer value, rest) := by
  obtain ⟨low, high⟩ := fits
  cases value with
  | ofNat magnitude =>
    have bound : magnitude ≤ Text.greatestWord := Int.ofNat_le.mp high
    have read := readUnsigned_toString stops bound
      (show integerNumber false magnitude = some (.integer magnitude) from rfl)
    show readNumber (Text.bytes (toString magnitude) ++ rest) = _
    obtain ⟨octet, others, begun, digit⟩ := bytes_toString_eq_cons magnitude
    rw [begun, List.cons_append] at read ⊢
    unfold readNumber
    split
    · rename_i same
      cases same
      cases digit
    · exact read
  | negSucc magnitude =>
    have bound : magnitude + 1 ≤ 9223372036854775808 := by omega
    have whole : integerNumber true (magnitude + 1) = some (.integer (Int.negSucc magnitude)) := by
      unfold integerNumber
      rw [if_pos rfl, if_neg (by omega)]
      rfl
    have read := readUnsigned_toString stops
      (Nat.le_trans bound (by decide)) whole
    show readNumber (Text.bytes ("-" ++ toString (magnitude + 1)) ++ rest) = _
    rw [Text.bytes_append]
    exact read

end Json

end Switchboard
