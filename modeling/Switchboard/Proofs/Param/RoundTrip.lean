/-
**Parameters are read back from their texts.**

A parameter is read from an object with its members in any order, some left out and others added,
or from a list of them. It is printed in one way only, and that text is read as the same parameter.

* `yields_read` — **the format of a parameter that is read** leaves room for the object around it:
  read again inside that object, it does not meet the limit on nesting;
* `read_toText` — **the text of a parameter is read back**, whatever its format holds but doubles;
* `texts_round_trip` — both together: what was read from any text is read from its own text.
-/

import Switchboard.Param.Reader
import Switchboard.Proofs.Json.Reading
import Switchboard.Proofs.Json.RoundTrip

namespace Switchboard.Param

open Json

/-! ### The format of a parameter that is read -/

section Formats

variable {depth : Nat}

/-- The format read so far, if there is one, may be read at a depth. -/
def Partial.Formatted (depth : Nat) (state : Partial) : Prop :=
  ∀ format, state.format = some format → format.value.nesting ≤ depth - 1

theorem formatted_empty : Partial.Formatted depth {} :=
  fun _ absent => nomatch absent

/-- Without a format there is null. -/
theorem nesting_getD_le {format : Option Stored}
    (shallow : ∀ value, format = some value → value.value.nesting ≤ depth - 1) :
    (format.getD .null).value.nesting ≤ depth - 1 := by
  cases format with
  | none => exact Nat.zero_le _
  | some format => exact shallow format rfl

theorem yields_failTwice {α : Type} {property : α → Prop} (name : String) (rest : List UInt8) :
    Yields property (failTwice name rest) := by
  unfold failTwice
  split
  · exact yields_error
  · exact yields_error

theorem yields_readOtherKind {α : Type} {property : α → Prop} (wanted : String)
    (rest : List UInt8) : Yields property (readOtherKind wanted rest) := by
  unfold readOtherKind
  dsimp only
  split
  · exact yields_error
  split
  · exact yields_bind fun _ _ => yields_error
  split
  · exact yields_bind fun _ _ => yields_error
  split
  · exact yields_bind fun _ _ => yields_error
  split
  · exact yields_bind fun _ _ => yields_error
  split
  · refine yields_bind fun found _ => ?_
    obtain ⟨number, left⟩ := found
    cases number with
    | integer value => exact yields_error
    | double value => exact yields_error
  split
  · exact yields_error
  split
  · exact yields_error
  · exact yields_error

/-- One member changes the format only if it is the format. -/
theorem yields_readMember (budget : Nat) {state : Partial}
    (formatted : state.Formatted depth) (key : String) (rest : List UInt8) :
    Yields (Partial.Formatted depth) (readMember budget depth state key rest) := by
  unfold readMember
  split
  · split
    · exact yields_failTwice _ _
    · exact yields_bind fun start _ => yields_bind fun (value, left) _ => yields_ok formatted
  split
  · split
    · exact yields_failTwice _ _
    · exact yields_bind fun start _ => yields_bind fun (value, left) _ => yields_ok formatted
  split
  · split
    · exact yields_failTwice _ _
    · exact yields_bind fun start _ => yields_bind fun (value, left) _ => yields_ok formatted
  split
  · split
    · exact yields_failTwice _ _
    · refine yields_bind fun start _ => yields_bind fun (value, left) one => yields_ok ?_
      rintro format ⟨⟩
      exact yields_readStored budget depth start _ _ one
  split
  · split
    · exact yields_failTwice _ _
    · exact yields_bind fun start _ => yields_bind fun (value, left) _ => yields_ok formatted
  · exact yields_bind fun start _ => yields_bind fun left _ => yields_ok formatted

/-- What is found in the next place of a list. -/
theorem of_readNext {α : Type} {property : α → Prop}
    {read : List UInt8 → Except Failure (α × List UInt8)}
    (each : ∀ rest, Yields property (read rest)) {first ended after : Bool}
    {rest left : List UInt8} {found : Option α}
    (next : readNext read first ended rest = .ok (found, after, left)) :
    ∀ value, found = some value → property value := by
  unfold readNext at next
  split at next
  · cases next
    exact nofun
  · obtain ⟨start, _, next⟩ := bind_eq_ok_iff.mp next
    cases start with
    | none =>
      cases next
      exact nofun
    | some start =>
      obtain ⟨⟨value, behind⟩, one, next⟩ := bind_eq_ok_iff.mp next
      cases next
      rintro _ ⟨⟩
      exact each start value left one

theorem yields_readListed (budget : Nat) (rest : List UInt8) :
    Yields (fun param => param.format.value.nesting ≤ depth - 1)
      (readListed budget depth rest) := by
  unfold readListed
  refine yields_bind fun (name, ended, rest) _ => yields_bind fun (location, ended, rest) _ => ?_
  dsimp only
  split
  · exact yields_error
  · exact yields_error
  · refine yields_bind fun (required, ended, rest) _ =>
      yields_bind fun (format, ended, rest) found =>
      yields_bind fun (description, ended, rest) _ => yields_bind fun behind _ => yields_ok ?_
    exact nesting_getD_le (of_readNext (yields_readStored budget depth) found)

/-- **The format of a parameter that is read leaves room for the object around it.** -/
theorem yields_read (budget depth : Nat) (rest : List UInt8) :
    Yields (fun param => 1 < depth ∧ param.format.value.nesting < depth - 1)
      (read budget depth rest) := by
  unfold read
  split
  · exact yields_error
  · refine yields_bind fun inner opened => ?_
    obtain ⟨opens, rfl⟩ := openNested_eq_ok_iff.mp opened
    intro param left listed
    have shallow := yields_readListed budget _ param left listed
    exact ⟨opens, by omega⟩
  · refine yields_bind fun inner opened => yields_bind fun (state, left) members => ?_
    obtain ⟨opens, rfl⟩ := openNested_eq_ok_iff.mp opened
    have formatted : state.Formatted (depth - 1) :=
      yields_readMembers (fun state key rest formatted =>
        yields_readMember budget formatted key rest) _ _ formatted_empty _ _ _ members
    have shallow := nesting_getD_le formatted
    dsimp only
    unfold Partial.finish
    split
    · exact yields_error
    · exact yields_error
    · exact yields_ok ⟨opens, show (state.format.getD .null).value.nesting < depth - 1 by omega⟩
  · exact yields_readOtherKind _ _

end Formats

/-! ### The text of a parameter -/

/-- The text of a parameter, member by member. -/
theorem bytes_toText (param : Param) :
    Text.bytes param.toText
      = 123 :: (Text.bytes (stringText "name") ++ 58 :: (Text.bytes (stringText param.name)
        ++ 44 :: (Text.bytes (stringText "in") ++ 58 :: (Text.bytes (stringText param.location.name)
        ++ 44 :: (Text.bytes (stringText "required")
          ++ 58 :: (Text.bytes (Json.toText (.bool param.required))
        ++ 44 :: (Text.bytes (stringText "format") ++ 58 :: (Text.bytes param.format.value.toText
        ++ 44 :: (Text.bytes (stringText "description")
          ++ 58 :: (Text.bytes (stringText param.description) ++ [125])))))))))) := by
  show Text.bytes (Json.toText (.object (("name", .string param.name) :: _))) = _
  rw [bytes_object]
  simp only [bytes_membersText_cons, List.append_assoc, List.cons_append]
  rfl

section Members

variable {budget depth : Nat} {state : Partial}

theorem readText_stringText (wanted text : String) (rest : List UInt8) :
    readText wanted (Text.bytes (stringText text) ++ rest) = .ok (text, rest) := by
  rw [bytes_stringText, List.cons_append, List.append_assoc]
  exact readString_stringText text rest

theorem readLocation_name (location : Location) (rest : List UInt8) :
    readLocation depth (Text.bytes (stringText location.name) ++ rest) = .ok (location, rest) := by
  rw [bytes_stringText, List.cons_append, List.append_assoc]
  show readLocationName (quotedBytes location.name ++ 34 :: rest) = _
  unfold readLocationName
  simp only [readString_stringText, ok_bind, Location.ofName?_name]
  rfl

theorem readBool_toText (value : Bool) (rest : List UInt8) :
    readBool (Text.bytes (Json.toText (.bool value)) ++ rest) = .ok (value, rest) := by
  cases value <;> rfl

theorem readMember_name (absent : state.name = none) (name : String) (rest : List UInt8) :
    readMember budget depth state "name" (58 :: (Text.bytes (stringText name) ++ rest))
      = .ok ({ state with name := some name }, rest) := by
  unfold readMember
  rw [if_pos rfl, absent]
  simp only [Option.isSome_none, Bool.false_eq_true, if_false, readColon_cons, ok_bind,
    readText_stringText]
  rfl

theorem readMember_in (absent : state.location = none) (location : Location)
    (rest : List UInt8) :
    readMember budget depth state "in" (58 :: (Text.bytes (stringText location.name) ++ rest))
      = .ok ({ state with location := some location }, rest) := by
  unfold readMember
  rw [if_neg (by decide), if_pos rfl, absent]
  simp only [Option.isSome_none, Bool.false_eq_true, if_false, readColon_cons, ok_bind,
    readLocation_name]
  rfl

theorem readMember_required (absent : state.required = none) (value : Bool) (rest : List UInt8) :
    readMember budget depth state "required"
      (58 :: (Text.bytes (Json.toText (.bool value)) ++ rest))
      = .ok ({ state with required := some value }, rest) := by
  unfold readMember
  rw [if_neg (by decide), if_neg (by decide), if_pos rfl, absent]
  simp only [Option.isSome_none, Bool.false_eq_true, if_false, readColon_cons, ok_bind,
    readBool_toText]
  rfl

theorem readMember_format (absent : state.format = none) {format : Stored}
    (reads : Reads format.value) (enough : (Text.bytes format.value.toText).length ≤ budget)
    (shallow : format.value.nesting < depth) {rest : List UInt8} (stops : Stops rest) :
    readMember budget depth state "format" (58 :: (Text.bytes format.value.toText ++ rest))
      = .ok ({ state with format := some format }, rest) := by
  unfold readMember
  rw [if_neg (by decide), if_neg (by decide), if_neg (by decide), if_pos rfl, absent]
  simp only [Option.isSome_none, Bool.false_eq_true, if_false, readColon_cons, ok_bind,
    readStored_eq_ok_iff.mpr (reads.read enough shallow stops)]
  rfl

theorem readMember_description (absent : state.description = none) (text : String)
    (rest : List UInt8) :
    readMember budget depth state "description" (58 :: (Text.bytes (stringText text) ++ rest))
      = .ok ({ state with description := some text }, rest) := by
  unfold readMember
  rw [if_neg (by decide), if_neg (by decide), if_neg (by decide), if_neg (by decide),
    if_pos rfl, absent]
  simp only [Option.isSome_none, Bool.false_eq_true, if_false, readColon_cons, ok_bind,
    readText_stringText]
  rfl

end Members

/-- **The text of a parameter is read back** at any depth that leaves room for its format. -/
theorem read_toText {param : Param} (reads : Reads param.format.value) {budget depth : Nat}
    (enough : (Text.bytes param.toText).length ≤ budget) (opens : 1 < depth)
    (shallow : param.format.value.nesting < depth - 1) (rest : List UInt8) :
    read budget depth (Text.bytes param.toText ++ rest) = .ok (param, rest) := by
  rw [bytes_toText] at enough ⊢
  simp only [List.length_cons, List.length_append, List.length_nil] at enough
  obtain ⟨fuel, rfl⟩ : ∃ fuel, budget = fuel + 6 := ⟨budget - 6, by omega⟩
  simp only [List.cons_append, List.append_assoc, List.nil_append]
  show openNested depth (123 :: _) >>= _ = _
  rw [openNested_of_lt opens, ok_bind, readMembers_first (readMember_name rfl _ _),
    readMembers_next (readMember_in rfl _ _), readMembers_next (readMember_required rfl _ _),
    readMembers_next (readMember_format rfl reads (by omega) shallow (stops_cons (by decide))),
    readMembers_next (readMember_description rfl _ _), readMembers_close, ok_bind]
  rfl

/-- **What was read from any text is read from its own text**, and printed once more it is that text
again. -/
theorem texts_round_trip {text : List UInt8} {param : Param} (read : parse text = .ok param)
    (whole : Every Whole param.format.value) :
    parse (Text.bytes param.toText) = .ok param
      ∧ ∀ again, parse (Text.bytes param.toText) = .ok again → again.toText = param.toText := by
  have reread : parse (Text.bytes param.toText) = .ok param := by
    obtain ⟨⟨found, left⟩, begun, ended⟩ := bind_eq_ok_iff.mp read
    obtain ⟨_, _, same⟩ := bind_eq_ok_iff.mp ended
    cases same
    obtain ⟨opens, shallow⟩ := yields_read _ _ _ _ _ begun
    have whole_text := read_toText (reads_of_every param.format.tidy whole) (Nat.le_succ _) opens
      shallow []
    rw [List.append_nil] at whole_text
    unfold parse
    rw [whole_text]
    rfl
  refine ⟨reread, fun again once => ?_⟩
  rw [reread] at once
  cases once
  rfl

/-- A parameter written as a list without its description, its place as the key of an object. -/
theorem texts_round_trip_listed :
    let text := "[\"id\",\x7b\"path\":null\x7d,true,\x7b\"b\":[1,-2],\"a\":\"é\\u0001\"\x7d]"
    let format : Stored :=
      ⟨.object [("a", .string "é\x01"), ("b", .array [.integer 1, .integer (-2)])], by decide⟩
    let param : Param := ⟨"id", .path, true, format, ""⟩
    parse (Text.bytes text) = .ok param ∧ Every Whole param.format.value
      ∧ param.toText = "\x7b\"name\":\"id\",\"in\":\"path\",\"required\":true,\"format\":"
        ++ "\x7b\"a\":\"é\\u0001\",\"b\":[1,-2]\x7d,\"description\":\"\"\x7d"
      ∧ parse (Text.bytes param.toText) = .ok param
      ∧ ∀ again, parse (Text.bytes param.toText) = .ok again → again.toText = param.toText := by
  intro text format param
  have read : parse (Text.bytes text) = .ok param := rfl
  have whole : Every Whole param.format.value := by decide
  exact ⟨read, whole, by decide +kernel, texts_round_trip read whole⟩

end Switchboard.Param
