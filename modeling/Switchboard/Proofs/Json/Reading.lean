/-
**What a reader of JSON yields.**

Not every value is the meaning of a text: integers have at most 64 bits, the members of an object
stand in order, and lists and objects are nested less deep than the reader allows.

* `Yields` — a property of what is read, if anything is read; `yields_bind` takes a reader apart;
* `yields_readItems`, `yields_readMembers` — **what every item is, and what every member keeps**,
  holds of the whole list and behind the whole object;
* `yields_readNumber` — an integer that is read is stored in 64 bits;
* `Admitted`, `yields_readValue` — **a value that is read is tidy** and nested less than the limit.
-/

import Switchboard.Json.Reader
import Switchboard.Proofs.Json.Shape
import Switchboard.Proofs.Outcome

namespace Switchboard.Json

/-! ### Readers -/

section Yields

variable {α β : Type} {property : α → Prop}

/-- What is read, if anything is, has a property. -/
def Yields (property : α → Prop) (reading : Except Failure (α × List UInt8)) : Prop :=
  ∀ value left, reading = .ok (value, left) → property value

theorem yields_error {failure : Failure} : Yields property (.error failure) :=
  fun _ _ read => nomatch read

theorem yields_ok {value : α} {left : List UInt8} (holds : property value) :
    Yields property (.ok (value, left)) := by
  rintro _ _ ⟨⟩
  exact holds

theorem yields_bind {first : Except Failure β} {next : β → Except Failure (α × List UInt8)}
    (each : ∀ found, first = .ok found → Yields property (next found)) :
    Yields property (first >>= next) := by
  intro value left read
  obtain ⟨found, before, behind⟩ := bind_eq_ok_iff.mp read
  exact each found before value left behind

theorem yields_map {reading : Except Failure (β × List UInt8)} {make : β → α}
    (each : Yields (fun value => property (make value)) reading) :
    Yields property (reading.map fun (value, left) => (make value, left)) := by
  intro value left read
  obtain ⟨⟨found, behind⟩, before, same⟩ := map_eq_ok_iff.mp read
  cases same
  exact each found _ before

end Yields

section Sequences

variable {α σ : Type}

/-- **What every item is, all items of a list are.** -/
theorem yields_readItems {property : α → Prop} {item : List UInt8 → Reading α}
    (each : ∀ rest, Yields property (item rest)) (budget : Nat) (first : Bool)
    (rest : List UInt8) :
    Yields (fun values => ∀ value ∈ values, property value) (readItems item budget first rest) := by
  induction budget generalizing first rest with
  | zero => exact yields_error
  | succ budget hypothesis =>
    rw [readItems]
    refine yields_bind fun start _ => ?_
    cases start with
    | none => exact yields_ok fun _ member => absurd member List.not_mem_nil
    | some start =>
      refine yields_bind fun (value, behind) one => yields_bind fun (values, left) others => ?_
      exact yields_ok (List.forall_mem_cons.mpr ⟨each _ _ _ one, hypothesis _ _ _ _ others⟩)

/-- **What every member keeps, all members of an object keep.** -/
theorem yields_readMembers {invariant : σ → Prop} {member : σ → String → List UInt8 → Reading σ}
    (each : ∀ state key rest, invariant state → Yields invariant (member state key rest))
    (budget : Nat) (first : Bool) {state : σ} (start : invariant state) (rest : List UInt8) :
    Yields invariant (readMembers member budget first state rest) := by
  induction budget generalizing first state rest with
  | zero => exact yields_error
  | succ budget hypothesis =>
    rw [readMembers]
    refine yields_bind fun begun _ => ?_
    cases begun with
    | none => exact yields_ok start
    | some begun =>
      refine yields_bind fun (key, behind) _ => yields_bind fun (later, left) one => ?_
      exact hypothesis false (each _ _ _ start _ _ one) left

end Sequences

/-! ### Numbers -/

/-- A number that is read is tidy. -/
abbrev Measured : Reading Number → Prop :=
  Yields fun number => Tidy (ofNumber number)

section Numbers

variable (negative : Bool) (significand : Nat)

theorem yields_readDouble (power : Int) (rest : List UInt8) :
    Measured (readDouble negative significand power rest) := by
  unfold readDouble
  split
  · exact yields_ok trivial
  · exact yields_error

theorem yields_readExponentDigits (start : Int) (negativePower : Bool) (exponent : Nat)
    (rest : List UInt8) :
    Measured (readExponentDigits negative significand start negativePower exponent rest) := by
  induction rest generalizing exponent with
  | nil => exact yields_readDouble _ _ _ _
  | cons octet rest hypothesis =>
    rw [readExponentDigits]
    split
    · dsimp only
      split
      · split
        · exact yields_error
        · exact yields_ok trivial
      · exact hypothesis _
    · exact yields_readDouble _ _ _ _

theorem yields_readExponent (start : Int) (rest : List UInt8) :
    Measured (readExponent negative significand start rest) := by
  unfold readExponent
  dsimp only
  split
  · exact yields_error
  · split
    · exact yields_readExponentDigits _ _ _ _ _ _
    · exact yields_error

theorem yields_readPower (power : Int) (rest : List UInt8) :
    Measured (readPower negative significand power rest) := by
  unfold readPower
  split
  · exact yields_readExponent _ _ _ _
  · exact yields_readExponent _ _ _ _
  · exact yields_readDouble _ _ _ _

theorem yields_readFraction (before : Int) (count : Nat) (rest : List UInt8) :
    Measured (readFraction negative significand before count rest) := by
  induction rest generalizing significand count with
  | nil =>
    rw [readFraction]
    split
    · exact yields_error
    · exact yields_readPower _ _ _ _
  | cons octet rest hypothesis =>
    rw [readFraction]
    split
    · dsimp only
      split
      · exact yields_readPower _ _ _ _
      · exact hypothesis _ _
    · split
      · exact yields_error
      · exact yields_readPower _ _ _ _

theorem yields_readLongInteger (dropped : Nat) (rest : List UInt8) :
    Measured (readLongInteger negative significand dropped rest) := by
  induction rest generalizing dropped with
  | nil => exact yields_readDouble _ _ _ _
  | cons octet rest hypothesis =>
    rw [readLongInteger]
    split
    · exact hypothesis _
    · split
      · exact yields_readFraction _ _ _ _ _
      · exact yields_readPower _ _ _ _

variable {significand}

theorem tidy_integerNumber (fits : significand ≤ Text.greatestWord) {number : Number}
    (whole : integerNumber negative significand = some number) : Tidy (ofNumber number) := by
  have wide : (significand : Int) ≤ Text.greatestWord := Int.ofNat_le.mpr fits
  unfold integerNumber at whole
  split at whole
  · split at whole
    · obtain ⟨value, _, rfl⟩ := Option.map_eq_some_iff.mp whole
      exact trivial
    · rename_i small
      cases whole
      show Fits (-significand)
      exact ⟨by omega, by omega⟩
  · cases whole
    show Fits significand
    exact ⟨by omega, wide⟩

theorem yields_readAfterInteger (fits : significand ≤ Text.greatestWord) (rest : List UInt8) :
    Measured (readAfterInteger negative significand rest) := by
  unfold readAfterInteger
  split
  · exact yields_readFraction _ _ _ _ _
  · exact yields_readExponent _ _ _ _
  · exact yields_readExponent _ _ _ _
  · split
    · rename_i number whole
      exact yields_ok (tidy_integerNumber negative fits whole)
    · exact yields_error

theorem yields_readIntegerDigits (fits : significand ≤ Text.greatestWord) (rest : List UInt8) :
    Measured (readIntegerDigits negative significand rest) := by
  induction rest generalizing significand with
  | nil => exact yields_readAfterInteger negative fits []
  | cons octet rest hypothesis =>
    rw [readIntegerDigits]
    split
    · dsimp only
      split
      · exact yields_readLongInteger _ _ _ _
      · rename_i small
        exact hypothesis (Nat.le_of_not_lt small)
    · exact yields_readAfterInteger negative fits _

theorem yields_readUnsigned (rest : List UInt8) : Measured (readUnsigned negative rest) := by
  unfold readUnsigned
  split
  · exact yields_error
  · rename_i octet behind
    split
    · split
      · split
        · exact yields_error
        · exact yields_readAfterInteger negative (Nat.zero_le _) _
      · exact yields_readAfterInteger negative (Nat.zero_le _) _
    · split
      · have digit : digitValue octet ≤ Text.greatestWord := by
          have := octet.toNat_lt
          unfold digitValue Text.greatestWord
          omega
        exact yields_readIntegerDigits negative digit behind
      · exact yields_error

end Numbers

/-- **An integer that is read is stored in 64 bits.** -/
theorem yields_readNumber (rest : List UInt8) : Measured (readNumber rest) := by
  unfold readNumber
  split
  · exact yields_readUnsigned _ _
  · exact yields_readUnsigned _ _

/-! ### Values -/

theorem openNested_eq_ok_iff {depth inner : Nat} {rest : List UInt8} :
    openNested depth rest = .ok inner ↔ 1 < depth ∧ inner = depth - 1 := by
  unfold openNested
  split
  · exact ⟨nofun, fun ⟨opens, _⟩ => by omega⟩
  · rename_i opens
    exact ⟨fun | rfl => ⟨by omega, rfl⟩, fun ⟨_, same⟩ => same ▸ rfl⟩

/-- A value that a reader may yield where fewer than `depth` lists and objects may be opened around
one another. -/
structure Admitted (depth : Nat) (value : Json) : Prop where
  tidy : Every Tidy value
  shallow : value.nesting ≤ depth - 1

theorem Admitted.leaf (value : Json) (tidy : Tidy value) (empty : value.children = [])
    (flat : value.nesting = 0) (depth : Nat) : Admitted depth value :=
  ⟨.leaf tidy empty, flat ▸ Nat.zero_le _⟩

theorem Admitted.array {depth : Nat} (opens : 1 < depth) {items : List Json}
    (each : ∀ item ∈ items, Admitted (depth - 1) item) : Admitted depth (.array items) where
  tidy := .node trivial fun item member => (each item member).tidy
  shallow := by
    have inside : itemsNesting items ≤ depth - 1 - 1 :=
      itemsNesting_le_iff.mpr fun item member => (each item member).shallow
    rw [nesting]
    omega

/-- Members that are in order, each of which may be read. -/
structure Furnished (depth : Nat) (members : List (String × Json)) : Prop where
  ascending : Text.Ascending Prod.fst members
  each : ∀ member ∈ members, Admitted depth member.2

theorem Furnished.nil {depth : Nat} : Furnished depth [] :=
  ⟨List.Pairwise.nil, fun _ member => absurd member List.not_mem_nil⟩

theorem Furnished.insertMember {depth : Nat} {members : List (String × Json)}
    (kept : Furnished depth members) (key : String) {value : Json}
    (admitted : Admitted depth value) :
    Furnished depth (Json.insertMember key value members) where
  ascending := kept.ascending.insertMember key value
  each member among := by
    rcases mem_insertMember among with rfl | old
    · exact admitted
    · exact kept.each member old

theorem Admitted.object {depth : Nat} (opens : 1 < depth) {members : List (String × Json)}
    (kept : Furnished (depth - 1) members) : Admitted depth (.object members) where
  tidy := .node kept.ascending
    (List.forall_mem_map.mpr fun member among => (kept.each member among).tidy)
  shallow := by
    have inside : membersNesting members ≤ depth - 1 - 1 :=
      membersNesting_le_iff.mpr fun member among => (kept.each member among).shallow
    rw [nesting]
    omega

/-- **A value that is read is tidy** and nested less than the limit. -/
theorem yields_readValue (budget depth : Nat) (rest : List UInt8) :
    Yields (Admitted depth) (readValue budget depth rest) := by
  induction budget generalizing depth rest with
  | zero => exact yields_error
  | succ budget hypothesis =>
    rw [readValue]
    split
    · exact yields_error
    · rename_i octet behind _
      have literal (name : List UInt8) {value : Json} (empty : value.children = [])
          (flat : value.nesting = 0) (tidy : Tidy value) :
          Yields (Admitted depth) (readLiteral name value behind) :=
        yields_bind fun left _ => yields_ok (Admitted.leaf _ tidy empty flat depth)
      split
      · exact literal _ rfl rfl trivial
      split
      · exact literal _ rfl rfl trivial
      split
      · exact literal _ rfl rfl trivial
      split
      · exact yields_map fun text left _ => Admitted.leaf (.string text) trivial rfl rfl depth
      split
      · refine yields_map fun number left read => ?_
        have tidy := yields_readNumber _ _ _ read
        cases number <;> exact .leaf _ tidy rfl rfl depth
      split
      · refine yields_bind fun inner opened => yields_bind fun (items, left) read => ?_
        obtain ⟨opens, rfl⟩ := openNested_eq_ok_iff.mp opened
        exact yields_ok (.array opens (yields_readItems (hypothesis _) _ _ _ _ _ read))
      split
      · refine yields_bind fun inner opened => yields_bind fun (members, left) read => ?_
        obtain ⟨opens, rfl⟩ := openNested_eq_ok_iff.mp opened
        have kept : Furnished (depth - 1) members := by
          refine yields_readMembers (fun members key rest kept => ?_) _ _ .nil _ _ _ read
          refine yields_bind fun start _ => yields_bind fun (value, left) one => yields_ok ?_
          exact kept.insertMember key (hypothesis _ start _ _ one)
        exact yields_ok (.object opens kept)
      · exact yields_error

end Switchboard.Json
