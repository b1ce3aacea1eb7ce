/-
**The shape of JSON values.**

* `Every` — a property of a value and of all values inside it, decidable if the property is: `Whole`
  says that a number is an integer, `Tidy` that it is stored in 64 bits and that members stand in the
  order of their keys;
* `nesting` — how many lists and objects stand around one another at most;
* `Text.Ascending.insertMember` — **an inserted member keeps the others in order**, whether its key
  is new or not;
* `insertMember_of_last` — a member whose key stands behind all others goes to the end;
* `exists_ofMembers`, `tidy_ofMembers`, `member?_ofMembers` — **an object that is put together** has
  its members in order, is tidy, and finds each under its key.
-/

import Switchboard.Json.Basic
import Switchboard.Text.Number
import Switchboard.Proofs.Text.Order

namespace Switchboard

namespace Json

/-! ### Properties of all values inside a value -/

/-- The values directly inside a value. -/
def children : Json → List Json
  | .array items => items
  | .object members => members.map Prod.snd
  | _ => []

/-- A property of a value and of every value inside it. -/
inductive Every (property : Json → Prop) : Json → Prop
  | node {value : Json} (here : property value)
      (inside : ∀ child ∈ value.children, Every property child) : Every property value

namespace Every

variable {property : Json → Prop} {value : Json}

theorem here (every : Every property value) : property value := by
  cases every with
  | node here inside => exact here

theorem inside (every : Every property value) :
    ∀ child ∈ value.children, Every property child := by
  cases every with
  | node here inside => exact inside

/-- A value without values inside it. -/
theorem leaf (here : property value) (empty : value.children = []) : Every property value :=
  .node here fun _ member => absurd (empty ▸ member) List.not_mem_nil

end Every

mutual

/-- Whether a property that can be decided holds of a value and of every value inside it. -/
def decideEvery (property : Json → Prop) [DecidablePred property] :
    (value : Json) → Decidable (Every property value)
  | .array items =>
    have := decideItems property items
    decidable_of_iff (property (.array items) ∧ ∀ item ∈ items, Every property item)
      ⟨fun ⟨here, inside⟩ => .node here inside, fun every => ⟨every.here, every.inside⟩⟩
  | .object members =>
    have := decideMembers property members
    decidable_of_iff
      (property (.object members) ∧ ∀ member ∈ members, Every property member.2)
      ⟨fun ⟨here, inside⟩ => .node here (List.forall_mem_map.mpr inside),
        fun every => ⟨every.here, List.forall_mem_map.mp every.inside⟩⟩
  | .null | .bool _ | .integer _ | .double _ | .string _ =>
    decidable_of_iff (property _) ⟨fun here => .leaf here rfl, Every.here⟩

/-- Whether it holds throughout the items of a list. -/
def decideItems (property : Json → Prop) [DecidablePred property] :
    (items : List Json) → Decidable (∀ item ∈ items, Every property item)
  | [] => .isTrue fun _ member => absurd member List.not_mem_nil
  | item :: rest =>
    have := decideEvery property item
    have := decideItems property rest
    decidable_of_iff (Every property item ∧ ∀ item ∈ rest, Every property item)
      List.forall_mem_cons.symm

/-- Whether it holds throughout the members of an object. -/
def decideMembers (property : Json → Prop) [DecidablePred property] :
    (members : List (String × Json)) → Decidable (∀ member ∈ members, Every property member.2)
  | [] => .isTrue fun _ member => absurd member List.not_mem_nil
  | (key, value) :: rest =>
    have := decideEvery property value
    have := decideMembers property rest
    decidable_of_iff (Every property value ∧ ∀ member ∈ rest, Every property member.2)
      (by rw [List.forall_mem_cons])

end

instance (property : Json → Prop) [DecidablePred property] : DecidablePred (Every property) :=
  decideEvery property

/-- A number is an integer. -/
def Whole : Json → Prop
  | .double _ => False
  | _ => True

instance : DecidablePred Whole
  | .double _ => .isFalse id
  | .null | .bool _ | .integer _ | .string _ | .array _ | .object _ => .isTrue trivial

/-- An integer is stored in 64 bits, with or without a sign. -/
def Fits (value : Int) : Prop :=
  -9223372036854775808 ≤ value ∧ value ≤ Text.greatestWord

/-- A value as it is stored: integers in 64 bits, and no key out of order. -/
def Tidy : Json → Prop
  | .integer value => Fits value
  | .object members => Text.Ascending Prod.fst members
  | _ => True

instance : DecidablePred Tidy
  | .integer value =>
    inferInstanceAs (Decidable (-9223372036854775808 ≤ value ∧ value ≤ Text.greatestWord))
  | .object members =>
    inferInstanceAs (Decidable (members.Pairwise fun first second =>
      Text.precedes first.1 second.1 = true))
  | .null | .bool _ | .double _ | .string _ | .array _ => .isTrue trivial

/-! ### Nesting -/

mutual

/-- How many lists and objects stand around one another in a value at most. -/
def nesting : Json → Nat
  | .array items => itemsNesting items + 1
  | .object members => membersNesting members + 1
  | _ => 0

/-- The nesting of the items of a list. -/
def itemsNesting : List Json → Nat
  | [] => 0
  | item :: rest => max (nesting item) (itemsNesting rest)

/-- The nesting of the members of an object. -/
def membersNesting : List (String × Json) → Nat
  | [] => 0
  | (_, value) :: rest => max (nesting value) (membersNesting rest)

end

theorem itemsNesting_le_iff {items : List Json} {limit : Nat} :
    itemsNesting items ≤ limit ↔ ∀ item ∈ items, item.nesting ≤ limit := by
  induction items with
  | nil => exact ⟨fun _ _ member => absurd member List.not_mem_nil, fun _ => Nat.zero_le _⟩
  | cons item items hypothesis => rw [itemsNesting, Nat.max_le, hypothesis, List.forall_mem_cons]

theorem membersNesting_le_iff {members : List (String × Json)} {limit : Nat} :
    membersNesting members ≤ limit ↔ ∀ member ∈ members, member.2.nesting ≤ limit := by
  induction members with
  | nil => exact ⟨fun _ _ member => absurd member List.not_mem_nil, fun _ => Nat.zero_le _⟩
  | cons member members hypothesis =>
    rw [membersNesting, Nat.max_le, hypothesis, List.forall_mem_cons]

/-- A list may be opened, and so may the items inside it. -/
theorem nesting_array_lt_iff {items : List Json} {depth : Nat} :
    (Json.array items).nesting < depth ↔ 1 < depth ∧ ∀ item ∈ items, item.nesting < depth - 1 := by
  have inside : itemsNesting items ≤ depth - 2 ↔ ∀ item ∈ items, item.nesting ≤ depth - 2 :=
    itemsNesting_le_iff
  rw [nesting]
  constructor
  · intro shallow
    exact ⟨by omega, fun item member => by have := inside.mp (by omega) item member; omega⟩
  · rintro ⟨opens, each⟩
    have := inside.mpr fun item member => by have := each item member; omega
    omega

/-- An object may be opened, and so may the members inside it. -/
theorem nesting_object_lt_iff {members : List (String × Json)} {depth : Nat} :
    (Json.object members).nesting < depth
      ↔ 1 < depth ∧ ∀ member ∈ members, member.2.nesting < depth - 1 := by
  have inside : membersNesting members ≤ depth - 2
      ↔ ∀ member ∈ members, member.2.nesting ≤ depth - 2 := membersNesting_le_iff
  rw [nesting]
  constructor
  · intro shallow
    exact ⟨by omega, fun member among => by have := inside.mp (by omega) member among; omega⟩
  · rintro ⟨opens, each⟩
    have := inside.mpr fun member among => by have := each member among; omega
    omega

/-! ### The members of an object -/

theorem mem_insertMember {α : Type} {key : String} {value : α} {members : List (String × α)}
    {entry : String × α} (member : entry ∈ insertMember key value members) :
    entry = (key, value) ∨ entry ∈ members := by
  induction members with
  | nil => exact Or.inl (List.mem_singleton.mp member)
  | cons head tail hypothesis =>
    obtain ⟨name, other⟩ := head
    rw [insertMember] at member
    split at member
    · exact (List.mem_cons.mp member).imp_right (List.mem_cons_of_mem _)
    · split at member
      · rcases List.mem_cons.mp member with rfl | behind
        · exact Or.inr List.mem_cons_self
        · exact (hypothesis behind).imp_right (List.mem_cons_of_mem _)
      · exact List.mem_cons.mp member

/-- A member whose key stands behind all others goes to the end. -/
theorem insertMember_of_last {α : Type} {key : String} {value : α} {members : List (String × α)}
    (last : ∀ entry ∈ members, Text.precedes entry.1 key = true) :
    insertMember key value members = members ++ [(key, value)] := by
  induction members with
  | nil => rfl
  | cons head tail hypothesis =>
    have before := last head List.mem_cons_self
    have apart : head.1 ≠ key := fun same => by
      rw [same, Text.precedes_irrefl] at before
      cases before
    rw [insertMember, if_neg apart, if_pos before,
      hypothesis fun entry member => last entry (List.mem_cons_of_mem _ member)]
    rfl

end Json

/-- **An inserted member keeps the others in order**, whether its key is new or not. -/
theorem Text.Ascending.insertMember {α : Type} {members : List (String × α)}
    (ascending : Ascending Prod.fst members) (key : String) (value : α) :
    Ascending Prod.fst (Json.insertMember key value members) := by
  induction members with
  | nil => exact List.pairwise_singleton _ _
  | cons head tail hypothesis =>
    obtain ⟨name, other⟩ := head
    obtain ⟨first, rest⟩ := List.pairwise_cons.mp ascending
    rw [Json.insertMember]
    split
    · rename_i same
      subst same
      exact List.pairwise_cons.mpr ⟨first, rest⟩
    · rename_i different
      split
      · rename_i before
        refine List.pairwise_cons.mpr ⟨fun entry member => ?_, hypothesis rest⟩
        rcases Json.mem_insertMember member with rfl | old
        · exact before
        · exact first entry old
      · rename_i notBefore
        have before : precedes key name = true :=
          (precedes_or_precedes different).resolve_left notBefore
        refine List.pairwise_cons.mpr ⟨fun entry member => ?_, ascending⟩
        rcases List.mem_cons.mp member with rfl | old
        · exact before
        · exact precedes_trans before (first entry old)

namespace Json

/-- Members that are put in their places one after another stand in order, among those that were
there. -/
theorem ascending_foldl_insertMember {start : List (String × Json)}
    (ascending : Text.Ascending Prod.fst start) (members : List (String × Json)) :
    let kept := members.foldl (fun kept member => insertMember member.1 member.2 kept) start
    Text.Ascending Prod.fst kept ∧ ∀ entry ∈ kept, entry ∈ members ∨ entry ∈ start := by
  intro kept
  induction members generalizing start with
  | nil => exact ⟨ascending, fun _ member => .inr member⟩
  | cons member members hypothesis =>
    obtain ⟨ordered, among⟩ := hypothesis (ascending.insertMember member.1 member.2)
    refine ⟨ordered, fun entry listed => ?_⟩
    rcases among entry listed with later | earlier
    · exact .inl (List.mem_cons_of_mem _ later)
    · rcases mem_insertMember earlier with rfl | old
      · exact .inl List.mem_cons_self
      · exact .inr old

/-- **The members of an object that is put together** are in order, and nothing else is in it. -/
theorem exists_ofMembers (members : List (String × Json)) :
    ∃ kept, ofMembers members = .object kept ∧ Text.Ascending Prod.fst kept
      ∧ ∀ entry ∈ kept, entry ∈ members := by
  obtain ⟨ascending, among⟩ := ascending_foldl_insertMember List.Pairwise.nil members
  exact ⟨_, rfl, ascending, fun entry listed =>
    (among entry listed).resolve_right List.not_mem_nil⟩

/-- **An object that is put together is tidy** if its members are. -/
theorem tidy_ofMembers {members : List (String × Json)}
    (each : ∀ member ∈ members, Every Tidy member.2) : Every Tidy (ofMembers members) := by
  obtain ⟨kept, built, ascending, among⟩ := exists_ofMembers members
  rw [built]
  exact .node ascending (List.forall_mem_map.mpr fun entry listed => each entry (among entry listed))

/-- Members with keys of their own that are put in their places come before those that were there. -/
theorem lookup_foldl_insertMember {members : List (String × Json)}
    (once : (members.map Prod.fst).Nodup) (start : List (String × Json)) (key : String) :
    (members.foldl (fun kept member => insertMember member.1 member.2 kept) start).lookup key
      = (members.lookup key).or (start.lookup key) := by
  induction members generalizing start with
  | nil => rfl
  | cons member members hypothesis =>
    obtain ⟨name, value⟩ := member
    obtain ⟨absent, once⟩ := List.nodup_cons.mp once
    rw [List.foldl_cons, hypothesis once, List.lookup_cons]
    by_cases same : key = name
    · have missing : members.lookup key = none := by
        refine List.lookup_eq_none_iff.mpr fun other listed => bne_iff_ne.mpr fun equal => absent ?_
        rw [← same, equal]
        exact List.mem_map.mpr ⟨other, listed, rfl⟩
      rw [missing, same, lookup_insertMember, beq_self_eq_true]
      rfl
    · have apart : (key == name) = false := beq_eq_false_iff_ne.mpr same
      rw [lookup_insertMember_ne same, apart]

/-- **The members of an object that is put together** are found under their keys if no key occurs
twice. -/
theorem member?_ofMembers {members : List (String × Json)}
    (once : (members.map Prod.fst).Nodup) (key : String) :
    (ofMembers members).member? key = members.lookup key :=
  (lookup_foldl_insertMember once [] key).trans Option.or_none

end Json

end Switchboard
