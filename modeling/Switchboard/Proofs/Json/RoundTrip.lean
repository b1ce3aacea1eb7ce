/-
**Printed values are read back.**

The compact text of a value whose numbers are integers is read as this value again, by any reader
that allows its nesting. What stands behind the text is left unread, so the texts of items and
members are read one after another.

* `readItems_next`, `readMembers_next` — a reader of items or members takes the next one off;
* `Reads` — what a reader makes of the text of a value; `reads_of_every` — **every tidy value whose
  numbers are integers is read back**, by induction on the value;
* `parseWithin_toText` — the same of a whole text, for readers with any limit on nesting.
-/

import Switchboard.Proofs.Json.Words

namespace Switchboard.Json

/-! ### One step of a reader -/

theorem skipBlanks_cons {octet : UInt8} (visible : isSpace octet = false) (rest : List UInt8) :
    skipBlanks (octet :: rest) = octet :: rest := by
  unfold skipBlanks
  rw [List.dropWhile_cons_of_neg (by rw [visible]; exact Bool.false_ne_true)]

section Steps

variable {α σ : Type} {item : List UInt8 → Except Failure (α × List UInt8)}
  {member : σ → String → List UInt8 → Except Failure (σ × List UInt8)}

/-- Bytes that an item may begin with. -/
def Begins (octets : List UInt8) : Prop :=
  ∃ octet rest, octets = octet :: rest ∧ isSpace octet = false ∧ octet ≠ 93

theorem Begins.append {octets : List UInt8} (begins : Begins octets) (rest : List UInt8) :
    Begins (octets ++ rest) := by
  obtain ⟨octet, others, rfl, visible, inner⟩ := begins
  exact ⟨octet, others ++ rest, rfl, visible, inner⟩

theorem Begins.length_pos {octets : List UInt8} (begins : Begins octets) : 0 < octets.length := by
  obtain ⟨octet, others, rfl, _⟩ := begins
  exact Nat.succ_pos _

theorem readItems_close (fuel : Nat) (first : Bool) (rest : List UInt8) :
    readItems item (fuel + 1) first (93 :: rest) = .ok ([], rest) :=
  rfl

theorem nextItem_first {octets : List UInt8} (begins : Begins octets) :
    nextItem true octets = .ok (some octets) := by
  obtain ⟨octet, rest, rfl, visible, inner⟩ := begins
  unfold nextItem
  rw [skipBlanks_cons visible]
  split
  · contradiction
  · rename_i same
    cases same
    exact absurd rfl inner
  · rename_i same
    cases same
    rfl

theorem nextItem_next {octets : List UInt8} (begins : Begins octets) :
    nextItem false (44 :: octets) = .ok (some octets) := by
  obtain ⟨octet, rest, rfl, visible, inner⟩ := begins
  have comma : isSpace 44 = false := by decide
  unfold nextItem
  rw [skipBlanks_cons comma]
  split
  · contradiction
  · rename_i same
    cases same
  · rename_i same
    cases same
    rw [if_neg Bool.false_ne_true, if_pos (beq_self_eq_true 44), skipBlanks_cons visible]
    split
    · contradiction
    · rename_i same
      cases same
      exact absurd rfl inner
    · rfl

/-- The first item is read, and then the further ones. -/
theorem readItems_first {octets behind : List UInt8} {value : α} (begins : Begins octets)
    (one : item octets = .ok (value, behind)) (fuel : Nat) :
    readItems item (fuel + 1) true octets
      = (readItems item fuel false behind).map fun found => (value :: found.1, found.2) := by
  rw [readItems, nextItem_first begins]
  simp only [ok_bind, one]
  rfl

/-- The next item stands behind a comma. -/
theorem readItems_next {octets behind : List UInt8} {value : α} (begins : Begins octets)
    (one : item octets = .ok (value, behind)) (fuel : Nat) :
    readItems item (fuel + 1) false (44 :: octets)
      = (readItems item fuel false behind).map fun found => (value :: found.1, found.2) := by
  rw [readItems, nextItem_next begins]
  simp only [ok_bind, one]
  rfl

theorem readMembers_close (fuel : Nat) (first : Bool) (state : σ) (rest : List UInt8) :
    readMembers member (fuel + 1) first state (125 :: rest) = .ok (state, rest) :=
  rfl

/-- The first member is read behind its key, and then the further ones. -/
theorem readMembers_first {state later : σ} {key : String} {rest behind : List UInt8}
    (one : member state key rest = .ok (later, behind)) (fuel : Nat) :
    readMembers member (fuel + 1) true state (Text.bytes (stringText key) ++ rest)
      = readMembers member fuel false later behind := by
  have start : nextKey true (34 :: (quotedBytes key ++ 34 :: rest))
      = .ok (some (quotedBytes key ++ 34 :: rest)) := rfl
  rw [bytes_stringText, List.cons_append, List.append_assoc, List.singleton_append, readMembers,
    start]
  simp only [ok_bind, readString_stringText, one]

/-- The next member stands behind a comma. -/
theorem readMembers_next {state later : σ} {key : String} {rest behind : List UInt8}
    (one : member state key rest = .ok (later, behind)) (fuel : Nat) :
    readMembers member (fuel + 1) false state (44 :: (Text.bytes (stringText key) ++ rest))
      = readMembers member fuel false later behind := by
  rw [← readMembers_first one fuel, bytes_stringText, List.cons_append]
  rfl

end Steps

/-! ### What is printed of a value -/

/-- **What a reader makes of the text of a value.** -/
structure Reads (value : Json) : Prop where
  begins : Begins (Text.bytes value.toText)
  read : ∀ {budget depth : Nat} {rest : List UInt8}, (Text.bytes value.toText).length ≤ budget →
    value.nesting < depth → Stops rest →
    readValue budget depth (Text.bytes value.toText ++ rest) = .ok (value, rest)

/-- A further item, with the comma in front of it. -/
theorem bytes_itemsText_cons (item : Json) (items : List Json) :
    Text.bytes (itemsText (item :: items))
      = 44 :: (Text.bytes item.toText ++ Text.bytes (itemsText items)) := by
  rw [itemsText, Text.bytes_append, Text.bytes_append, List.append_assoc]
  rfl

/-- A further member, with the comma in front of it. -/
theorem bytes_membersText_cons (key : String) (value : Json) (members : List (String × Json)) :
    Text.bytes (membersText ((key, value) :: members))
      = 44 :: (Text.bytes (stringText key)
        ++ 58 :: (Text.bytes value.toText ++ Text.bytes (membersText members))) := by
  rw [membersText]
  simp only [Text.bytes_append, List.append_assoc]
  rfl

theorem stops_itemsText (items : List Json) (rest : List UInt8) :
    Stops (Text.bytes (itemsText items) ++ 93 :: rest) := by
  cases items with
  | nil => exact stops_cons (by decide)
  | cons item items =>
    rw [bytes_itemsText_cons]
    exact stops_cons (by decide)

theorem stops_membersText (members : List (String × Json)) (rest : List UInt8) :
    Stops (Text.bytes (membersText members) ++ 125 :: rest) := by
  cases members with
  | nil => exact stops_cons (by decide)
  | cons member members =>
    rw [bytes_membersText_cons]
    exact stops_cons (by decide)

/-- **The further items of a list are read back**, one step of the budget for each byte of them. -/
theorem readItems_itemsText {items : List Json} (reads : ∀ item ∈ items, Reads item)
    {budget depth : Nat} (shallow : ∀ item ∈ items, item.nesting < depth)
    (enough : (Text.bytes (itemsText items)).length ≤ budget) {fuel : Nat}
    (fuelled : (Text.bytes (itemsText items)).length < fuel) (rest : List UInt8) :
    readItems (readValue budget depth) fuel false (Text.bytes (itemsText items) ++ 93 :: rest)
      = .ok (items, rest) := by
  induction items generalizing fuel with
  | nil =>
    obtain ⟨fuel, rfl⟩ := Nat.exists_eq_succ_of_ne_zero (Nat.ne_of_gt (Nat.zero_lt_of_lt fuelled))
    exact readItems_close fuel false rest
  | cons item items hypothesis =>
    obtain ⟨one, others⟩ := List.forall_mem_cons.mp reads
    obtain ⟨flat, further⟩ := List.forall_mem_cons.mp shallow
    rw [bytes_itemsText_cons, List.length_cons, List.length_append] at enough fuelled
    obtain ⟨fuel, rfl⟩ := Nat.exists_eq_succ_of_ne_zero (Nat.ne_of_gt (Nat.zero_lt_of_lt fuelled))
    have head := one.read (show _ ≤ budget by omega) flat (stops_itemsText items rest)
    rw [bytes_itemsText_cons, List.cons_append, List.append_assoc,
      readItems_next (one.begins.append _) head, hypothesis others further (by omega) (by omega)]
    rfl

theorem readColon_cons (rest : List UInt8) : readColon (58 :: rest) = .ok rest :=
  rfl

/-- A member behind its key, put to the others. -/
def readField (budget depth : Nat) (members : List (String × Json)) (key : String)
    (rest : List UInt8) : Except Failure (List (String × Json) × List UInt8) := do
  let start ← readColon rest
  let (value, left) ← readValue budget depth start
  return (insertMember key value members, left)

theorem readField_toText {value : Json} (reads : Reads value) {budget depth : Nat}
    (enough : (Text.bytes value.toText).length ≤ budget) (shallow : value.nesting < depth)
    {rest : List UInt8} (stops : Stops rest) {members : List (String × Json)} (key : String)
    (last : ∀ entry ∈ members, Text.precedes entry.1 key = true) :
    readField budget depth members key (58 :: (Text.bytes value.toText ++ rest))
      = .ok (members ++ [(key, value)], rest) := by
  unfold readField
  rw [readColon_cons]
  simp only [ok_bind, reads.read enough shallow stops, insertMember_of_last last]
  rfl

/-- **The further members of an object are read back.** Their keys stand behind those of the members
already read, so each goes to the end. -/
theorem readMembers_membersText {members kept : List (String × Json)}
    (reads : ∀ member ∈ members, Reads member.2) {budget depth : Nat}
    (shallow : ∀ member ∈ members, member.2.nesting < depth)
    (ascending : Text.Ascending Prod.fst (kept ++ members))
    (enough : (Text.bytes (membersText members)).length ≤ budget) {fuel : Nat}
    (fuelled : (Text.bytes (membersText members)).length < fuel) (rest : List UInt8) :
    readMembers (readField budget depth) fuel false kept
      (Text.bytes (membersText members) ++ 125 :: rest) = .ok (kept ++ members, rest) := by
  induction members generalizing kept fuel with
  | nil =>
    obtain ⟨fuel, rfl⟩ := Nat.exists_eq_succ_of_ne_zero (Nat.ne_of_gt (Nat.zero_lt_of_lt fuelled))
    rw [List.append_nil]
    exact readMembers_close fuel false kept rest
  | cons member members hypothesis =>
    obtain ⟨key, value⟩ := member
    have one : Reads value := reads _ List.mem_cons_self
    have flat : value.nesting < depth := shallow _ List.mem_cons_self
    have others := (List.forall_mem_cons.mp reads).2
    have further := (List.forall_mem_cons.mp shallow).2
    have last : ∀ entry ∈ kept, Text.precedes entry.1 key = true :=
      fun entry member => (List.pairwise_append.mp ascending).2.2 entry member _ List.mem_cons_self
    rw [bytes_membersText_cons] at enough fuelled
    simp only [List.length_cons, List.length_append] at enough fuelled
    obtain ⟨fuel, rfl⟩ := Nat.exists_eq_succ_of_ne_zero (Nat.ne_of_gt (Nat.zero_lt_of_lt fuelled))
    have head := readField_toText one (show _ ≤ budget by omega) flat
      (stops_membersText members rest) key last
    have behind : Text.Ascending Prod.fst ((kept ++ [(key, value)]) ++ members) := by
      rw [List.append_assoc]
      exact ascending
    rw [bytes_membersText_cons, List.cons_append, List.append_assoc, List.cons_append,
      List.append_assoc, readMembers_next head,
      hypothesis others further behind (by omega) (by omega), List.append_assoc]
    rfl

/-! ### Values -/

/-- The text of a list, cut behind its opening bracket and in front of the closing one. -/
theorem bytes_array (item : Json) (items : List Json) :
    Text.bytes (toText (.array (item :: items)))
      = 91 :: (Text.bytes item.toText ++ (Text.bytes (itemsText items) ++ [93])) := by
  rw [toText]
  simp only [Text.bytes_append, List.append_assoc]
  rfl

/-- The text of an object, cut in the same way. -/
theorem bytes_object (key : String) (value : Json) (members : List (String × Json)) :
    Text.bytes (toText (.object ((key, value) :: members)))
      = 123 :: (Text.bytes (stringText key)
        ++ 58 :: (Text.bytes value.toText ++ (Text.bytes (membersText members) ++ [125]))) := by
  rw [toText]
  simp only [Text.bytes_append, List.append_assoc]
  rfl

theorem openNested_of_lt {depth : Nat} (opens : 1 < depth) (rest : List UInt8) :
    openNested depth rest = .ok (depth - 1) :=
  if_neg (by omega)

theorem readValue_array {depth : Nat} (opens : 1 < depth) (budget : Nat) (rest : List UInt8) :
    readValue (budget + 1) depth (91 :: rest)
      = (readItems (readValue budget (depth - 1)) (budget + 1) true rest).map fun found =>
        (.array found.1, found.2) := by
  show openNested depth (91 :: rest) >>= _ = _
  rw [openNested_of_lt opens, ok_bind]
  rfl

theorem readValue_object {depth : Nat} (opens : 1 < depth) (budget : Nat) (rest : List UInt8) :
    readValue (budget + 1) depth (123 :: rest)
      = (readMembers (readField budget (depth - 1)) (budget + 1) true [] rest).map fun found =>
        (.object found.1, found.2) := by
  show openNested depth (123 :: rest) >>= _ = _
  rw [openNested_of_lt opens, ok_bind]
  rfl

theorem reads_null : Reads .null := by
  refine ⟨⟨110, _, rfl, by decide, by decide⟩, fun {budget depth rest} enough _ _ => ?_⟩
  cases budget with
  | zero => exact absurd enough (by decide)
  | succ budget => rfl

theorem reads_bool (value : Bool) : Reads (.bool value) := by
  cases value with
  | false =>
    refine ⟨⟨102, _, rfl, by decide, by decide⟩, fun {budget depth rest} enough _ _ => ?_⟩
    cases budget with
    | zero => exact absurd enough (by decide)
    | succ budget => rfl
  | true =>
    refine ⟨⟨116, _, rfl, by decide, by decide⟩, fun {budget depth rest} enough _ _ => ?_⟩
    cases budget with
    | zero => exact absurd enough (by decide)
    | succ budget => rfl

theorem reads_string (text : String) : Reads (.string text) := by
  have spelled : Text.bytes (toText (.string text)) = 34 :: (quotedBytes text ++ [34]) :=
    bytes_stringText text
  refine ⟨⟨34, _, spelled, by decide, by decide⟩, fun {budget depth rest} enough _ _ => ?_⟩
  rw [spelled] at enough ⊢
  cases budget with
  | zero => exact absurd enough (by simp)
  | succ budget =>
    rw [List.cons_append, List.append_assoc]
    show (readString (quotedBytes text ++ 34 :: rest)).map _ = _
    rw [readString_stringText]
    rfl

/-- A number begins with a minus sign or a digit, and with no other byte. -/
theorem beq_of_opens {octet other : UInt8} (opens : (octet == 45 || isDigit octet) = true)
    (closed : (other == 45 || isDigit other) = false) : (octet == other) = false := by
  refine beq_eq_false_iff_ne.mpr fun same => ?_
  rw [same, closed] at opens
  cases opens

theorem isSpace_of_opens {octet : UInt8} (opens : (octet == 45 || isDigit octet) = true) :
    isSpace octet = false := by
  unfold isSpace
  rw [beq_of_opens opens (by decide), beq_of_opens opens (by decide),
    beq_of_opens opens (by decide), beq_of_opens opens (by decide)]
  rfl

theorem readValue_number {octet : UInt8} (opens : (octet == 45 || isDigit octet) = true)
    (budget depth : Nat) (rest : List UInt8) :
    readValue (budget + 1) depth (octet :: rest)
      = (readNumber (octet :: rest)).map fun (number, left) => (ofNumber number, left) := by
  have null : (octet == 110) = false := beq_of_opens opens (by decide)
  have true_ : (octet == 116) = false := beq_of_opens opens (by decide)
  have false_ : (octet == 102) = false := beq_of_opens opens (by decide)
  have quote : (octet == 34) = false := beq_of_opens opens (by decide)
  rw [readValue, skipBlanks_cons (isSpace_of_opens opens)]
  simp only [null, true_, false_, quote, opens, if_true, if_false, Bool.false_eq_true]

theorem reads_integer {value : Int} (fits : Fits value) : Reads (.integer value) := by
  obtain ⟨octet, others, spelled, opens⟩ : ∃ octet others,
      Text.bytes (toString value) = octet :: others ∧ (octet == 45 || isDigit octet) = true := by
    cases value with
    | ofNat magnitude =>
      obtain ⟨octet, others, spelled, digit⟩ := bytes_toString_eq_cons magnitude
      exact ⟨octet, others, spelled, by rw [digit, Bool.or_true]⟩
    | negSucc magnitude =>
      exact ⟨45, _, Text.bytes_append "-" (toString (magnitude + 1)), rfl⟩
  refine ⟨⟨octet, others, spelled, isSpace_of_opens opens,
    beq_eq_false_iff_ne.mp (beq_of_opens opens (by decide))⟩,
    fun {budget depth rest} enough _ stops => ?_⟩
  show readValue budget depth (Text.bytes (toString value) ++ rest) = _
  have read := readNumber_toString stops fits
  cases budget with
  | zero =>
    rw [show toText (.integer value) = toString value from rfl, spelled] at enough
    exact absurd enough (Nat.not_succ_le_zero _)
  | succ budget =>
    rw [spelled, List.cons_append] at read ⊢
    rw [readValue_number opens, read]
    rfl

theorem reads_array {items : List Json} (reads : ∀ item ∈ items, Reads item) :
    Reads (.array items) := by
  cases items with
  | nil =>
    refine ⟨⟨91, [93], rfl, rfl, by decide⟩, fun {budget depth rest} enough shallow _ => ?_⟩
    cases budget with
    | zero => exact absurd enough (by decide)
    | succ budget =>
      show readValue (budget + 1) depth (91 :: 93 :: rest) = _
      rw [readValue_array (nesting_array_lt_iff.mp shallow).1, readItems_close]
      rfl
  | cons item items =>
    refine ⟨⟨91, _, bytes_array item items, rfl, by decide⟩,
      fun {budget depth rest} enough shallow _ => ?_⟩
    obtain ⟨opens, each⟩ := nesting_array_lt_iff.mp shallow
    obtain ⟨flat, further⟩ := List.forall_mem_cons.mp each
    obtain ⟨one, others⟩ := List.forall_mem_cons.mp reads
    have some_byte := one.begins.length_pos
    rw [bytes_array] at enough ⊢
    simp only [List.length_cons, List.length_append, List.length_nil] at enough
    obtain ⟨budget, rfl⟩ : ∃ smaller, budget = smaller + 1 := ⟨budget - 1, by omega⟩
    have head := one.read (show _ ≤ budget by omega) flat (stops_itemsText items rest)
    rw [List.cons_append, readValue_array opens, List.append_assoc, List.append_assoc,
      List.singleton_append, readItems_first (one.begins.append _) head,
      readItems_itemsText others further (by omega) (by omega)]
    rfl

theorem reads_object {members : List (String × Json)}
    (reads : ∀ member ∈ members, Reads member.2) (ascending : Text.Ascending Prod.fst members) :
    Reads (.object members) := by
  cases members with
  | nil =>
    refine ⟨⟨123, [125], rfl, rfl, by decide⟩, fun {budget depth rest} enough shallow _ => ?_⟩
    cases budget with
    | zero => exact absurd enough (by decide)
    | succ budget =>
      show readValue (budget + 1) depth (123 :: 125 :: rest) = _
      rw [readValue_object (nesting_object_lt_iff.mp shallow).1, readMembers_close]
      rfl
  | cons member members =>
    obtain ⟨key, value⟩ := member
    refine ⟨⟨123, _, bytes_object key value members, rfl, by decide⟩,
      fun {budget depth rest} enough shallow _ => ?_⟩
    obtain ⟨opens, each⟩ := nesting_object_lt_iff.mp shallow
    have one : Reads value := reads _ List.mem_cons_self
    have flat : value.nesting < depth - 1 := each _ List.mem_cons_self
    have others := (List.forall_mem_cons.mp reads).2
    have further := (List.forall_mem_cons.mp each).2
    have some_byte := one.begins.length_pos
    rw [bytes_object] at enough ⊢
    simp only [List.length_cons, List.length_append, List.length_nil] at enough
    obtain ⟨budget, rfl⟩ : ∃ smaller, budget = smaller + 1 := ⟨budget - 1, by omega⟩
    have head := readField_toText one (show _ ≤ budget by omega) flat
      (stops_membersText members rest) key fun entry member => absurd member List.not_mem_nil
    rw [List.cons_append, readValue_object opens, List.append_assoc, List.cons_append,
      List.append_assoc, List.append_assoc, List.singleton_append, readMembers_first head,
      List.nil_append, readMembers_membersText others further ascending (by omega) (by omega)]
    rfl

/-- **Every tidy value whose numbers are integers is read back.** -/
theorem reads_of_every {value : Json} (tidy : Every Tidy value) (whole : Every Whole value) :
    Reads value := by
  induction tidy with
  | @node value here _ hypothesis =>
    have each : ∀ child ∈ value.children, Reads child :=
      fun child member => hypothesis child member (whole.inside child member)
    cases value with
    | null => exact reads_null
    | bool value => exact reads_bool value
    | integer value => exact reads_integer here
    | double value => exact absurd whole.here id
    | string text => exact reads_string text
    | array items => exact reads_array each
    | object members =>
      exact reads_object (fun member among => each _ (List.mem_map_of_mem among)) here

/-! ### Whole texts -/

/-- The value that a whole text spells, to a reader with some limit on nesting. -/
def parseWithin (limit : Nat) (text : List UInt8) : Except Failure Json := do
  let (value, rest) ← readValue (text.length + 1) limit text
  readEnd rest
  return value

theorem parse_eq_parseWithin : parse = parseWithin nestingLimit := rfl

/-- **A value is read back from its whole text** by every reader that allows its nesting. -/
theorem parseWithin_toText {value : Json} (tidy : Every Tidy value) (whole : Every Whole value)
    {limit : Nat} (shallow : value.nesting < limit) :
    parseWithin limit (Text.bytes value.toText) = .ok value := by
  have read := (reads_of_every tidy whole).read (Nat.le_succ _) shallow stops_nil
  rw [List.append_nil] at read
  unfold parseWithin
  rw [read]
  rfl

end Switchboard.Json
