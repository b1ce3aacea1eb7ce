/-
**Values as they are stored.**

A stored value has its integers in 64 bits and the members of its objects in the order of their keys,
and comes with the proof of that. There are three ways to one: a text is read, an object is put
together, or a value is checked.

* `readStored_eq_ok_iff` — a stored value is read where a value is read;
* `Stored.of?_value` — a stored value passes the check.
-/

import Switchboard.Proofs.Json.Reading

namespace Switchboard.Json

/-- A value whose integers have 64 bits and whose members are in order, at every depth. -/
structure Stored where
  value : Json
  tidy : Every Tidy value

namespace Stored

/-- Null is stored as it is. -/
def null : Stored := ⟨.null, .leaf trivial rfl⟩

instance : Inhabited Stored := ⟨null⟩

/-- The object with some members; of several with one key the last is kept. -/
def ofMembers (members : List (String × Stored)) : Stored where
  value := Json.ofMembers (members.map fun member => (member.1, member.2.value))
  tidy := tidy_ofMembers (List.forall_mem_map.mpr fun member _ => member.2.tidy)

/-- A value, if it is one that may be stored. -/
def of? (value : Json) : Option Stored :=
  if tidy : Every Tidy value then some ⟨value, tidy⟩ else none

/-- A stored value passes the check. -/
theorem of?_value (stored : Stored) : of? stored.value = some stored :=
  dif_pos stored.tidy

end Stored

/-- A value that begins at the next word, as it is stored. -/
def readStored (budget depth : Nat) (rest : List UInt8) : Except Failure (Stored × List UInt8) :=
  match reading : readValue budget depth rest with
  | .ok (value, left) => .ok (⟨value, (yields_readValue _ _ _ _ _ reading).tidy⟩, left)
  | .error failure => .error failure

/-- A stored value is read where a value is read. -/
theorem readStored_eq_ok_iff {budget depth : Nat} {rest left : List UInt8} {stored : Stored} :
    readStored budget depth rest = .ok (stored, left)
      ↔ readValue budget depth rest = .ok (stored.value, left) := by
  unfold readStored
  split
  · rename_i value behind reading
    constructor
    · rintro ⟨⟩
      exact reading
    · intro read
      cases reading.symm.trans read
      rfl
  · rename_i failure reading
    exact ⟨nofun, fun read => nomatch reading.symm.trans read⟩

/-- A stored value that is read is nested less than the limit. -/
theorem yields_readStored (budget depth : Nat) (rest : List UInt8) :
    Yields (fun stored => stored.value.nesting ≤ depth - 1) (readStored budget depth rest) :=
  fun _ _ read => (yields_readValue _ _ _ _ _ (readStored_eq_ok_iff.mp read)).shallow

end Switchboard.Json
