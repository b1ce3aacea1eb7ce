/-
**Bytes written with sixty-four characters.**

Four characters stand for three bytes. A last group of two or three characters is filled up with
equals signs and stands for one or two bytes; the bits that are left over in it do not matter.

* `length_of_group?`: a group stands for one to three bytes;
* `decode?_nil`: no characters stand for no bytes.
-/

namespace Switchboard.Text.Base64

/-- Blanks between the characters: the space and the controls from tab to carriage return. -/
def isBlank (octet : UInt8) : Bool :=
  octet == 32 || (decide (9 ≤ octet) && decide (octet ≤ 13))

/-- The six bits that a character stands for. -/
def value? (octet : UInt8) : Option Nat :=
  if 65 ≤ octet ∧ octet ≤ 90 then some (octet.toNat - 65)
  else if 97 ≤ octet ∧ octet ≤ 122 then some (octet.toNat - 97 + 26)
  else if 48 ≤ octet ∧ octet ≤ 57 then some (octet.toNat - 48 + 52)
  else if octet = 43 then some 62
  else if octet = 47 then some 63
  else none

/-- The bytes of four characters, of which up to two may be equals signs at the end. -/
def group? (first second third fourth : UInt8) : Option (List UInt8) := do
  let high ← value? first
  let next ← value? second
  let one := UInt8.ofNat (4 * high + next / 16)
  if third = 61 ∧ fourth = 61 then some [one]
  else
    let low ← value? third
    let two := UInt8.ofNat (next % 16 * 16 + low / 4)
    if fourth = 61 then some [one, two]
    else
      let last ← value? fourth
      some [one, two, UInt8.ofNat (low % 4 * 64 + last)]

/-- The bytes of characters without blanks. Only the last group is filled up. -/
def decodeGroups? : List UInt8 → Option (List UInt8)
  | [] => some []
  | first :: second :: third :: fourth :: rest => do
    let octets ← group? first second third fourth
    if octets.length = 3 ∨ rest = [] then
      let others ← decodeGroups? rest
      some (octets ++ others)
    else none
  | _ => none

/-- The bytes that characters stand for, whatever blanks there are between them. -/
def decode? (octets : List UInt8) : Option (List UInt8) :=
  decodeGroups? (octets.filter fun octet => !isBlank octet)

/-- A group stands for one to three bytes. -/
theorem length_of_group? {first second third fourth : UInt8} {octets : List UInt8}
    (found : group? first second third fourth = some octets) :
    1 ≤ octets.length ∧ octets.length ≤ 3 := by
  simp only [group?, Option.bind_eq_bind] at found
  cases high : value? first with
  | none => simp [high] at found
  | some _ =>
    cases next : value? second with
    | none => simp [high, next] at found
    | some _ =>
      simp only [high, next, Option.bind_some] at found
      split at found
      · cases found
        simp
      · cases low : value? third with
        | none => simp [low] at found
        | some _ =>
          simp only [low, Option.bind_some] at found
          split at found
          · cases found
            simp
          · cases last : value? fourth with
            | none => simp [last] at found
            | some _ =>
              simp only [last, Option.bind_some] at found
              cases found
              simp

/-- No characters stand for no bytes. -/
theorem decode?_nil : decode? [] = some [] := rfl

end Switchboard.Text.Base64
