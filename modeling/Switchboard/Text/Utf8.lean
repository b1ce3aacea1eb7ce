/-
**Reading UTF-8.**

Bytes are read one scalar value at a time. Where they are not the form of a scalar value, the bytes
up to the first one that cannot continue are one broken piece.

* `decodeLossy` shows each broken piece as U+FFFD;
* `decode?` accepts only bytes without a broken piece, and `decode?_bytes` says that the bytes of a
  text are read back as it;
* `validLength?` is the number of bytes before the first broken piece.
-/

import Switchboard.Text.Order

namespace Switchboard.Text

/-- The byte lies between two bounds. -/
def within (low high octet : UInt8) : Bool :=
  decide (low ≤ octet) && decide (octet ≤ high)

/-- The range of the second byte behind a first byte that has one. -/
def secondRange (first : UInt8) : Option (UInt8 × UInt8) :=
  if within 0xC2 0xDF first then some (0x80, 0xBF)
  else if first == 0xE0 then some (0xA0, 0xBF)
  else if first == 0xED then some (0x80, 0x9F)
  else if within 0xE1 0xEF first then some (0x80, 0xBF)
  else if first == 0xF0 then some (0x90, 0xBF)
  else if first == 0xF4 then some (0x80, 0x8F)
  else if within 0xF1 0xF3 first then some (0x80, 0xBF)
  else none

/-- The number of bytes that follow a first byte. -/
def followerCount (first : UInt8) : Nat :=
  if first < 0x80 then 0 else if first < 0xE0 then 1 else if first < 0xF0 then 2 else 3

/-- The payload of a byte behind the first. -/
def payload (octet : UInt8) : Nat :=
  octet.toNat % 64

/-- The leading bytes that may follow, at most a given number of them. -/
def followers (first : UInt8) (rest : List UInt8) : List UInt8 :=
  match secondRange first, rest with
  | some (low, high), second :: others =>
    if within low high second then
      second :: (others.take (followerCount first - 1)).takeWhile (within 0x80 0xBF)
    else []
  | _, _ => []

/-- The code point of a first byte and the bytes that follow it. -/
def codePoint (first : UInt8) (following : List UInt8) : Nat :=
  let lead :=
    if first < 0x80 then first.toNat
    else if first < 0xE0 then first.toNat % 32
    else if first < 0xF0 then first.toNat % 16
    else first.toNat % 8
  following.foldl (fun value octet => 64 * value + payload octet) lead

/-- The scalar value at the head, or `none` for a broken piece, with the count of further bytes. -/
def scalar (first : UInt8) (rest : List UInt8) : Option Char × Nat :=
  let following := followers first rest
  if first < 0x80 ∨ ((secondRange first).isSome ∧ following.length = followerCount first) then
    (some (Char.ofNat (codePoint first following)), following.length)
  else (none, following.length)

/-- The scalar values of some bytes in order, `none` for each broken piece. -/
def scalars : List UInt8 → List (Option Char)
  | [] => []
  | first :: rest =>
    let (found, further) := scalar first rest
    found :: scalars (rest.drop further)
termination_by octets => octets.length
decreasing_by simp only [List.length_cons, List.length_drop]; omega

/-- The number of bytes before the first broken piece, `none` if there is none. -/
def validLength? : List UInt8 → Option Nat
  | [] => none
  | first :: rest =>
    match scalar first rest with
    | (none, _) => some 0
    | (some _, further) => (validLength? (rest.drop further)).map (1 + further + ·)
termination_by octets => octets.length
decreasing_by simp only [List.length_cons, List.length_drop]; omega

/-- The text that some bytes spell, if they spell one. -/
def decode? (octets : List UInt8) : Option String :=
  String.fromUTF8? ⟨octets.toArray⟩

/-- A text is read back from its bytes. -/
theorem decode?_bytes (text : String) : decode? (bytes text) = some text := by
  have whole : (⟨(bytes text).toArray⟩ : ByteArray) = text.toByteArray := by
    apply ByteArray.ext
    simp [bytes]
  simp only [decode?, whole, String.fromUTF8?]
  rw [dif_pos text.isValidUTF8]
  rfl

/-- The text of some bytes, each broken piece shown as U+FFFD. -/
def decodeLossy (octets : List UInt8) : String :=
  String.ofList ((scalars octets).map (·.getD (Char.ofNat 0xFFFD)))

end Switchboard.Text
