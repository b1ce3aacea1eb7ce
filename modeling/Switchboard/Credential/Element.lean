/-
**Tagged elements.**

Certificates and keys are nested elements: a tag, the length of the content, and the content. Each
length has one form, the shortest one, with at most four bytes behind the first.

* `length_bytesOfNat`: a number is written in as many bytes as are asked for;
* `natOfBytes_append`: reading bytes as a number shifts what stands in front;
* `natOfBytes_bytesOfNat`: a number that fits is read back from its bytes;
* `read_encode_of_short`: an element with a short content is read back from its bytes, whatever
  follows them.
-/

namespace Switchboard.Credential

/-- The number that bytes spell, the most significant one first. -/
def natOfBytes (octets : List UInt8) : Nat :=
  octets.foldl (fun number octet => 256 * number + octet.toNat) 0

/-- A number in a given count of bytes, the most significant one first. -/
def bytesOfNat : Nat → Nat → List UInt8
  | 0, _ => []
  | count + 1, number => bytesOfNat count (number / 256) ++ [UInt8.ofNat (number % 256)]

/-- How many bytes a number needs. -/
def byteCount (number : Nat) : Nat :=
  if number = 0 then 0 else number.log2 / 8 + 1

/-- A number in as few bytes as it needs. -/
def shortestBytes (number : Nat) : List UInt8 :=
  bytesOfNat (byteCount number) number

/-- An element. -/
structure Element where
  tag : UInt8
  content : List UInt8
deriving DecidableEq, Repr

namespace Tag

/-- A truth value. -/
def truth : UInt8 := 0x01

/-- A whole number. -/
def number : UInt8 := 0x02

/-- A text of bits. -/
def bits : UInt8 := 0x03

/-- A text of bytes. -/
def octets : UInt8 := 0x04

/-- No content. -/
def null : UInt8 := 0x05

/-- A name that a registry gives out. -/
def identifier : UInt8 := 0x06

/-- A sequence of elements. -/
def sequence : UInt8 := 0x30

/-- Elements to which their place gives a meaning. -/
def placed (place : UInt8) : UInt8 := 0xA0 + place

end Tag

namespace Element

/-- The length of a content and the bytes behind it. -/
def readLength : List UInt8 → Option (Nat × List UInt8)
  | [] => none
  | first :: rest =>
    if first < 128 then some (first.toNat, rest)
    else
      let count := first.toNat - 128
      let digits := rest.take count
      let length := natOfBytes digits
      if count ≤ 4 ∧ digits.length = count ∧ 128 ≤ length ∧ byteCount length = count then
        some (length, rest.drop count)
      else none

/-- The element at the head and the bytes behind it. A tag has one byte. -/
def read : List UInt8 → Option (Element × List UInt8)
  | [] => none
  | tag :: rest =>
    if tag.toNat % 32 = 31 then none
    else do
      let (length, behind) ← readLength rest
      if length ≤ behind.length then some (⟨tag, behind.take length⟩, behind.drop length)
      else none

/-- The content of an element with a given tag at the head and the bytes behind it. -/
def expect (tag : UInt8) (octets : List UInt8) : Option (List UInt8 × List UInt8) := do
  let (element, behind) ← read octets
  if element.tag = tag then some (element.content, behind) else none

/-- The content of an element with a given tag, if it is all there is. -/
def whole (tag : UInt8) (octets : List UInt8) : Option (List UInt8) := do
  let (content, behind) ← expect tag octets
  if behind = [] then some content else none

/-- A whole number that is not negative, in its shortest form, and the bytes behind it. -/
def expectNatural (octets : List UInt8) : Option (Nat × List UInt8) := do
  let (content, behind) ← expect Tag.number octets
  match content with
  | [] => none
  | [octet] => if octet < 128 then some (octet.toNat, behind) else none
  | first :: second :: rest =>
    if first < 128 ∧ (first ≠ 0 ∨ 128 ≤ second) then
      some (natOfBytes (first :: second :: rest), behind)
    else none

/-- The bytes of a text of whole bytes that is written as bits. -/
def wholeBytes? : List UInt8 → Option (List UInt8)
  | 0 :: octets => some octets
  | _ => none

/-- The bytes of a length. -/
def encodeLength (length : Nat) : List UInt8 :=
  if length < 128 then [UInt8.ofNat length]
  else UInt8.ofNat (128 + byteCount length) :: shortestBytes length

/-- The bytes of an element. -/
def encode (tag : UInt8) (content : List UInt8) : List UInt8 :=
  tag :: (encodeLength content.length ++ content)

/-- The bytes of a whole number. -/
def encodeNatural (value : Nat) : List UInt8 :=
  let digits := shortestBytes value
  encode Tag.number (if value = 0 ∨ 128 ≤ digits.headD 0 then 0 :: digits else digits)

/-- An element with a short content is read back from its bytes, whatever follows them. -/
theorem read_encode_of_short {tag : UInt8} {content : List UInt8} (rest : List UInt8)
    (plain : tag.toNat % 32 ≠ 31) (short : content.length < 128) :
    read (encode tag content ++ rest) = some (⟨tag, content⟩, rest) := by
  have small : content.length % 256 = content.length := Nat.mod_eq_of_lt (by omega)
  have below : UInt8.ofNat content.length < 128 := by
    rw [UInt8.lt_iff_toNat_lt, UInt8.toNat_ofNat', small]
    exact short
  simp [encode, encodeLength, short, read, plain, readLength, below, small]

end Element

/-- A number is written in as many bytes as are asked for. -/
theorem length_bytesOfNat (count number : Nat) : (bytesOfNat count number).length = count := by
  induction count generalizing number with
  | zero => rfl
  | succ count hypothesis => simp [bytesOfNat, hypothesis]

/-- Reading bytes as a number shifts what stands in front. -/
theorem natOfBytes_append (front : List UInt8) (octet : UInt8) :
    natOfBytes (front ++ [octet]) = 256 * natOfBytes front + octet.toNat := by
  simp [natOfBytes]

/-- A number that fits is read back from its bytes. -/
theorem natOfBytes_bytesOfNat {count number : Nat} (fits : number < Nat.pow 256 count) :
    natOfBytes (bytesOfNat count number) = number := by
  induction count generalizing number with
  | zero =>
    have least : number = 0 := Nat.lt_one_iff.mp fits
    simp [bytesOfNat, natOfBytes, least]
  | succ count hypothesis =>
    have rest : number / 256 < Nat.pow 256 count :=
      (Nat.div_lt_iff_lt_mul (by decide)).mpr fits
    have last : (UInt8.ofNat (number % 256)).toNat = number % 256 := by
      rw [UInt8.toNat_ofNat']
      exact Nat.mod_eq_of_lt (Nat.mod_lt number (by decide))
    rw [bytesOfNat, natOfBytes_append, hypothesis rest, last]
    omega

end Switchboard.Credential
