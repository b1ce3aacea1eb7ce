/-
**The twisted curve.**

The points of `y ^ 2 - x ^ 2 = 1 + d * x ^ 2 * y ^ 2` modulo `2 ^ 255 - 19` can be added by one
formula. A private key is a seed of 32 bytes; its public key is the multiple of the base point that
the digest of the seed gives, written as its second coordinate and the parity of the first.

* `isOn_base`: the base point lies on the curve;
* `length_publicKey`: a public key has 32 bytes.
-/

import Switchboard.Credential.Digest
import Switchboard.Credential.Residue

namespace Switchboard.Credential.Edwards

/-- The registered name of the curve. -/
def identifier : List UInt8 := [0x2B, 0x65, 0x70]

/-- The prime. -/
def prime : Nat :=
  0x7FFFFFFFFFFFFFFFFFFFFFFFFFFFFFFFFFFFFFFFFFFFFFFFFFFFFFFFFFFFFFED

/-- The constant of the equation. -/
def constant : Nat :=
  0x52036CEE2B6FFE738CC740797779E89800700A4D4141D8AB75EB4DCA135978A3

/-- A point of the curve. -/
structure Point where
  x : Nat
  y : Nat
deriving DecidableEq, Repr

/-- The point that changes nothing when it is added. -/
def zero : Point := ⟨0, 1⟩

/-- The base point. -/
def base : Point where
  x := 0x216936D3CD6E53FEC0A4E231FDD6DC5C692CC7609525A7B2C9562D608F25D51A
  y := 0x6666666666666666666666666666666666666666666666666666666666666658

/-- The point lies on the curve. -/
def Point.isOn (point : Point) : Bool :=
  let squareX := point.x * point.x % prime
  let squareY := point.y * point.y % prime
  squareY == (1 + squareX + constant * squareX % prime * squareY) % prime

/-- The sum of two points. -/
def Point.add (point other : Point) : Point :=
  let cross := Residue.mul prime (constant * point.x * other.x % prime) (point.y * other.y)
  ⟨Residue.div prime (point.x * other.y + point.y * other.x) (1 + cross),
    Residue.div prime (point.y * other.y + point.x * other.x) (Residue.sub prime 1 cross)⟩

/-- A multiple of a point. -/
def Point.multiple (count : Nat) (point : Point) : Point :=
  if count = 0 then zero
  else
    let even := multiple (count / 2) (point.add point)
    if count % 2 = 1 then point.add even else even
termination_by count
decreasing_by omega

/-- The number that a seed stands for: of its digest the first 32 bytes, the least significant one
first, as a multiple of eight between `2 ^ 254` and `2 ^ 255`. -/
def scalar (seed : List UInt8) : Nat :=
  let half := 0x4000000000000000000000000000000000000000000000000000000000000000
  let number := natOfBytes ((Digest.digest seed).take 32).reverse
  half + number % half / 8 * 8

/-- A point in 32 bytes, the least significant one first. -/
def Point.bytes (point : Point) : List UInt8 :=
  let sign := 0x8000000000000000000000000000000000000000000000000000000000000000
  (bytesOfNat 32 (point.y + point.x % 2 * sign)).reverse

/-- The public key of a seed. -/
def publicKey (seed : List UInt8) : List UInt8 :=
  (base.multiple (scalar seed)).bytes

/-- The base point lies on the curve. -/
theorem isOn_base : base.isOn = true := by decide +kernel

/-- A public key has 32 bytes. -/
theorem length_publicKey (seed : List UInt8) : (publicKey seed).length = 32 := by
  simp [publicKey, Point.bytes, length_bytesOfNat]

end Switchboard.Credential.Edwards
