/-
**Curves over prime fields.**

The points of a curve `y ^ 2 = x ^ 3 - 3 * x + b` modulo a prime, with a point at infinity, can be
added. A private key is a number; its public key is that multiple of a fixed base point.

* `isOn_base`: the base point of every curve lies on it.
-/

import Switchboard.Credential.Element
import Switchboard.Credential.Residue

namespace Switchboard.Credential

/-- The curves that keys are made for. -/
inductive Curve where
  | p256
  | p384
  | p521
deriving DecidableEq, Repr

/-- A point of a curve. -/
inductive CurvePoint where
  | infinity
  | affine (x y : Nat)
deriving DecidableEq, Repr

/-- A number of more than 256 bits, cut in front of the last 256. -/
def wide (high low : Nat) : Nat :=
  high * 0x10000000000000000000000000000000000000000000000000000000000000000 + low

namespace Curve

/-- All curves. -/
def all : List Curve := [.p256, .p384, .p521]

/-- The registered name of a curve. -/
def identifier : Curve → List UInt8
  | .p256 => [0x2A, 0x86, 0x48, 0xCE, 0x3D, 0x03, 0x01, 0x07]
  | .p384 => [0x2B, 0x81, 0x04, 0x00, 0x22]
  | .p521 => [0x2B, 0x81, 0x04, 0x00, 0x23]

/-- The curve with a registered name. -/
def ofIdentifier? (name : List UInt8) : Option Curve :=
  all.find? fun curve => curve.identifier == name

/-- The count of bytes in which coordinates are written. -/
def width : Curve → Nat
  | .p256 => 32
  | .p384 => 48
  | .p521 => 66

/-- The prime. -/
def prime : Curve → Nat
  | .p256 =>
    0xFFFFFFFF00000001000000000000000000000000FFFFFFFFFFFFFFFFFFFFFFFF
  | .p384 =>
    wide 0xFFFFFFFFFFFFFFFFFFFFFFFFFFFFFFFF
      0xFFFFFFFFFFFFFFFFFFFFFFFFFFFFFFFEFFFFFFFF0000000000000000FFFFFFFF
  | .p521 =>
    wide 0x1FFFFFFFFFFFFFFFFFFFFFFFFFFFFFFFFFFFFFFFFFFFFFFFFFFFFFFFFFFFFFFFFFF
      0xFFFFFFFFFFFFFFFFFFFFFFFFFFFFFFFFFFFFFFFFFFFFFFFFFFFFFFFFFFFFFFFF

/-- The constant of the equation. -/
def constant : Curve → Nat
  | .p256 =>
    0x5AC635D8AA3A93E7B3EBBD55769886BC651D06B0CC53B0F63BCE3C3E27D2604B
  | .p384 =>
    wide 0xB3312FA7E23EE7E4988E056BE3F82D19
      0x181D9C6EFE8141120314088F5013875AC656398D8A2ED19D2A85C8EDD3EC2AEF
  | .p521 =>
    wide 0x51953EB9618E1C9A1F929A21A0B68540EEA2DA725B99B315F3B8B489918EF109E1
      0x56193951EC7E937B1652C0BD3BB1BF073573DF883D2C34F1EF451FD46B503F00

/-- The number of points, which is the order of the base point. -/
def order : Curve → Nat
  | .p256 =>
    0xFFFFFFFF00000000FFFFFFFFFFFFFFFFBCE6FAADA7179E84F3B9CAC2FC632551
  | .p384 =>
    wide 0xFFFFFFFFFFFFFFFFFFFFFFFFFFFFFFFF
      0xFFFFFFFFFFFFFFFFC7634D81F4372DDF581A0DB248B0A77AECEC196ACCC52973
  | .p521 =>
    wide 0x1FFFFFFFFFFFFFFFFFFFFFFFFFFFFFFFFFFFFFFFFFFFFFFFFFFFFFFFFFFFFFFFFFA
      0x51868783BF2F966B7FCC0148F709A5D03BB5C9B8899C47AEBB6FB71E91386409

/-- The base point. -/
def base : Curve → CurvePoint
  | .p256 => .affine
    0x6B17D1F2E12C4247F8BCE6E563A440F277037D812DEB33A0F4A13945D898C296
    0x4FE342E2FE1A7F9B8EE7EB4A7C0F9E162BCE33576B315ECECBB6406837BF51F5
  | .p384 => .affine
    (wide 0xAA87CA22BE8B05378EB1C71EF320AD74
      0x6E1D3B628BA79B9859F741E082542A385502F25DBF55296C3A545E3872760AB7)
    (wide 0x3617DE4A96262C6F5D9E98BF9292DC29
      0xF8F41DBD289A147CE9DA3113B5F0B8C00A60B1CE1D7E819D7A431D7C90EA0E5F)
  | .p521 => .affine
    (wide 0xC6858E06B70404E9CD9E3ECB662395B4429C648139053FB521F828AF606B4D3DBA
      0xA14B5E77EFE75928FE1DC127A2FFA8DE3348B3C1856A429BF97E7E31C2E5BD66)
    (wide 0x11839296A789A3BC0045C8A5FB42C7D1BD998F54449579B446817AFBD17273E662C
      0x97EE72995EF42640C550B9013FAD0761353C7086A272C24088BE94769FD16650)

/-- The point lies on the curve. -/
def isOn (curve : Curve) : CurvePoint → Bool
  | .infinity => true
  | .affine x y =>
    decide (x < curve.prime) && decide (y < curve.prime)
      && (y * y + 3 * x) % curve.prime == (x * x * x + curve.constant) % curve.prime

/-- The third point on a line with a given slope through two points, mirrored. -/
def along (curve : Curve) (slope x y otherX : Nat) : CurvePoint :=
  let field := curve.prime
  let thirdX := Residue.sub field (Residue.sub field (Residue.mul field slope slope) x) otherX
  .affine thirdX (Residue.sub field (Residue.mul field slope (Residue.sub field x thirdX)) y)

/-- Twice a point. -/
def double (curve : Curve) : CurvePoint → CurvePoint
  | .infinity => .infinity
  | .affine x y =>
    if y = 0 then .infinity
    else
      let field := curve.prime
      curve.along (Residue.div field (Residue.sub field (3 * x * x) 3) (2 * y)) x y x

/-- The sum of two points. -/
def add (curve : Curve) : CurvePoint → CurvePoint → CurvePoint
  | .infinity, other => other
  | point, .infinity => point
  | .affine x y, .affine otherX otherY =>
    if x = otherX then if y = otherY then curve.double (.affine x y) else .infinity
    else
      let field := curve.prime
      curve.along (Residue.div field (Residue.sub field otherY y) (Residue.sub field otherX x))
        x y otherX

/-- A multiple of a point. -/
def multiple (curve : Curve) (count : Nat) (point : CurvePoint) : CurvePoint :=
  if count = 0 then .infinity
  else
    let even := multiple curve (count / 2) (curve.double point)
    if count % 2 = 1 then curve.add point even else even
termination_by count
decreasing_by omega

/-- The two forms in which a point is written: with both coordinates, and with the first one and
the parity of the second. -/
def forms (curve : Curve) : CurvePoint → List (List UInt8)
  | .infinity => []
  | .affine x y =>
    let first := bytesOfNat curve.width x
    [0x04 :: (first ++ bytesOfNat curve.width y), UInt8.ofNat (2 + y % 2) :: first]

/-- The form with both coordinates. -/
def wholeForm (curve : Curve) (point : CurvePoint) : List UInt8 :=
  (curve.forms point).headD []

/-- The base point of every curve lies on it. -/
theorem isOn_base (curve : Curve) : curve.isOn curve.base = true := by
  cases curve <;> decide +kernel

end Curve

end Switchboard.Credential
