/-
**Public keys.**

A public key is written as an element that names its algorithm and holds the key as bits. Two keys
are the same if these bytes are.
-/

import Switchboard.Credential.Curve
import Switchboard.Credential.Edwards

namespace Switchboard.Credential

/-- A public key. -/
inductive PublicKey where
  | rsa (modulus exponent : Nat)
  | curve (shape : Curve) (point : CurvePoint)
  | edwards (octets : List UInt8)
deriving DecidableEq, Repr

namespace PublicKey

/-- The registered name of keys with a modulus. -/
def rsaIdentifier : List UInt8 := [0x2A, 0x86, 0x48, 0x86, 0xF7, 0x0D, 0x01, 0x01, 0x01]

/-- The registered name of keys on the curves over prime fields. -/
def curveIdentifier : List UInt8 := [0x2A, 0x86, 0x48, 0xCE, 0x3D, 0x02, 0x01]

/-- The elements that name the algorithm of a key. -/
def algorithm : PublicKey → List UInt8
  | .rsa _ _ => Element.encode Tag.identifier rsaIdentifier ++ Element.encode Tag.null []
  | .curve shape _ =>
    Element.encode Tag.identifier curveIdentifier
      ++ Element.encode Tag.identifier shape.identifier
  | .edwards _ => Element.encode Tag.identifier Edwards.identifier

/-- The bytes of a key without its algorithm. -/
def octets : PublicKey → List UInt8
  | .rsa modulus exponent =>
    Element.encode Tag.sequence (Element.encodeNatural modulus ++ Element.encodeNatural exponent)
  | .curve shape point => shape.wholeForm point
  | .edwards octets => octets

/-- The content of the element that a key is written as. -/
def content (key : PublicKey) : List UInt8 :=
  Element.encode Tag.sequence key.algorithm ++ Element.encode Tag.bits (0 :: key.octets)

end PublicKey

end Switchboard.Credential
