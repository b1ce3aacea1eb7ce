/-
**Private keys.**

A private key comes in one of three forms: on its own with a modulus or on a curve, or inside an
element that names its algorithm. It is usable if its parts fit together and its algorithm is one
that a server signs with; then it has a public key.

* `mul_of_isUsable`: the modulus of a usable key is the product of its two primes.
-/

import Switchboard.Credential.PublicKey

namespace Switchboard.Credential

/-- The form of a private key. -/
inductive KeyForm where
  /-- inside an element that names the algorithm -/
  | named
  | rsa
  | curve
deriving DecidableEq, Repr

/-- The form of a key, told from how its bytes begin: a version, and behind it the algorithm if it
is named. Lengths are passed over unread. -/
def KeyForm.ofBytes? (octets : List UInt8) : Option KeyForm :=
  match octets with
  | tag :: length :: _ =>
    let skipped := if length < 128 then 2 else 2 + (length.toNat - 128)
    if tag ≠ Tag.sequence ∨ octets.length < skipped then none
    else match octets.drop skipped with
      | 0x02 :: 0x01 :: version :: rest =>
        if rest.head? = some Tag.sequence then some .named
        else if version = 0 then some .rsa
        else if version = 1 then some .curve
        else none
      | _ => none
  | _ => none

/-- The numbers of a private key with a modulus. -/
structure RsaKey where
  modulus : Nat
  publicExponent : Nat
  privateExponent : Nat
  firstPrime : Nat
  secondPrime : Nat
  firstExponent : Nat
  secondExponent : Nat
  coefficient : Nat
deriving DecidableEq, Repr

namespace RsaKey

/-- The numbers fit together, and the modulus has 2048 to 8192 bits. -/
def isUsable (key : RsaKey) : Bool :=
  let bits := key.modulus.log2 + 1
  let first := key.firstPrime - 1
  let second := key.secondPrime - 1
  let product := key.publicExponent * key.privateExponent
  decide (2048 ≤ bits) && decide (bits ≤ 8192)
    && key.modulus % 2 == 1
    && key.publicExponent % 2 == 1 && decide (1 < key.publicExponent)
    && decide (key.publicExponent < 0x200000000)
    && decide (key.privateExponent < key.modulus)
    && key.firstPrime * key.secondPrime == key.modulus
    && product % first == 1 && product % second == 1
    && key.firstExponent == key.privateExponent % first
    && key.secondExponent == key.privateExponent % second
    && decide (key.coefficient < key.firstPrime)
    && key.coefficient * key.secondPrime % key.firstPrime == 1

/-- The key in the content of an element, behind the version. -/
def ofNaturals? : List Nat → Option RsaKey
  | [modulus, publicExponent, privateExponent, firstPrime, secondPrime, firstExponent,
      secondExponent, coefficient] =>
    some { modulus, publicExponent, privateExponent, firstPrime, secondPrime, firstExponent,
           secondExponent, coefficient }
  | _ => none

/-- A given count of whole numbers and nothing behind them. -/
def naturals? : Nat → List UInt8 → Option (List Nat)
  | 0, octets => if octets = [] then some [] else none
  | count + 1, octets => do
    let (value, behind) ← Element.expectNatural octets
    let values ← naturals? count behind
    some (value :: values)

/-- The key that bytes spell: a version, which is zero, and eight numbers. -/
def ofContent? (content : List UInt8) : Option RsaKey := do
  match ← naturals? 9 content with
  | 0 :: values => ofNaturals? values
  | _ => none

/-- The modulus of a usable key is the product of its two primes. -/
theorem mul_of_isUsable {key : RsaKey} (usable : key.isUsable = true) :
    key.firstPrime * key.secondPrime = key.modulus := by
  simp only [isUsable, Bool.and_eq_true, beq_iff_eq] at usable
  omega

end RsaKey

/-- The curve that an element with its name at the head stands for, if nothing follows. -/
def Curve.ofNamed? (octets : List UInt8) : Option Curve := do
  Curve.ofIdentifier? (← Element.whole Tag.identifier octets)

namespace PrivateKey

/-- The optional element with a given place at the head, and the bytes behind it. -/
def optionalAt (place : UInt8) (octets : List UInt8) :
    Option (Option (List UInt8) × List UInt8) :=
  if octets.head? = some (Tag.placed place) then do
    let (content, behind) ← Element.expect (Tag.placed place) octets
    some (some content, behind)
  else some (none, octets)

/-- The public key of a key on a curve: a version, which is one, a number below the order of the
curve, the curve if it is named, and the public key if it is given. -/
def ofCurveContent? (named : Option Curve) (content : List UInt8) : Option PublicKey := do
  let (version, rest) ← Element.expectNatural content
  let (digits, rest) ← Element.expect Tag.octets rest
  let (inner, rest) ← optionalAt 0 rest
  let (given, rest) ← optionalAt 1 rest
  let own ← match inner with
    | none => some none
    | some name => (Curve.ofNamed? name).map some
  let curve ← own.or named
  let number := natOfBytes digits
  if version ≠ 1 ∨ rest ≠ [] ∨ (named.isSome ∧ named ≠ some curve) ∨ number = 0
      ∨ curve.order ≤ number then none
  else
    let point := curve.multiple number curve.base
    match given with
    | none => some (.curve curve point)
    | some written =>
      let octets ← Element.wholeBytes? (← Element.whole Tag.bits written)
      if (curve.forms point).contains octets then some (.curve curve point) else none

/-- The public key of a key with a modulus. -/
def ofRsaContent? (content : List UInt8) : Option PublicKey := do
  let key ← RsaKey.ofContent? content
  if key.isUsable then some (.rsa key.modulus key.publicExponent) else none

/-- The public key of a seed, which is given again if `given` holds it. -/
def ofSeed? (given : Option (List UInt8)) (seed : List UInt8) : Option PublicKey :=
  if seed.length ≠ 32 then none
  else
    let octets := Edwards.publicKey seed
    match given with
    | none => some (.edwards octets)
    | some written => if written = 0 :: octets then some (.edwards octets) else none

/-- The public key of a key whose algorithm is named. -/
def ofNamedContent? (content : List UInt8) : Option PublicKey := do
  let (version, rest) ← Element.expectNatural content
  let (algorithm, rest) ← Element.expect Tag.sequence rest
  let (key, rest) ← Element.expect Tag.octets rest
  let (_, rest) ← optionalAt 0 rest
  let given ←
    if rest.head? = some 0x81 then (Element.expect 0x81 rest).map fun found => some found.1
    else some none
  let (name, parameters) ← Element.expect Tag.identifier algorithm
  if 1 < version ∨ (version = 0 ∧ given.isSome) then none
  else if name = PublicKey.rsaIdentifier then
    if (← Element.whole Tag.null parameters) = [] then
      ofRsaContent? (← Element.whole Tag.sequence key)
    else none
  else if name = PublicKey.curveIdentifier then
    let curve ← Curve.ofNamed? parameters
    ofCurveContent? (some curve) (← Element.whole Tag.sequence key)
  else if name = Edwards.identifier ∧ parameters = [] then
    ofSeed? given (← Element.whole Tag.octets key)
  else none

/-- The public key of a private key of a given form, if the key is usable. -/
def publicKey? (form : KeyForm) (octets : List UInt8) : Option PublicKey := do
  let (content, _) ← Element.expect Tag.sequence octets
  match form with
  | .named => ofNamedContent? content
  | .rsa => ofRsaContent? content
  | .curve => ofCurveContent? none content

end PrivateKey

end Switchboard.Credential
