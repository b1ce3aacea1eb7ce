/-
**A certificate with its key.**

A server that encrypts is given two armored texts: one with a chain of certificates, the first of
which is its own, and one with a single private key among whatever else it holds. The pair can be
used if the public key of the private one is the one that the certificate speaks of.

* `check_of_no_key`: without a private key the pair cannot be used, unless the certificates are
  broken already.
-/

import Switchboard.Credential.Armor
import Switchboard.Credential.Certificate
import Switchboard.Credential.PrivateKey
import Switchboard.Text.Quoted
import Switchboard.Text.Utf8

namespace Switchboard.Credential

/-- Why a pair cannot be used. -/
inductive PairFault where
  /-- a section of the certificates is broken -/
  | armor (fault : ArmorFault)
  /-- there is no private key, or more than one -/
  | notOneKey
  | unknownForm
  | unusableKey
  | noCertificate
  | badCertificate
  | differentKeys
deriving DecidableEq, Repr

/-- The text of a fault of a section. -/
def ArmorFault.message : ArmorFault → String
  | .badStart line => "illegal section start: " ++ Text.quoted (Text.decodeLossy line)
  | .noEnd name => "section end " ++ Text.quoted (Text.decodeLossy (endMark name)) ++ " missing"
  | .badContent => "invalid base64"

/-- The text of a fault. -/
def PairFault.message : PairFault → String
  | .armor fault => fault.message
  | .notOneKey => "private key format not supported"
  | .unknownForm => "unknown or invalid key format"
  | .unusableKey => "unexpected error: failed to parse private key as RSA, ECDSA, or EdDSA"
  | .noCertificate => "peer sent no certificates"
  | .badCertificate => "invalid peer certificate: BadEncoding"
  | .differentKeys => "keys may not be consistent: KeyMismatch"

/-- The certificates of an armored text, in order. -/
def certificatesOf (text : List UInt8) : Except ArmorFault (List (List UInt8)) := do
  let found ← (sections text).mapM id
  return (found.filter fun found => found.label = .certificate).map Section.content

/-- The private keys of an armored text, in order; broken sections are passed over. -/
def keysOf (text : List UInt8) : List (List UInt8) :=
  (sections text).filterMap fun found =>
    match found with
    | .ok found => if found.label.isPrivateKey then some found.content else none
    | .error _ => none

/-- The public key of the only private key of a text. -/
def publicKeyOf (text : List UInt8) : Except PairFault PublicKey :=
  match keysOf text with
  | [octets] =>
    match KeyForm.ofBytes? octets with
    | none => .error .unknownForm
    | some form =>
      match PrivateKey.publicKey? form octets with
      | none => .error .unusableKey
      | some key => .ok key
  | _ => .error .notOneKey

/-- The first certificate of a chain speaks of a public key. -/
def matchChain (chain : List (List UInt8)) (key : PublicKey) : Except PairFault Unit :=
  match chain with
  | [] => .error .noCertificate
  | first :: _ =>
    match Certificate.read? first with
    | none => .error .badCertificate
    | some certificate =>
      if certificate.publicKey = key.content then .ok () else .error .differentKeys

/-- Check the text of the certificates and the text of the key. -/
def check (certificates key : List UInt8) : Except PairFault Unit :=
  match certificatesOf certificates with
  | .error fault => .error (.armor fault)
  | .ok chain => (publicKeyOf key).bind (matchChain chain)

/-- Without a private key the pair cannot be used, unless the certificates are broken already. -/
theorem check_of_no_key {certificates key : List UInt8} {chain : List (List UInt8)}
    (whole : certificatesOf certificates = .ok chain) (absent : keysOf key = []) :
    check certificates key = .error .notOneKey := by
  simp [check, whole, publicKeyOf, absent, Except.bind]

end Switchboard.Credential
