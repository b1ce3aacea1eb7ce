/-
**Certificates.**

A certificate is a signed statement that a public key belongs to a subject. It is read as far as a
server needs it: its shape is checked, and its public key is taken out; neither the signature nor
the times are looked at.
-/

import Switchboard.Credential.Element

namespace Switchboard.Credential

/-- An extension of a certificate. -/
structure Extension where
  identifier : List UInt8
  critical : Bool
  value : List UInt8
deriving DecidableEq, Repr

namespace Extension

/-- The extensions that are understood, by the last byte of their registered names. -/
def understood : List UInt8 := [15, 17, 19, 30, 31, 37]

/-- The place of the extension among those that are understood. -/
def place? (extension : Extension) : Option UInt8 :=
  match extension.identifier with
  | [0x55, 0x1D, place] => if understood.contains place then some place else none
  | _ => none

/-- The truth value in a content. -/
def truth? : List UInt8 → Option Bool
  | [0xFF] => some true
  | [0x00] => some false
  | _ => none

/-- The extension that a content spells. -/
def ofContent? (content : List UInt8) : Option Extension := do
  let (identifier, rest) ← Element.expect Tag.identifier content
  let (critical, rest) ←
    if rest.head? = some Tag.truth then do
      let (written, rest) ← Element.expect Tag.truth rest
      some (← truth? written, rest)
    else some (false, rest)
  let value ← Element.whole Tag.octets rest
  some { identifier, critical, value }

/-- The extension may stand in a certificate: it is understood and has the shape of its kind, or it
is not critical. The use of a key is written as bits, everything else as a sequence. -/
def isAcceptable (extension : Extension) : Bool :=
  match extension.place? with
  | some place => place = 15 || (Element.whole Tag.sequence extension.value).isSome
  | none => !extension.critical

end Extension

/-- A certificate: the content of the element that its public key is written as. -/
structure Certificate where
  publicKey : List UInt8
deriving DecidableEq, Repr

namespace Certificate

/-- The extensions in a content, with a budget of one more than there may be. -/
def extensions? : Nat → List UInt8 → Option (List Extension)
  | 0, _ => none
  | budget + 1, octets => do
    let (content, rest) ← Element.expect Tag.sequence octets
    let extension ← Extension.ofContent? content
    if rest = [] then some [extension]
    else
      let others ← extensions? budget rest
      some (extension :: others)

/-- Extensions are in order: each one is acceptable, and none that is understood occurs twice. -/
def extensionsAcceptable (extensions : List Extension) : Bool :=
  extensions.all Extension.isAcceptable
    && decide ((extensions.filterMap Extension.place?).Nodup)

/-- The certificate in the signed part of one whose signature has a given algorithm: a version,
which is the third, a serial number, the algorithm again, the issuer, the times, the subject, the
public key, and extensions if there are any. -/
def ofSigned? (algorithm content : List UInt8) : Option Certificate := do
  let (version, rest) ← Element.expect (Tag.placed 0) content
  let (_, rest) ← Element.expect Tag.number rest
  let (repeated, rest) ← Element.expect Tag.sequence rest
  let (_, rest) ← Element.expect Tag.sequence rest
  let (_, rest) ← Element.expect Tag.sequence rest
  let (_, rest) ← Element.expect Tag.sequence rest
  let (publicKey, rest) ← Element.expect Tag.sequence rest
  if version ≠ Element.encodeNatural 2 ∨ repeated ≠ algorithm then none
  else if rest = [] then some ⟨publicKey⟩
  else
    let written ← Element.whole Tag.sequence (← Element.whole (Tag.placed 3) rest)
    let extensions ← extensions? (written.length + 1) written
    if extensionsAcceptable extensions then some ⟨publicKey⟩ else none

/-- The largest certificate. -/
def sizeLimit : Nat := 65535

/-- The certificate that bytes spell: the signed part, the algorithm, and the signature. -/
def read? (octets : List UInt8) : Option Certificate := do
  let content ← Element.whole Tag.sequence octets
  let (signed, rest) ← Element.expect Tag.sequence content
  let (algorithm, rest) ← Element.expect Tag.sequence rest
  let signature ← Element.whole Tag.bits rest
  if sizeLimit ≤ content.length ∨ (Element.wholeBytes? signature).isNone then none
  else ofSigned? algorithm signed

end Certificate

end Switchboard.Credential
