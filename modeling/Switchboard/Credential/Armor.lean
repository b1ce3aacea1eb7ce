/-
**Armored texts.**

An armored text holds sections between a line that begins one and a line that ends it; both name
the kind of its content, and the lines between them write it with sixty-four characters. Text
outside of sections and sections of unknown kinds are passed over. A section that is broken is
reported in its place, and reading goes on behind it.

* `sections_of_plain`: a text in which no line begins a section has none.
-/

import Switchboard.Text.Base64
import Switchboard.Text.Order
import Switchboard.Text.Split

namespace Switchboard.Credential

/-- What a section holds. -/
inductive Label where
  | certificate
  | request
  | revocations
  | publicKey
  /-- a private key with its algorithm -/
  | key
  | rsaKey
  | curveKey
  | greeting
deriving DecidableEq, Repr

namespace Label

/-- The name of a kind in the lines around a section. -/
def name : Label → String
  | .certificate => "CERTIFICATE"
  | .request => "CERTIFICATE REQUEST"
  | .revocations => "X509 CRL"
  | .publicKey => "PUBLIC KEY"
  | .key => "PRIVATE KEY"
  | .rsaKey => "RSA PRIVATE KEY"
  | .curveKey => "EC PRIVATE KEY"
  | .greeting => "ECHCONFIG"

/-- All kinds. -/
def all : List Label :=
  [.certificate, .request, .revocations, .publicKey, .key, .rsaKey, .curveKey, .greeting]

/-- The kind with a name. -/
def ofName? (name : List UInt8) : Option Label :=
  all.find? fun label => Text.bytes label.name == name

/-- The section holds a private key. -/
def isPrivateKey (label : Label) : Bool :=
  label = .key || label = .rsaKey || label = .curveKey

end Label

/-- A section of an armored text. -/
structure Section where
  label : Label
  content : List UInt8
deriving DecidableEq, Repr

/-- Why a section cannot be read. -/
inductive ArmorFault where
  /-- the first line of a section does not end in five hyphens -/
  | badStart (line : List UInt8)
  /-- the text ends inside of a section -/
  | noEnd (name : List UInt8)
  /-- the content is not written with sixty-four characters -/
  | badContent
deriving DecidableEq, Repr

/-- The lines of a text; a carriage return ends one as a line feed does. -/
def lines (text : List UInt8) : List (List UInt8) :=
  Text.split 10 (text.map fun octet => if octet == 13 then 10 else octet)

/-- The hyphens at both ends of the lines around a section. -/
def hyphens : List UInt8 :=
  Text.bytes "-----"

/-- How a line that begins a section starts. -/
def startMark : List UInt8 :=
  Text.bytes "-----BEGIN "

/-- How the line that ends a section with a name starts. -/
def endMark (name : List UInt8) : List UInt8 :=
  Text.bytes "-----END " ++ name ++ hyphens

/-- The name in a line that begins a section: what stands in front of five hyphens at its end.
Spaces between and behind the hyphens are passed over. -/
def startName? (line : List UInt8) : Option (List UInt8) :=
  let tail := (line.reverse.takeWhile fun octet => octet == 45 || octet == 32).reverse
  let closing := tail.dropWhile (· == 32)
  if closing.countP (· == 45) = 5 then
    some ((line.take (line.length - closing.length)).drop startMark.length)
  else none

/-- What has been read of an armored text. -/
structure ArmorScan where
  /-- the name of the section that is open -/
  name : Option (List UInt8) := none
  /-- the lines of its content, the last one first -/
  body : List (List UInt8) := []
  /-- the sections that are closed, the last one first -/
  found : List (Except ArmorFault Section) := []

/-- Read one more line. A section that begins inside of another one takes over its lines. -/
def ArmorScan.step (scan : ArmorScan) (line : List UInt8) : ArmorScan :=
  if startMark.isPrefixOf line then
    match startName? line with
    | some name => { scan with name := some name }
    | none => { found := .error (.badStart line) :: scan.found }
  else match scan.name with
    | none => scan
    | some name =>
      if (endMark name).isPrefixOf line then
        match Label.ofName? name, Text.Base64.decode? scan.body.reverse.flatten with
        | none, _ => { found := scan.found }
        | some label, some content => { found := .ok ⟨label, content⟩ :: scan.found }
        | some _, none => { found := .error .badContent :: scan.found }
      else { scan with body := line :: scan.body }

/-- The sections of a text in order. -/
def sections (text : List UInt8) : List (Except ArmorFault Section) :=
  let scan := (lines text).foldl ArmorScan.step {}
  let unfinished := match scan.name with
    | some name => [.error (.noEnd name)]
    | none => []
  scan.found.reverse ++ unfinished

/-- Lines that begin no section leave nothing behind. -/
theorem foldl_step_of_plain {rest : List (List UInt8)}
    (plain : ∀ line ∈ rest, startMark.isPrefixOf line = false) :
    rest.foldl ArmorScan.step {} = {} := by
  induction rest with
  | nil => rfl
  | cons line others hypothesis =>
    have still : ArmorScan.step {} line = {} := by
      simp [ArmorScan.step, plain line (by simp)]
    rw [List.foldl_cons, still]
    exact hypothesis fun other member => plain other (by simp [member])

/-- A text in which no line begins a section has none. -/
theorem sections_of_plain {text : List UInt8}
    (plain : ∀ line ∈ lines text, startMark.isPrefixOf line = false) : sections text = [] := by
  simp [sections, foldl_step_of_plain plain]

end Switchboard.Credential
