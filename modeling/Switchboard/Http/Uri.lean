/-
**Request targets.**

A target has one of four forms: a path with an optional query, the asterisk, a scheme with authority
and path, or an authority alone. A fragment is cut off unread. Nothing is decoded.

* `Uri.root`: the target of a request that has been taken over.
-/

import Switchboard.Text.Case
import Switchboard.Text.Order

namespace Switchboard.Http

/-- A request target. -/
structure Uri where
  scheme : Option String
  authority : String
  path : String
  query : Option String
deriving DecidableEq, Repr

namespace Uri

/-- The target `/`. -/
def root : Uri := ⟨none, "", "/", none⟩

instance : Inhabited Uri := ⟨root⟩

/-- The written form of a target. -/
def toText (uri : Uri) : String :=
  (uri.scheme.elim "" (· ++ "://")) ++ uri.authority ++ uri.path
    ++ (uri.query.elim "" ("?" ++ ·))

/-- A character that may stand in a path. -/
def isPathCharacter (character : Char) : Bool :=
  let code := character.toNat
  code == 0x21 || code == 0x22 || (0x24 ≤ code && code ≤ 0x3B) || code == 0x3D
    || (0x40 ≤ code && code ≤ 0x5F) || (0x61 ≤ code && code ≤ 0x7E) || 0x80 ≤ code

/-- A character that may stand in a query. -/
def isQueryCharacter (character : Char) : Bool :=
  let code := character.toNat
  code == 0x21 || (0x24 ≤ code && code ≤ 0x3B) || code == 0x3D || (0x3F ≤ code && code ≤ 0x7E)
    || 0x80 ≤ code

/-- A character other than the percent sign that may stand in an authority. -/
def isAuthorityCharacter (character : Char) : Bool :=
  character.isAlphanum
    || ['!', '$', '&', '\'', '(', ')', '*', '+', ',', '-', '.', ':', ';', '=', '@', '[', ']', '_',
        '~'].contains character

/-- A path and the query behind it, read up to the fragment. -/
def pathAndQuery? (text : List Char) : Option (String × Option String) :=
  let path := text.takeWhile fun character => character != '?' && character != '#'
  if path.all isPathCharacter then
    match text.drop path.length with
    | '?' :: rest =>
      let query := rest.takeWhile (· != '#')
      if query.all isQueryCharacter then some (String.ofList path, some (String.ofList query))
      else none
    | _ => some (String.ofList path, none)
  else none

/-- What has been seen of an authority. -/
structure AuthorityScan where
  colons : Nat := 0
  opened : Bool := false
  closed : Bool := false
  percent : Bool := false
  endsWithAt : Bool := false

/-- See one more character of an authority; `none` if it may not stand there. -/
def AuthorityScan.see? (scan : AuthorityScan) (character : Char) : Option AuthorityScan :=
  let scan := { scan with endsWithAt := character == '@' }
  if character = ':' then
    if scan.colons ≥ 8 then none else some { scan with colons := scan.colons + 1 }
  else if character = '[' then
    if scan.percent || scan.opened then none else some { scan with opened := true }
  else if character = ']' then
    if !scan.opened || scan.closed then none
    else some { scan with closed := true, colons := 0, percent := false }
  else if character = '@' then some { scan with colons := 0, percent := false }
  else if character = '%' then some { scan with percent := true }
  else if isAuthorityCharacter character then some scan
  else none

/-- An authority may end here: brackets are closed, one colon at most stands in front of a port,
something follows user information, and no percent sign stands outside of it. -/
def AuthorityScan.isComplete (scan : AuthorityScan) : Bool :=
  scan.opened == scan.closed && decide (scan.colons ≤ 1) && !scan.endsWithAt && !scan.percent

/-- An authority and what follows it, from a slash, a question mark or a number sign on. -/
def authority? (text : List Char) : Option (List Char × List Char) := do
  let authority := text.takeWhile fun character => !(['/', '?', '#'].contains character)
  let scan ← authority.foldlM AuthorityScan.see? {}
  if scan.isComplete then some (authority, text.drop authority.length) else none

/-- A character that may stand in a scheme. -/
def isSchemeCharacter (character : Char) : Bool :=
  character.isAlphanum || ['+', '-', '.', '~'].contains character

/-- The scheme in front of `://`, and what follows. -/
def splitScheme (text : List Char) : Option (List Char × List Char) :=
  let scheme := text.takeWhile isSchemeCharacter
  match text.drop scheme.length with
  | ':' :: '/' :: '/' :: rest => some (scheme, rest)
  | _ => none

/-- The longest scheme. -/
def schemeLimit : Nat := 64

/-- The longest target in bytes. -/
def lengthLimit : Nat := 65534

/-- The schemes of the web are written in lower case. -/
def canonicalScheme (scheme : String) : String :=
  if Text.lower scheme = "http" ∨ Text.lower scheme = "https" then Text.lower scheme else scheme

/-- A target that is no path: with a scheme, or an authority alone. -/
def ofAuthorityForm? (text : List Char) : Option Uri := do
  match splitScheme text with
  | some (scheme, rest) =>
    if scheme.length > schemeLimit then none
    else
      let (authority, rest) ← authority? rest
      if authority.isEmpty then none
      else
        let (path, query) ← pathAndQuery? rest
        some ⟨some (canonicalScheme (String.ofList scheme)), String.ofList authority,
          if path.isEmpty then "/" else path, query⟩
  | none =>
    let (authority, rest) ← authority? text
    if rest.isEmpty then some ⟨none, String.ofList authority, "", none⟩ else none

/-- The target that a text spells. -/
def ofString? (text : String) : Option Uri :=
  if (Text.bytes text).length > lengthLimit then none
  else match text.toList with
    | [] => none
    | ['*'] => some ⟨none, "", "*", none⟩
    | '/' :: rest => do
      let (path, query) ← pathAndQuery? ('/' :: rest)
      some ⟨none, "", path, query⟩
    | characters => ofAuthorityForm? characters

end Uri

end Switchboard.Http
