/-
**Request methods.**

A method is a token: a text of ASCII letters, digits and a few marks that is not empty. Methods that
differ in case are different.

* `Method.ext_token`: a method is determined by its token;
* `ofString?_token`: every method is read back from its token.
-/

namespace Switchboard.Http

/-- The marks that may stand in a token beside letters and digits. -/
def tokenMarks : List Char :=
  ['!', '#', '$', '%', '&', '\'', '*', '+', '-', '.', '^', '_', '\x60', '|', '~']

/-- A character that may stand in a token. -/
def isTokenCharacter (character : Char) : Bool :=
  character.isAlphanum || tokenMarks.contains character

/-- A text of token characters that is not empty. -/
def isToken (text : String) : Bool :=
  !text.toList.isEmpty && text.toList.all isTokenCharacter

/-- A request method. -/
structure Method where
  token : String
  isToken_token : isToken token = true
deriving DecidableEq

namespace Method

/-- The method of a token. -/
def ofString? (text : String) : Option Method :=
  if valid : isToken text = true then some ⟨text, valid⟩ else none

/-- The method `GET`. -/
def get : Method := ⟨"GET", by decide⟩

/-- The method `HEAD`. -/
def head : Method := ⟨"HEAD", by decide⟩

/-- The method `CONNECT`. -/
def connect : Method := ⟨"CONNECT", by decide⟩

instance : Inhabited Method := ⟨get⟩

/-- A method is determined by its token. -/
theorem ext_token {first second : Method} (equal : first.token = second.token) :
    first = second := by
  cases first
  cases second
  simp_all

/-- Every method is read back from its token. -/
theorem ofString?_token (method : Method) : ofString? method.token = some method := by
  simp [ofString?, method.isToken_token]

/-- A method that is read has the token it was read from. -/
theorem token_of_ofString? {text : String} {method : Method}
    (found : ofString? text = some method) : method.token = text := by
  unfold ofString? at found
  split at found
  · simp only [Option.some.injEq] at found
    rw [← found]
  · simp at found

end Method

end Switchboard.Http
