/-
**Files.**

What a program sees of the files of a machine: the bytes behind a path, or why there are none. The
files of a small machine are given by their paths; beside them only the root exists.

* `read_of_lookup`: a file that is given is read;
* `read_empty_path`: nothing else stands behind the empty path.
-/

import Switchboard.Text.Order
import Switchboard.Text.Split
import Switchboard.Text.Utf8

namespace Switchboard

/-- Why a file cannot be read as a text. -/
inductive FileFault where
  | missing
  | directory
  | badPath
  | nameTooLong
  | notText
  | other (reason : String)
deriving DecidableEq, Repr

/-- The text of a fault. -/
def FileFault.message : FileFault → String
  | .missing => "No such file or directory (os error 2)"
  | .directory => "Is a directory (os error 21)"
  | .badPath => "file name contained an unexpected NUL byte"
  | .nameTooLong => "File name too long (os error 36)"
  | .notText => "stream did not contain valid UTF-8"
  | .other reason => reason

/-- The bytes behind a path, or why there are none. -/
abbrev FileReader := String → Except FileFault (List UInt8)

/-- The files of a machine with their paths. -/
abbrev Files := List (String × List UInt8)

namespace Files

/-- The longest path in bytes. -/
def pathLimit : Nat := 4095

/-- The longest name in bytes. -/
def nameLimit : Nat := 255

/-- The names in a path that lead away from the root. -/
def names (path : String) : List (List Char) :=
  (Text.split '/' path.toList).filter fun name =>
    !(name == [] || name == ['.'] || name == ['.', '.'])

/-- Why there is no file behind a path. The first name that leads away from the root is looked up
there and not found, if it is not too long. -/
def faultOf (path : String) : FileFault :=
  if path.toList.contains (Char.ofNat 0) then .badPath
  else if path.isEmpty then .missing
  else if (Text.bytes path).length > pathLimit then .nameTooLong
  else match names path with
    | [] => .directory
    | name :: _ =>
      if (Text.bytes (String.ofList name)).length > nameLimit then .nameTooLong else .missing

/-- The bytes of a file. -/
def read (files : Files) : FileReader := fun path =>
  match files.lookup path with
  | some content => .ok content
  | none => .error (faultOf path)

/-- A file that is given is read. -/
theorem read_of_lookup {files : Files} {path : String} {content : List UInt8}
    (given : files.lookup path = some content) : files.read path = .ok content := by
  simp [read, given]

/-- Nothing else stands behind the empty path. -/
theorem read_empty_path {files : Files} (absent : files.lookup "" = none) :
    files.read "" = .error .missing := by
  simp [read, absent, faultOf]

end Files

end Switchboard
