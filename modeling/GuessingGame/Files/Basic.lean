import GuessingGame.Text.Utf8

/-!
# Files

The files that a program may read are a function from paths to contents. A path
that cannot be read has a reason, and so has a file that holds no text.
-/

namespace GuessingGame

inductive FileError where
  | missing
  | notDirectory
  | isDirectory
  | nameTooLong
  | nulInName
  | notText
  /-- Any other reason, such as that a permission is denied, in the words of the system, and
  whether there is something at the path nevertheless. -/
  | other (reason : String) (found : Bool)
  deriving DecidableEq, Repr

namespace FileError

def message : FileError → String
  | missing => "No such file or directory (os error 2)"
  | notDirectory => "Not a directory (os error 20)"
  | isDirectory => "Is a directory (os error 21)"
  | nameTooLong => "File name too long (os error 36)"
  | nulInName => "file name contained an unexpected NUL byte"
  | notText => "stream did not contain valid UTF-8"
  | other reason _ => reason

end FileError

/-- What can be read at each path. -/
abbrev Files := String → Except FileError (List UInt8)

namespace Files

def text (files : Files) (path : String) : Except FileError String := do
  match Text.Utf8.decode? (← files path) with
  | some text => return text
  | none => throw .notText

/-- Whether something is there to be opened, be it a file or a directory. -/
def hasEntry (files : Files) (path : String) : Bool :=
  match files path with
  | .ok _ => true
  | .error .isDirectory => true
  | .error (.other _ found) => found
  | .error _ => false

end Files

end GuessingGame
