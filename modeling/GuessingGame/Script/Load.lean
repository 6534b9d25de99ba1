import GuessingGame.Files.Basic
import GuessingGame.Text.Blank

/-!
# Scripts in files

A script is read from a file, which must hold more than blanks.
-/

namespace GuessingGame.Script

def defaultPath : String := "game.cgs"

inductive LoadError where
  | notFound (path : String)
  | empty (path : String)
  | unreadable (path : String) (error : FileError)
  deriving DecidableEq, Repr

namespace LoadError

def path : LoadError → String
  | notFound path | empty path | unreadable path _ => path

def message : LoadError → String
  | notFound path => "Could not find '" ++ path ++ "' file."
  | empty path => "'" ++ path ++ "' is empty."
  | unreadable path error => "Could not read '" ++ path ++ "': " ++ error.message

end LoadError

/-- The script in a file. -/
def load (files : Files) (path : String) : Except LoadError String :=
  match files.text path with
  | .ok text => if Text.allBlank text.toList then .error (.empty path) else .ok text
  | .error .missing => .error (.notFound path)
  | .error error => .error (.unreadable path error)

end GuessingGame.Script
