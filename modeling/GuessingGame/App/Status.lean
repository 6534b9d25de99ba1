/-!
# The status line

What the status line tells: the script, how its last loading went, and the theme.
-/

namespace GuessingGame.App

inductive LoadStatus where
  | loaded (levels : Nat)
  | noLevels
  | failed (message : String)
  | idle
  deriving DecidableEq, Repr

/-- What the status line tells. A script that is in no file has no path. -/
structure Status where
  script : Option String := none
  load : LoadStatus := .idle
  theme : String := ""
  deriving DecidableEq, Repr

namespace Status

def scriptText (status : Status) : String := status.script.getD "<inline>"

def loadText (status : Status) : String :=
  match status.load with
  | .loaded levels =>
    if levels = 1 then "OK (1 level)" else "OK (" ++ toString levels ++ " levels)"
  | .noLevels => "NO LEVELS"
  | .failed _ => "ERROR"
  | .idle => "-"

def isError (status : Status) : Bool :=
  match status.load with
  | .failed _ => true
  | _ => false

end Status

end GuessingGame.App
