/-!
# Failures at the console

The three ways in which talking to the player can fail: the input has ended, a
line of it is no text, or the output takes no more.
-/

namespace GuessingGame.Console

/-- Why the player could not be talked to. -/
inductive Failure where
  | inputClosed
  | notText
  | outputFull
  deriving DecidableEq, Repr

def Failure.message : Failure → String
  | inputClosed => "input closed"
  | notText => "stream did not contain valid UTF-8"
  | outputFull => "failed to write whole buffer"

end GuessingGame.Console
