import GuessingGame.Script.Token

/-!
# Faults of a script

Everything that can stop the reading of a script, with the place to point at.
The cause is kept as a value; `Fault.message` is the only function that words it.
-/

namespace GuessingGame.Script

inductive Cause where
  /-- A character that starts no token. -/
  | illegalCharacter (c : Char)
  /-- A word that is no keyword. -/
  | unknownKeyword (word : String)
  /-- A number that does not fit in sixty-four bits. -/
  | invalidInteger (digits : String)
  /-- A token of the wrong kind where one of `expected` was required. -/
  | unexpected (expected : List TokenKind) (found : TokenKind)
  /-- A level that could not be played to its end. -/
  | interrupted (reason : String)
  deriving DecidableEq, Repr

namespace Cause

def message : Cause → String
  | illegalCharacter c => "Illegal Character: " ++ c.toString
  | unknownKeyword word => "Unknown Keyword: " ++ word
  | invalidInteger digits => "Invalid Integer: " ++ digits
  | unexpected [kind] found => "Syntax Error: Expected " ++ kind.name ++ ", got " ++ found.name
  | unexpected expected found =>
    "Syntax Error: Expected one of " ++ ", ".intercalate (expected.map TokenKind.name) ++
      ", got " ++ found.name
  | interrupted reason => "Runtime Error: " ++ reason

/-- Whether the text could not be split into tokens. -/
def isLexical : Cause → Bool
  | illegalCharacter _ | unknownKeyword _ | invalidInteger _ => true
  | _ => false

/-- Whether the tokens do not form a statement. -/
def isSyntactic : Cause → Bool
  | unexpected _ _ => true
  | _ => false

end Cause

structure Fault where
  cause : Cause
  place : Place
  deriving DecidableEq, Repr

/-- The wording of a fault, with its place in brackets. -/
def Fault.message (fault : Fault) : String :=
  "[" ++ toString fault.place.line ++ ":" ++ toString fault.place.column ++ "] " ++
    fault.cause.message

end GuessingGame.Script
