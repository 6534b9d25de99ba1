import GuessingGame.Text.Blank
import GuessingGame.Text.LowerCase

/-!
# Answers

A guess is compared with an answer without regard to letter case and to the
blanks around either. Nothing else is forgiven.
-/

namespace GuessingGame.Answer

open GuessingGame.Text

/-- The form in which texts are compared. -/
def folded (text : String) : List Char := lower (trim text.toList)

def hits (guess target : String) : Bool := folded guess = folded target

/-- Whether a guess is blank, and so no guess at all. -/
def isBlank (guess : String) : Bool := (trim guess.toList).isEmpty

theorem hits_iff (guess target : String) :
    hits guess target = true ↔ folded guess = folded target := by
  simp [hits]

end GuessingGame.Answer
