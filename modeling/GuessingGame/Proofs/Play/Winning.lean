import GuessingGame.Proofs.Play.Invariant

/-!
# Levels that can be won

A guess and an answer are compared without the blanks around them, so a blank text hits the
blank answers and no others: `Answer.isBlank_eq_of_hits`. No character is lost in lower case,
and therefore nothing else folds to the empty text.

Where only texts that are not blank are taken as guesses, a level is won by one of them if its
answer is not blank, and by none otherwise: `Play.unwinnable_iff`.
-/

namespace GuessingGame

open GuessingGame.Text

namespace Text

/-- No character is lost in lower case. -/
theorem lowerChar_ne_nil (c : Char) : lowerChar c ≠ [] := by
  unfold lowerChar
  split
  · exact List.cons_ne_nil _ _
  · split
    · exact List.cons_ne_nil _ _
    · split <;> exact List.cons_ne_nil _ _

theorem lower_eq_nil_iff {cs : List Char} : lower cs = [] ↔ cs = [] := by
  constructor
  · intro none
    cases cs with
    | nil => rfl
    | cons c rest =>
        obtain ⟨first, -⟩ := List.append_eq_nil_iff.mp none
        split at first
        · cases first
        · exact absurd first (lowerChar_ne_nil c)
  · rintro rfl
    rfl

end Text

namespace Answer

theorem folded_eq_nil_iff (text : String) : folded text = [] ↔ isBlank text = true := by
  rw [folded, lower_eq_nil_iff, isBlank, List.isEmpty_iff]

theorem hits_self (text : String) : hits text text = true := (hits_iff text text).mpr rfl

/-- A guess that hits is blank if the answer is, and only then. -/
theorem isBlank_eq_of_hits {guess target : String} (hit : hits guess target = true) :
    isBlank guess = isBlank target := by
  rw [hits_iff] at hit
  rw [Bool.eq_iff_iff, ← folded_eq_nil_iff, ← folded_eq_nil_iff, hit]

/-- A blank guess hits the blank answers. -/
theorem hits_of_isBlank {guess : String} (blank : isBlank guess = true) (target : String) :
    hits guess target = isBlank target := by
  rw [Bool.eq_iff_iff, hits_iff, ← folded_eq_nil_iff, (folded_eq_nil_iff guess).mpr blank, eq_comm]

end Answer

namespace Play

/-- No guess wins the level in play, unless it is blank. -/
def Unwinnable (play : Play) : Prop :=
  ∀ text, Answer.isBlank text = false → (play.guess text).outcome ≠ .levelWon

variable {play : Play}

theorem outcome_guess_iff (going : play.outcome = .inProgress) (text : String) :
    (play.guess text).outcome = .levelWon ↔ Answer.hits text play.target = true := by
  cases hits : Answer.hits text play.target with
  | true => simp [guess_of_hit going hits]
  | false =>
      rw [guess_of_miss going hits]
      simp only [Bool.false_eq_true, iff_false]
      split <;> nofun

/-- A level whose answer is not blank is won by the answer itself. -/
theorem unwinnable_iff (going : play.outcome = .inProgress) :
    play.Unwinnable ↔ Answer.isBlank play.target = true := by
  constructor
  · intro unwinnable
    cases written : Answer.isBlank play.target with
    | true => rfl
    | false =>
        exact absurd ((outcome_guess_iff going _).mpr (Answer.hits_self _))
          (unwinnable play.target written)
  · intro blank text written won
    have same := Answer.isBlank_eq_of_hits ((outcome_guess_iff going text).mp won)
    rw [written, blank] at same
    cases same

end Play

end GuessingGame
