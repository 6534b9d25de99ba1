import GuessingGame.Proofs.Play.Invariant
import GuessingGame.Proofs.Text.Folding

/-!
# What a guess may look like

A guess counts by the form in which it is compared, and nothing else of it is looked at. So a
guess may be padded with blanks and typed in capitals or not, letter by letter: every play goes on
from it as from the guess itself (`guess_of_padded`), and an answer that is typed in this way wins
its level.
-/

namespace GuessingGame

open GuessingGame.Text

namespace Answer

variable {left right text text' : String}

theorem folded_of_padded (hleft : allBlank left.toList = true)
    (hright : allBlank right.toList = true)
    (recased : List.Forall₂ Recased text.toList text'.toList) :
    folded (left ++ text' ++ right) = folded text := by
  have blank_left : ∀ c ∈ left.toList, Text.isBlank c = true := List.all_eq_true.mp hleft
  have blank_right : ∀ c ∈ right.toList, Text.isBlank c = true := List.all_eq_true.mp hright
  calc folded (left ++ text' ++ right)
      = lower (trim (left.toList ++ text'.toList ++ right.toList)) := by
        rw [folded, String.toList_append, String.toList_append]
    _ = lower (trim text'.toList) := by
        rw [trim_append_of_blank _ blank_right, trim_blank_append blank_left]
    _ = folded text := lower_recased (trim_recased recased)

theorem hits_of_padded (hleft : allBlank left.toList = true)
    (hright : allBlank right.toList = true)
    (recased : List.Forall₂ Recased text.toList text'.toList) (target : String) :
    hits (left ++ text' ++ right) target = hits text target := by
  rw [hits, folded_of_padded hleft hright recased, hits]

end Answer

namespace Play

/-- A guess with blanks around it, in which some letters `a` to `z` stand in the other case, leads
every play where the guess itself leads it. So the answer of a level in progress, padded and
recased, wins it and costs no life. -/
theorem guess_of_padded {left right text text' : String} (hleft : allBlank left.toList = true)
    (hright : allBlank right.toList = true)
    (recased : List.Forall₂ Recased text.toList text'.toList) (play : Play) :
    play.guess (left ++ text' ++ right) = play.guess text ∧
      (play.outcome = .inProgress → play.target = text →
        play.guess (left ++ text' ++ right) = { play with outcome := .levelWon }) := by
  have same : play.guess (left ++ text' ++ right) = play.guess text := by
    rw [guess, Answer.hits_of_padded hleft hright recased, guess]
  refine ⟨same, fun going answer => ?_⟩
  rw [same]
  apply guess_of_hit going
  rw [answer, Answer.hits_iff]

/-- The sigma stands at the end of its word in both forms of the answer. -/
theorem guess_of_padded_sigma :
    let play := start { looseTarget := some "kΣ k" }
    allBlank "\t ".toList = true ∧ allBlank "\u2003\n".toList = true ∧
      List.Forall₂ Recased "kΣ k".toList "KΣ K".toList ∧
      play.outcome = .inProgress ∧ play.target = "kΣ k" ∧
      play.guess ("\t " ++ "KΣ K" ++ "\u2003\n") = play.guess "kΣ k" ∧
      play.guess ("\t " ++ "KΣ K" ++ "\u2003\n") = { play with outcome := .levelWon } := by
  intro play
  have hleft : allBlank "\t ".toList = true := by decide
  have hright : allBlank "\u2003\n".toList = true := by decide
  have recased : List.Forall₂ Recased "kΣ k".toList "KΣ K".toList :=
    .cons (.inr (.inr rfl)) (.cons (.inl rfl) (.cons (.inl rfl) (.cons (.inr (.inr rfl)) .nil)))
  obtain ⟨same, wins⟩ := guess_of_padded hleft hright recased play
  exact ⟨hleft, hright, recased, rfl, rfl, same, wins rfl rfl⟩

end Play

end GuessingGame
