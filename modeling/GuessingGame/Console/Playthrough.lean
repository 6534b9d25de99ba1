import GuessingGame.Console.Table

/-!
# Playing a game to its end

A playthrough walks the player through every level until the game is won or
lost. Blank guesses are turned down at no cost. It stops at a level without an
answer, which no guess could win, and it fails when the input ends first.
-/

namespace GuessingGame.Console

/-- What the player is told of a level that cannot be won. -/
def noTargetLoaded : String := "No level target loaded.\n"

/-- What the player sees of the level in play, up to the prompt. -/
def levelText (play : Play) : String :=
  "\nLevel: " ++ toString ((play.level?.map Level.number).getD 0).toNat ++ " of " ++
    toString play.levels.length ++ "\n" ++
  "HINT: " ++ play.hint?.getD "" ++ "\n" ++
  "Lives remaining: " ++ toString play.lives ++ "\n"

def guessText : Outcome → String
  | .levelWon => ">>> CORRECT! You passed this level. <<<\n"
  | .inProgress => ">>> WRONG! Try again!\n"
  | .gameOver => ">>> WRONG! <<<\n"
  | .allLevelsWon => ""

def gameOverText (answer : String) : String := "GAME OVER. The answer was " ++ answer ++ "\n"

/-- Shows the level in play, asks for a guess and judges it. -/
def guessRound : Sitting (Option Outcome) := do
  Sitting.print (levelText (← Sitting.play))
  let guess ← Sitting.askGuess
  if Answer.isBlank guess then Sitting.print "Please type a guess!\n"
  else Sitting.print (guessText (← Sitting.move (.guess guess)))
  return none

def advanceRound : Sitting (Option Outcome) := do
  let outcome ← Sitting.move .advance
  if outcome = .inProgress && !(← Sitting.play).lacksTarget then
    Sitting.print "New level loaded!\n"
  return none

/-- One round of a playthrough. -/
def playRound : Sitting (Option Outcome) := do
  let play ← Sitting.play
  match play.outcome with
  | .levelWon => advanceRound
  | .allLevelsWon =>
    Sitting.print "You finished all levels!\n"
    return some .allLevelsWon
  | .gameOver =>
    Sitting.print (gameOverText (play.revealed?.getD ""))
    return some .gameOver
  | .inProgress =>
    if play.lacksTarget then
      Sitting.print noTargetLoaded
      return some .inProgress
    else guessRound

theorem advanceRound_run_none {table after : Table}
    (ok : advanceRound.run table = (.ok none, after)) :
    after.play = table.play.advance ∧ after.console.input = table.console.input := by
  simp only [advanceRound, Sitting.run_move_bind, Sitting.run_play_bind] at ok
  split at ok
  · rcases h : (Sitting.print "New level loaded!\n").run { table with play := table.play.after .advance }
      with ⟨failure | _, middle⟩
    · rw [Attempt.run_bind_of_error h] at ok
      cases ok
    · rw [Attempt.run_bind_of_ok h] at ok
      cases ok
      exact ⟨congrArg (·.2.play) h.symm, congrArg (·.2.console.input) h.symm⟩
  · cases ok
    exact ⟨rfl, rfl⟩

theorem guessRound_run_none {table after : Table}
    (ok : guessRound.run table = (.ok none, after)) :
    after.console.input.length < table.console.input.length := by
  simp only [guessRound, Sitting.run_play_bind] at ok
  rcases h : (Sitting.print (levelText table.play)).run table with ⟨failure | _, shown⟩
  · rw [Attempt.run_bind_of_error h] at ok
    cases ok
  · rw [Attempt.run_bind_of_ok h] at ok
    have input : shown.console.input = table.console.input := by
      rw [← Sitting.run_print_input (levelText table.play) table, h]
    rcases ha : Sitting.askGuess.run shown with ⟨failure | guess, asked⟩
    · rw [Attempt.run_bind_of_error ha] at ok
      cases ok
    · rw [Attempt.run_bind_of_ok ha] at ok
      have lt := Sitting.length_askGuess_lt ha
      rw [input] at lt
      refine Nat.lt_of_le_of_lt (Nat.le_of_eq ?_) lt
      split at ok
      · rcases hp : (Sitting.print "Please type a guess!\n").run asked with ⟨failure | _, last⟩
        · rw [Attempt.run_bind_of_error hp] at ok
          cases ok
        · rw [Attempt.run_bind_of_ok hp] at ok
          cases ok
          exact congrArg (·.2.console.input.length) hp.symm
      · rw [Sitting.run_move_bind] at ok
        rcases hp : (Sitting.print (guessText (asked.play.after (.guess guess)).outcome)).run
            { asked with play := asked.play.after (.guess guess) } with ⟨failure | _, last⟩
        · rw [Attempt.run_bind_of_error hp] at ok
          cases ok
        · rw [Attempt.run_bind_of_ok hp] at ok
          cases ok
          exact congrArg (·.2.console.input.length) hp.symm

theorem playRound_progresses : playRound.Progresses := by
  intro table after ok
  simp only [playRound, Sitting.run_play_bind] at ok
  cases outcome : table.play.outcome <;> simp only [outcome] at ok
  · split at ok
    · rcases h : (Sitting.print noTargetLoaded).run table with ⟨failure | _, middle⟩
      · rw [Attempt.run_bind_of_error h] at ok
        cases ok
      · rw [Attempt.run_bind_of_ok h] at ok
        cases ok
    · have lt := guessRound_run_none ok
      simp only [Table.effort, outcome]
      split <;> omega
  · obtain ⟨play, input⟩ := advanceRound_run_none ok
    simp [Table.effort, play, input, outcome, Play.advance_outcome_ne]
  · rcases h : (Sitting.print "You finished all levels!\n").run table with ⟨failure | _, middle⟩
    · rw [Attempt.run_bind_of_error h] at ok
      cases ok
    · rw [Attempt.run_bind_of_ok h] at ok
      cases ok
  · rcases h : (Sitting.print (gameOverText (table.play.revealed?.getD ""))).run table
      with ⟨failure | _, middle⟩
    · rw [Attempt.run_bind_of_error h] at ok
      cases ok
    · rw [Attempt.run_bind_of_ok h] at ok
      cases ok

/-- Plays until the game is won or lost, from wherever the play stands. -/
def playOn : Sitting Outcome := ⟨playRound.untilDone playRound_progresses⟩

/-- Greets the player and plays to the end. A game without levels is only announced so. -/
def playthrough : Sitting Outcome := do
  let play ← Sitting.play
  if play.game.hasPlayableLevels then
    Sitting.print ("--- Welcome to: " ++ play.game.displayTitle ++ " ---\n")
    playOn
  else
    Sitting.print noTargetLoaded
    return play.outcome

end GuessingGame.Console
