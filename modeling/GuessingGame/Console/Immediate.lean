import GuessingGame.Console.Playthrough
import GuessingGame.Script.Reader

/-!
# Playing levels while the script is read

The host at the console plays each level as soon as the script asks for it. A
level with no lives is lost at once. Every line counts as a guess, blank or not;
the right one lets the reading proceed, and the last wrong one halts it. An
announcement that cannot be written is passed over.
-/

namespace GuessingGame.Console

open Script (Notice Challenge Verdict Host)

def challengeGame (challenge : Challenge) : Game where
  maxLives := challenge.lives
  levels := [{ number := 1, target := some challenge.target, hint := some challenge.hint }]

/-- What the player sees of a challenge, up to the prompt. -/
def challengeText (hint : String) (lives : Nat) : String :=
  "HINT: " ++ hint ++ "\nLives remaining: " ++ toString lives ++ "\n"

def verdictText (target : String) : Outcome → String
  | .levelWon => ">>> CORRECT! You passed this level. <<<\n\n"
  | .gameOver => ">>> WRONG! <<<\n" ++ gameOverText target
  | _ => ">>> WRONG! <<<\n"

/-- The verdict that an outcome brings, if it ends the level. -/
def verdict? : Outcome → Option Verdict
  | .levelWon => some .proceed
  | .gameOver => some .halt
  | _ => none

def challengeRound (challenge : Challenge) : Sitting (Option Verdict) := do
  Sitting.print (challengeText challenge.hint (← Sitting.play).lives)
  let guess ← Sitting.askGuess
  let outcome ← Sitting.move (.guess guess)
  Sitting.print (verdictText challenge.target outcome)
  return verdict? outcome

theorem challengeRound_progresses (challenge : Challenge) :
    (challengeRound challenge).Progresses := by
  intro table after ok
  simp only [challengeRound, Sitting.run_play_bind] at ok
  rcases h : (Sitting.print (challengeText challenge.hint table.play.lives)).run table
    with ⟨failure | _, shown⟩
  · rw [Attempt.run_bind_of_error h] at ok
    cases ok
  · rw [Attempt.run_bind_of_ok h] at ok
    have input : shown.console.input = table.console.input :=
      congrArg (·.2.console.input) h.symm
    rcases ha : Sitting.askGuess.run shown with ⟨failure | guess, asked⟩
    · rw [Attempt.run_bind_of_error ha] at ok
      cases ok
    · rw [Attempt.run_bind_of_ok ha] at ok
      have lt := Sitting.length_askGuess_lt ha
      rw [input] at lt
      rw [Sitting.run_move_bind] at ok
      rcases hp : (Sitting.print (verdictText challenge.target
          (asked.play.after (.guess guess)).outcome)).run
          { asked with play := asked.play.after (.guess guess) } with ⟨failure | _, last⟩
      · rw [Attempt.run_bind_of_error hp] at ok
        cases ok
      · rw [Attempt.run_bind_of_ok hp] at ok
        obtain ⟨none, rfl⟩ := Prod.mk.inj ok
        have play : last.play = asked.play.after (.guess guess) := congrArg (·.2.play) hp.symm
        have same : last.console.input = asked.console.input :=
          congrArg (·.2.console.input) hp.symm
        have unfinished : last.play.outcome ≠ .levelWon := by
          rw [play]
          intro won
          rw [won] at none
          cases none
        simp only [Table.effort, unfinished, if_false, same]
        split <;> omega

/-- Plays a challenge on a table that was laid for it. -/
def challengeRounds (challenge : Challenge) : Sitting Verdict :=
  ⟨(challengeRound challenge).untilDone (challengeRound_progresses challenge)⟩

/-- Plays one challenge. -/
def playChallenge (challenge : Challenge) : Talk Verdict :=
  if challenge.lives = 0 then do
    print (gameOverText challenge.target)
    return .halt
  else ⟨fun console =>
    let (result, table) :=
      (challengeRounds challenge).run ⟨Play.start (challengeGame challenge), console⟩
    (result, table.console)⟩

def noticeText : Notice → String
  | .title text => "--- Welcome to: " ++ text ++ " ---\n"
  | .maxLives lives => "System: Lives set to " ++ toString lives.toNat ++ "\n"
  | .level number => "\n[LOADING LEVEL " ++ toString number.toNat ++ "]\n"

/-- The host that plays every level at the console. -/
def host : Host Console where
  announce notice console := ((print (noticeText notice)).run console).2
  solve challenge console :=
    match (playChallenge challenge).run console with
    | (.ok verdict, console) => (.ok verdict, console)
    | (.error failure, console) => (.error failure.message, console)

/-- Reads a script and plays its levels at the console as they come. -/
def playScript (text : String) (console : Console) :
    Except Script.Fault Script.Report × Console :=
  Script.read (some host) text console

end GuessingGame.Console
