import GuessingGame.Answer
import GuessingGame.Game

/-!
# Playing a game

A play walks through the levels of a game. A right guess wins the level in play
and keeps the lives; a wrong one costs a life, and the last life ends the game.
Winning a level does not open the next: the player advances, and the lives are
refilled. Guesses count only while a level is in progress.
-/

namespace GuessingGame

/-- Where a play stands. -/
inductive Outcome where
  | inProgress
  /-- The level was guessed; to advance opens the next one. -/
  | levelWon
  | allLevelsWon
  | gameOver
  deriving DecidableEq, Repr

/-- Whether only a new start can leave this outcome. -/
def Outcome.isTerminal : Outcome → Bool
  | allLevelsWon | gameOver => true
  | _ => false

/-- A play of a game: the levels, the one in play, the lives left at it, and
where the play stands. -/
structure Play where
  game : Game
  levels : List Level
  index : Nat
  lives : Nat
  outcome : Outcome
  deriving DecidableEq, Repr

namespace Play

/-- The beginning of a play. A game without levels is won from the start. -/
def start (game : Game) : Play where
  game
  levels := game.playableLevels
  index := 0
  lives := game.livesBudget
  outcome := if game.playableLevels = [] then .allLevelsWon else .inProgress

def restart (play : Play) : Play := start play.game

/-- The level in play; there is none once all are won. -/
def level? (play : Play) : Option Level := play.levels[play.index]?

def target? (play : Play) : Option String := play.level?.bind (·.target)

def hint? (play : Play) : Option String := play.level?.bind (·.hint)

/-- The answer that a guess is compared with; a level without one has the empty answer. -/
def target (play : Play) : String := play.target?.getD ""

/-- Whether the level in play has no answer, or an empty one. -/
def lacksTarget (play : Play) : Bool := play.outcome = .inProgress && play.target = ""

/-- The answer, shown only after the game is lost. -/
def revealed? (play : Play) : Option String :=
  if play.outcome = .gameOver then some play.target else none

/-- The play after a guess. -/
def guess (play : Play) (text : String) : Play :=
  if play.outcome ≠ .inProgress then play
  else if Answer.hits text play.target then { play with outcome := .levelWon }
  else { play with
    lives := play.lives - 1
    outcome := if play.lives - 1 = 0 then .gameOver else .inProgress }

/-- The play after moving past a won level. -/
def advance (play : Play) : Play :=
  if play.outcome ≠ .levelWon then play
  else if play.levels.length ≤ play.index + 1 then
    { play with index := play.levels.length, outcome := .allLevelsWon }
  else
    { play with
      index := play.index + 1, lives := play.game.livesBudget, outcome := .inProgress }

inductive Move where
  | guess (text : String)
  | advance
  | restart
  deriving DecidableEq, Repr

def after (play : Play) : Move → Play
  | .guess text => play.guess text
  | .advance => play.advance
  | .restart => play.restart

@[simp] theorem guess_game (play : Play) (text : String) : (play.guess text).game = play.game := by
  unfold guess
  split
  · rfl
  · split <;> rfl

@[simp] theorem guess_levels (play : Play) (text : String) :
    (play.guess text).levels = play.levels := by
  unfold guess
  split
  · rfl
  · split <;> rfl

@[simp] theorem advance_game (play : Play) : play.advance.game = play.game := by
  unfold advance
  split
  · rfl
  · split <;> rfl

@[simp] theorem advance_levels (play : Play) : play.advance.levels = play.levels := by
  unfold advance
  split
  · rfl
  · split <;> rfl

/-- To advance leaves the state between two levels. -/
theorem advance_outcome_ne (play : Play) : play.advance.outcome ≠ .levelWon := by
  unfold advance
  split
  · assumption
  · split <;> simp

end Play

end GuessingGame
