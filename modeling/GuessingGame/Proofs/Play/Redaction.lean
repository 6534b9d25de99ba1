import GuessingGame.Proofs.Play.Invariant

/-!
# Games with their answers blacked out

To redact a game is to replace each answer by one that tells only whether it is empty.
Everything else of a play is a function of the redacted play, but for one bit a guess:
whether it hits. `Play.judged` is a guess with this bit given, and it commutes with
`Play.redacted`, as do the beginning of a play and moving past a won level. So plays that
are equal when redacted stay so for as long as the same guesses hit.
-/

namespace GuessingGame

/-- An answer, blacked out unless it is empty. -/
def Answer.redacted (answer : String) : String := if answer = "" then "" else "?"

theorem Answer.redacted_eq_empty_iff (answer : String) :
    Answer.redacted answer = "" ↔ answer = "" := by
  unfold Answer.redacted
  split <;> simp_all

def Level.redacted (level : Level) : Level :=
  { level with target := level.target.map Answer.redacted }

namespace Game

def redacted (game : Game) : Game :=
  { game with
    levels := game.levels.map Level.redacted
    looseTarget := game.looseTarget.map Answer.redacted }

@[simp] theorem redacted_maxLives (game : Game) : game.redacted.maxLives = game.maxLives := rfl

@[simp] theorem redacted_livesBudget (game : Game) :
    game.redacted.livesBudget = game.livesBudget := rfl

@[simp] theorem redacted_displayTitle (game : Game) :
    game.redacted.displayTitle = game.displayTitle := rfl

theorem redacted_playableLevels (game : Game) :
    game.redacted.playableLevels = game.playableLevels.map Level.redacted := by
  unfold playableLevels redacted
  cases levels : game.levels with
  | nil => cases game.looseTarget <;> simp [Level.redacted]
  | cons level levels => simp

@[simp] theorem redacted_hasPlayableLevels (game : Game) :
    game.redacted.hasPlayableLevels = game.hasPlayableLevels := by
  rw [Bool.eq_iff_iff, hasPlayableLevels_iff, hasPlayableLevels_iff, redacted_playableLevels]
  simp

theorem levelSummary_redacted (level : Level) :
    levelSummary level.redacted = levelSummary level := by
  simp [levelSummary_eq, Level.redacted]

/-- The overview does not depend on the answers. -/
theorem summary_redacted (game : Game) : game.redacted.summary = game.summary := by
  simp only [summary, redacted_displayTitle, redacted_maxLives, redacted_playableLevels]
  cases game.playableLevels with
  | nil => rfl
  | cons level levels =>
      simp [levelSummary_redacted, Function.comp_def]

/-- The answer of a level of a game; a level without one has the empty answer. -/
def answer (game : Game) (index : Nat) : String :=
  (game.playableLevels[index]?.bind (·.target)).getD ""

end Game

namespace Play

def redacted (play : Play) : Play :=
  { play with game := play.game.redacted, levels := play.levels.map Level.redacted }

@[simp] theorem redacted_index (play : Play) : play.redacted.index = play.index := rfl

@[simp] theorem redacted_lives (play : Play) : play.redacted.lives = play.lives := rfl

@[simp] theorem redacted_outcome (play : Play) : play.redacted.outcome = play.outcome := rfl

@[simp] theorem redacted_game (play : Play) : play.redacted.game = play.game.redacted := rfl

@[simp] theorem redacted_levels (play : Play) :
    play.redacted.levels = play.levels.map Level.redacted := rfl

theorem outcome_eq_of_redacted_eq {first second : Play}
    (alike : first.redacted = second.redacted) : first.outcome = second.outcome := by
  rw [← redacted_outcome, alike, redacted_outcome]

theorem index_eq_of_redacted_eq {first second : Play}
    (alike : first.redacted = second.redacted) : first.index = second.index := by
  rw [← redacted_index, alike, redacted_index]

theorem redacted_start (game : Game) : (start game).redacted = start game.redacted := by
  simp [start, redacted, game.redacted_playableLevels]

theorem redacted_level? (play : Play) : play.redacted.level? = play.level?.map Level.redacted := by
  simp [level?]

theorem redacted_hint? (play : Play) : play.redacted.hint? = play.hint? := by
  rw [hint?, hint?, redacted_level?]
  cases play.level? <;> rfl

theorem redacted_target? (play : Play) :
    play.redacted.target? = play.target?.map Answer.redacted := by
  rw [target?, target?, redacted_level?]
  cases play.level? <;> rfl

theorem redacted_target_eq_empty_iff (play : Play) :
    play.redacted.target = "" ↔ play.target = "" := by
  rw [target, target, redacted_target?]
  cases play.target? <;> simp [Answer.redacted_eq_empty_iff]

theorem redacted_lacksTarget (play : Play) : play.redacted.lacksTarget = play.lacksTarget := by
  rw [lacksTarget, lacksTarget, decide_eq_decide.mpr play.redacted_target_eq_empty_iff]
  rfl

theorem redacted_advance (play : Play) : play.advance.redacted = play.redacted.advance := by
  simp only [advance, redacted_outcome, redacted_levels, List.length_map, redacted_index]
  split
  · rfl
  · split <;> rfl

theorem redacted_settled (play : Play) : play.settled.redacted = play.redacted.settled := by
  rw [settled_eq, settled_eq, redacted_advance]

/-- The play after a guess of which it is known whether it hits. -/
def judged (play : Play) (hit : Bool) : Play :=
  if play.outcome ≠ .inProgress then play
  else if hit then { play with outcome := .levelWon }
  else { play with
    lives := play.lives - 1
    outcome := if play.lives - 1 = 0 then .gameOver else .inProgress }

theorem guess_eq_judged (play : Play) (text : String) :
    play.guess text = play.judged (Answer.hits text play.target) :=
  rfl

theorem redacted_judged (play : Play) (hit : Bool) :
    (play.judged hit).redacted = play.redacted.judged hit := by
  unfold judged
  rw [redacted_outcome]
  by_cases going : play.outcome ≠ .inProgress
  · rw [if_pos going, if_pos going]
  · rw [if_neg going, if_neg going]
    cases hit <;> rfl

/-- Plays that are told apart by their answers alone are so after a guess that hits in both or
in neither. -/
theorem redacted_guess {first second : Play} (alike : first.redacted = second.redacted)
    {text : String} (same : Answer.hits text first.target = Answer.hits text second.target) :
    (first.guess text).redacted = (second.guess text).redacted := by
  rw [guess_eq_judged, guess_eq_judged, same, redacted_judged, redacted_judged, alike]

/-- The guesses of a play are compared with the answers of its game. -/
theorem Sound.target_eq {game : Game} {play : Play} (sound : Sound game play) :
    play.target = game.answer play.index := by
  rw [target, target?, level?, sound.levels_eq, Game.answer]

end Play

end GuessingGame
