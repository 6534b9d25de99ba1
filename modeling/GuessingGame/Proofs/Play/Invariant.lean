import GuessingGame.Play

/-!
# What every play keeps

A play is reached from the beginning of a game by moves, in any order and number. At
each moment of it the lives and the index tell where it stands: no lives are left
exactly when the game is lost, and no level is left exactly when it is won.

`Play.Sound` is the part of this that a move keeps. It mentions lives, index and outcome
together, because a guess may end the game through the lives and to advance may end it
through the index. Everything else that holds of all plays follows from it.
-/

namespace GuessingGame.Play

/-- The play of a game after some moves. -/
def ofMoves (game : Game) (moves : List Move) : Play := moves.foldl after (start game)

theorem guess_of_hit {play : Play} {text : String} (going : play.outcome = .inProgress)
    (hit : Answer.hits text play.target = true) :
    play.guess text = { play with outcome := .levelWon } := by
  rw [guess, if_neg (not_not_intro going), if_pos hit]

theorem guess_of_miss {play : Play} {text : String} (going : play.outcome = .inProgress)
    (miss : Answer.hits text play.target = false) :
    play.guess text = { play with
      lives := play.lives - 1
      outcome := if play.lives - 1 = 0 then .gameOver else .inProgress } := by
  rw [guess, if_neg (not_not_intro going), if_neg (by simp [miss])]

/-- A guess is ignored, wins the level, costs the last life, or costs another life. -/
theorem guess_cases (play : Play) (text : String) :
    (play.outcome ≠ .inProgress ∧ play.guess text = play) ∨
      (play.outcome = .inProgress ∧ Answer.hits text play.target = true ∧
        play.guess text = { play with outcome := .levelWon }) ∨
      (play.outcome = .inProgress ∧ Answer.hits text play.target = false ∧ play.lives ≤ 1 ∧
        play.guess text = { play with lives := 0, outcome := .gameOver }) ∨
      (play.outcome = .inProgress ∧ Answer.hits text play.target = false ∧ 1 < play.lives ∧
        play.guess text = { play with lives := play.lives - 1 }) := by
  by_cases going : play.outcome = .inProgress
  · cases hits : Answer.hits text play.target with
    | true => exact .inr (.inl ⟨going, rfl, guess_of_hit going hits⟩)
    | false =>
        rw [guess_of_miss going hits]
        by_cases last : play.lives ≤ 1
        · have spent : play.lives - 1 = 0 := by omega
          simp [going, last, spent]
        · have left : play.lives - 1 ≠ 0 := by omega
          simp [going, left, Nat.lt_of_not_le last]
  · exact .inl ⟨going, if_pos going⟩

/-- To advance is ignored, ends the game, or opens the next level with all its lives. -/
theorem advance_cases (play : Play) :
    (play.outcome ≠ .levelWon ∧ play.advance = play) ∨
      (play.outcome = .levelWon ∧ play.levels.length ≤ play.index + 1 ∧ play.advance =
        { play with index := play.levels.length, outcome := .allLevelsWon }) ∨
      (play.outcome = .levelWon ∧ play.index + 1 < play.levels.length ∧ play.advance =
        { play with
          index := play.index + 1, lives := play.game.livesBudget, outcome := .inProgress }) := by
  unfold advance
  by_cases won : play.outcome = .levelWon
  · by_cases last : play.levels.length ≤ play.index + 1
    · simp [won, last]
    · simp [won, last, Nat.lt_of_not_le last]
  · simp [won]

theorem advance_of_ne {play : Play} (going : play.outcome ≠ .levelWon) : play.advance = play := by
  rw [advance, if_pos going]

/-- Nothing but a new start leaves the end of a game. -/
theorem guess_of_isTerminal {play : Play} (h : play.outcome.isTerminal = true) (text : String) :
    play.guess text = play := by
  unfold guess
  rw [if_pos]
  rintro going
  rw [going] at h
  cases h

theorem advance_of_isTerminal {play : Play} (h : play.outcome.isTerminal = true) :
    play.advance = play := by
  unfold advance
  rw [if_pos]
  rintro won
  rw [won] at h
  cases h

/-- The play moved past the level it won, if it has just won one. -/
def settled (play : Play) : Play := if play.outcome = .levelWon then play.advance else play

/-- To advance is ignored wherever no level was won, so nobody need look first. -/
theorem settled_eq (play : Play) : play.settled = play.advance := by
  unfold settled
  split
  · rfl
  · rename_i going
    simp [advance, going]

@[simp] theorem settled_game (play : Play) : play.settled.game = play.game := by
  rw [settled_eq, advance_game]

theorem settled_outcome_ne (play : Play) : play.settled.outcome ≠ .levelWon := by
  rw [settled_eq]
  exact play.advance_outcome_ne

@[simp] theorem settled_settled (play : Play) : play.settled.settled = play.settled := by
  rw [settled_eq play.settled, advance_of_ne play.settled_outcome_ne]

/-- What holds at every moment of a play of a game. -/
structure Sound (game : Game) (play : Play) : Prop where
  game_eq : play.game = game
  levels_eq : play.levels = game.playableLevels
  lives_le : play.lives ≤ game.livesBudget
  lives_eq_zero_iff : play.lives = 0 ↔ play.outcome = .gameOver
  index_le : play.index ≤ play.levels.length
  index_eq_length_iff : play.index = play.levels.length ↔ play.outcome = .allLevelsWon

theorem sound_start (game : Game) : Sound game (start game) where
  game_eq := rfl
  levels_eq := rfl
  lives_le := Nat.le_refl _
  lives_eq_zero_iff := by
    have positive := game.livesBudget_pos
    by_cases empty : game.playableLevels = [] <;> simp [start, empty] <;> omega
  index_le := Nat.zero_le _
  index_eq_length_iff := by
    by_cases empty : game.playableLevels = []
    · simp [start, empty]
    · simpa [start, empty] using Ne.symm (mt List.length_eq_zero_iff.mp empty)

namespace Sound

variable {game : Game} {play : Play}

/-- A level that is in progress or was won exists. -/
theorem index_lt (h : Sound game play) (going : play.outcome ≠ .allLevelsWon) :
    play.index < play.levels.length :=
  Nat.lt_of_le_of_ne h.index_le (mt h.index_eq_length_iff.mp going)

theorem lives_pos (h : Sound game play) (going : play.outcome ≠ .gameOver) : 0 < play.lives :=
  Nat.pos_of_ne_zero (mt h.lives_eq_zero_iff.mp going)

theorem guess (h : Sound game play) (text : String) : Sound game (play.guess text) := by
  rcases play.guess_cases text with ⟨-, same⟩ | ⟨going, -, won⟩ | ⟨going, -, -, lost⟩ |
    ⟨going, -, more, missed⟩
  · rwa [same]
  · -- a play in progress stands at a level with a life left, and the guess takes neither away
    rw [won]
    have index := h.index_lt (by simp [going])
    have lives := h.lives_pos (by simp [going])
    exact ⟨h.game_eq, h.levels_eq, h.lives_le, by simp; omega, h.index_le, by simp; omega⟩
  · rw [lost]
    have index := h.index_lt (by simp [going])
    exact ⟨h.game_eq, h.levels_eq, Nat.zero_le _, by simp, h.index_le, by simp; omega⟩
  · rw [missed]
    have lives := h.lives_le
    exact ⟨h.game_eq, h.levels_eq, by simp; omega, by simp [going]; omega, h.index_le,
      h.index_eq_length_iff⟩

theorem advance (h : Sound game play) : Sound game play.advance := by
  rcases play.advance_cases with ⟨-, same⟩ | ⟨won, -, last⟩ | ⟨won, more, next⟩
  · rwa [same]
  · rw [last]
    have lives := h.lives_pos (by simp [won])
    exact ⟨h.game_eq, h.levels_eq, h.lives_le, by simp; omega, Nat.le_refl _, by simp⟩
  · rw [next]
    have positive := game.livesBudget_pos
    exact ⟨h.game_eq, h.levels_eq, by simp [h.game_eq], by simp [h.game_eq]; omega,
      Nat.le_of_lt more, by simp; omega⟩

theorem settled (h : Sound game play) : Sound game play.settled := by
  rw [Play.settled_eq]
  exact h.advance

theorem restart (h : Sound game play) : Sound game play.restart := by
  rw [Play.restart, h.game_eq]
  exact sound_start game

theorem after (h : Sound game play) (move : Move) : Sound game (play.after move) := by
  cases move with
  | guess text => exact h.guess text
  | advance => exact h.advance
  | restart => exact h.restart

/-- Moves keep what holds at every moment. -/
theorem foldl_after (h : Sound game play) (moves : List Move) :
    Sound game (moves.foldl Play.after play) := by
  induction moves generalizing play with
  | nil => exact h
  | cons move moves ih => exact ih (h.after move)

theorem level?_eq_none_iff (h : Sound game play) :
    play.level? = none ↔ play.outcome = .allLevelsWon := by
  rw [level?, List.getElem?_eq_none_iff, ← h.index_eq_length_iff]
  have := h.index_le
  omega

/-- A game without levels is won, whatever was done. -/
theorem outcome_of_unplayable (h : Sound game play) (unplayable : game.playableLevels = []) :
    play.outcome = .allLevelsWon := by
  have bound := h.index_le
  rw [← h.index_eq_length_iff]
  rw [h.levels_eq, unplayable] at bound ⊢
  exact Nat.le_zero.mp bound

end Sound

theorem sound_ofMoves (game : Game) (moves : List Move) : Sound game (ofMoves game moves) :=
  (sound_start game).foldl_after moves

/-- The answer is shown only when the game is lost. -/
theorem revealed?_isSome_iff (play : Play) :
    play.revealed?.isSome = true ↔ play.outcome = .gameOver := by
  rw [revealed?]
  split <;> simp_all

/-- What holds of every play, whatever moves led to it. -/
theorem moments_of_play (game : Game) (moves : List Move) :
    let play := ofMoves game moves
    play.game = game ∧ play.levels = game.playableLevels ∧
      play.lives ≤ game.livesBudget ∧ (play.lives = 0 ↔ play.outcome = .gameOver) ∧
      (play.outcome = .inProgress → 0 < play.lives) ∧
      play.index ≤ play.levels.length ∧
      (play.index = play.levels.length ↔ play.outcome = .allLevelsWon) ∧
      (play.level? = none ↔ play.outcome = .allLevelsWon) ∧
      (play.revealed?.isSome = true ↔ play.outcome = .gameOver) ∧
      (play.outcome = .allLevelsWon ∨ play.outcome = .gameOver →
        (∀ text, play.guess text = play) ∧ play.advance = play) ∧
      play.restart = start game := by
  intro play
  have sound : Sound game play := sound_ofMoves game moves
  refine ⟨sound.game_eq, sound.levels_eq, sound.lives_le, sound.lives_eq_zero_iff, ?_,
    sound.index_le, sound.index_eq_length_iff, sound.level?_eq_none_iff,
    play.revealed?_isSome_iff, ?_, ?_⟩
  · intro going
    exact sound.lives_pos (by simp [going])
  · intro ended
    have terminal : play.outcome.isTerminal = true := by
      rcases ended with won | lost
      · rw [won]
        rfl
      · rw [lost]
        rfl
    exact ⟨guess_of_isTerminal terminal, advance_of_isTerminal terminal⟩
  · rw [restart, sound.game_eq]

end GuessingGame.Play
