import GuessingGame.Proofs.Play.Invariant

/-!
# What a list of guesses comes to

A player who moves on from every level that was won needs guesses only. How such a play
ends can be read off its guesses without playing: they fall into blocks, one for each
level that was won, a block being fewer misses than there are lives and then a hit. Behind
the blocks stands what was guessed at the next level, and this either spends all lives or
leaves some.

The guesses are taken apart twice. `foldl_turn_of_winsAll` plays the blocks and finds the
next level opened with all its lives; `won_or_lost_or_stands` finds blocks in any list of
guesses. Since the outcomes of the three ways to end differ, each way is then the only one
with its outcome: `outcome_of_guesses`.
-/

namespace GuessingGame.Play

def answerAt (level : Level) : String := level.target.getD ""

def Misses (level : Level) (guesses : List String) : Prop :=
  ∀ guess ∈ guesses, Answer.hits guess (answerAt level) = false

/-- A block wins a level: fewer misses than there are lives, and then a hit. -/
def Wins (lives : Nat) (level : Level) (block : List String) : Prop :=
  ∃ misses hit, block = misses ++ [hit] ∧ misses.length < lives ∧ Misses level misses ∧
    Answer.hits hit (answerAt level) = true

/-- One block for each level, in the order of the levels. -/
inductive WinsAll (lives : Nat) : List Level → List String → Prop
  | nil : WinsAll lives [] []
  | cons {level : Level} {levels : List Level} {block front : List String}
      (first : Wins lives level block) (others : WinsAll lives levels front) :
      WinsAll lives (level :: levels) (block ++ front)

/-- The guesses begin with a block for every level. -/
def Won (lives : Nat) (levels : List Level) (guesses : List String) : Prop :=
  ∃ front back, guesses = front ++ back ∧ WinsAll lives levels front

/-- The guesses begin with a block for every level before one, and miss that one until its
lives are spent. -/
def LostAt (lives : Nat) (levels : List Level) (guesses : List String) (index : Nat)
    (level : Level) : Prop :=
  levels[index]? = some level ∧ ∃ front misses back, guesses = front ++ misses ++ back ∧
    WinsAll lives (levels.take index) front ∧ Misses level misses ∧ misses.length = lives

/-- The guesses are a block for every level before one, and then misses at that one which
leave some of its lives. -/
def StandsAt (lives : Nat) (levels : List Level) (guesses : List String) (index : Nat)
    (level : Level) (made : Nat) : Prop :=
  levels[index]? = some level ∧ ∃ front misses, guesses = front ++ misses ∧
    WinsAll lives (levels.take index) front ∧ Misses level misses ∧ misses.length = made ∧
    made < lives

theorem misses_cons {level : Level} {guess : String} {guesses : List String}
    (first : Answer.hits guess (answerAt level) = false) (others : Misses level guesses) :
    Misses level (guess :: guesses) :=
  List.forall_mem_cons.mpr ⟨first, others⟩

/-- What guesses come to at one level: they win it, spend its lives, or leave some. -/
theorem guesses_at_level (level : Level) (lives : Nat) (guesses : List String) :
    (∃ block back, guesses = block ++ back ∧ Wins lives level block) ∨
      (∃ misses back, guesses = misses ++ back ∧ Misses level misses ∧ misses.length = lives) ∨
      (Misses level guesses ∧ guesses.length < lives) := by
  induction lives generalizing guesses with
  | zero => exact .inr (.inl ⟨[], guesses, rfl, by simp [Misses], rfl⟩)
  | succ lives ih =>
      rcases guesses with _ | ⟨guess, guesses⟩
      · exact .inr (.inr ⟨by simp [Misses], Nat.succ_pos _⟩)
      · cases first : Answer.hits guess (answerAt level) with
        | true =>
            exact .inl ⟨[guess], guesses, rfl, [], guess, rfl, Nat.succ_pos _, by simp [Misses],
              first⟩
        | false =>
            rcases ih guesses with ⟨block, back, rfl, misses, hit, rfl, few, missed, last⟩ |
              ⟨misses, back, rfl, missed, spent⟩ | ⟨missed, few⟩
            · exact .inl ⟨guess :: misses ++ [hit], back, rfl, guess :: misses, hit, rfl,
                Nat.succ_lt_succ few, misses_cons first missed, last⟩
            · exact .inr (.inl ⟨guess :: misses, back, rfl, misses_cons first missed,
                congrArg (· + 1) spent⟩)
            · exact .inr (.inr ⟨misses_cons first missed, Nat.succ_lt_succ few⟩)

/-- Guesses win all levels, spend the lives at one, or stand at one with lives left. -/
theorem won_or_lost_or_stands (lives : Nat) (levels : List Level) (guesses : List String) :
    Won lives levels guesses ∨ (∃ index level, LostAt lives levels guesses index level) ∨
      ∃ index level made, StandsAt lives levels guesses index level made := by
  induction levels generalizing guesses with
  | nil => exact .inl ⟨[], guesses, rfl, .nil⟩
  | cons level levels ih =>
      rcases guesses_at_level level lives guesses with ⟨block, rest, rfl, wins⟩ |
        ⟨misses, back, rfl, missed, spent⟩ | ⟨missed, few⟩
      · -- the level is won, and the guesses behind the block are made at the levels behind it
        rcases ih rest with ⟨front, back, rfl, all⟩ |
          ⟨index, last, at_, front, misses, back, rfl, all, lost⟩ |
          ⟨index, last, made, at_, front, misses, rfl, all, stands⟩
        · exact .inl ⟨block ++ front, back, by simp, .cons wins all⟩
        · exact .inr (.inl ⟨index + 1, last, at_, block ++ front, misses, back, by simp,
            .cons wins all, lost⟩)
        · exact .inr (.inr ⟨index + 1, last, made, at_, block ++ front, misses, by simp,
            .cons wins all, stands⟩)
      · exact .inr (.inl ⟨0, level, rfl, [], misses, back, rfl, .nil, missed, spent⟩)
      · exact .inr (.inr ⟨0, level, guesses.length, rfl, [], guesses, rfl, .nil, missed, rfl, few⟩)

/-- The play after a guess, moved on if the guess won the level. -/
def turn (play : Play) (text : String) : Play := (play.guess text).settled

@[simp] theorem turn_game (play : Play) (text : String) : (play.turn text).game = play.game := by
  rw [turn, settled_game, guess_game]

@[simp] theorem turn_levels (play : Play) (text : String) :
    (play.turn text).levels = play.levels := by
  rw [turn, settled_eq, advance_levels, guess_levels]

theorem turn_outcome_ne (play : Play) (text : String) : (play.turn text).outcome ≠ .levelWon :=
  (play.guess text).settled_outcome_ne

/-- The play of a game after some guesses. -/
def ofGuesses (game : Game) (guesses : List String) : Play := guesses.foldl turn (start game)

/-- A play in progress at a level. -/
def standing (game : Game) (index lives : Nat) : Play :=
  { game, levels := game.playableLevels, index, lives, outcome := .inProgress }

/-- The levels before an index have been won: the level there was opened with all its
lives, or there is none and the game is won. -/
def Opened (game : Game) (index : Nat) (play : Play) : Prop :=
  (index < game.playableLevels.length → play = standing game index game.livesBudget) ∧
    (game.playableLevels.length ≤ index → play.outcome = .allLevelsWon)

theorem opened_start (game : Game) : Opened game 0 (start game) := by
  constructor
  · intro inside
    have levels : game.playableLevels ≠ [] := List.ne_nil_of_length_pos inside
    simp [start, standing, levels]
  · intro past
    have levels : game.playableLevels = [] := List.eq_nil_of_length_eq_zero (by omega)
    simp [start, levels]

/-- Guesses are ignored once the game has ended. -/
theorem foldl_turn_of_isTerminal {play : Play} (ended : play.outcome.isTerminal = true)
    (guesses : List String) : guesses.foldl turn play = play := by
  induction guesses with
  | nil => rfl
  | cons text guesses ih =>
      rw [List.foldl_cons, turn, guess_of_isTerminal ended, settled_eq,
        advance_of_isTerminal ended, ih]

section Level

variable {game : Game} {index : Nat} {level : Level} {text : String}

theorem target_standing (h : game.playableLevels[index]? = some level) (lives : Nat) :
    (standing game index lives).target = answerAt level := by
  simp [standing, target, target?, level?, h, answerAt]

/-- A miss costs a life. -/
theorem turn_standing_of_miss (h : game.playableLevels[index]? = some level)
    (miss : Answer.hits text (answerAt level) = false) (lives : Nat) :
    (standing game index lives).turn text =
      { standing game index (lives - 1) with
        outcome := if lives - 1 = 0 then .gameOver else .inProgress } := by
  rw [← target_standing h lives] at miss
  rw [turn, guess_of_miss rfl miss, settled_eq, advance, if_pos]
  · rfl
  · show (if lives - 1 = 0 then Outcome.gameOver else .inProgress) ≠ .levelWon
    split <;> simp

/-- A hit opens the next level. -/
theorem turn_standing_of_hit (h : game.playableLevels[index]? = some level)
    (hit : Answer.hits text (answerAt level) = true) (lives : Nat) :
    Opened game (index + 1) ((standing game index lives).turn text) := by
  rw [← target_standing h lives] at hit
  rw [turn, guess_of_hit rfl hit, settled_eq]
  constructor
  · intro more
    have unfinished : ¬game.playableLevels.length ≤ index + 1 := Nat.not_le_of_lt more
    simp [advance, standing, unfinished]
  · intro last
    simp [advance, standing, last]

/-- Misses that leave a life cost one each. -/
theorem foldl_turn_of_misses (h : game.playableLevels[index]? = some level)
    {misses : List String} (missed : Misses level misses) {lives : Nat}
    (few : misses.length < lives) :
    misses.foldl turn (standing game index lives) =
      standing game index (lives - misses.length) := by
  induction misses generalizing lives with
  | nil => rfl
  | cons text misses ih =>
      obtain ⟨first, others⟩ := List.forall_mem_cons.mp missed
      have fewer : misses.length < lives - 1 := by
        rw [List.length_cons] at few
        omega
      have left : lives - 1 ≠ 0 := by omega
      rw [List.foldl_cons, turn_standing_of_miss h first, if_neg left]
      show misses.foldl turn (standing game index (lives - 1)) = _
      rw [ih others fewer, List.length_cons]
      congr 1
      omega

/-- As many misses as there are lives lose the game. -/
theorem foldl_turn_of_spent (h : game.playableLevels[index]? = some level)
    {misses : List String} (missed : Misses level misses) (guessed : misses ≠ []) :
    misses.foldl turn (standing game index misses.length) =
      { standing game index 0 with outcome := .gameOver } := by
  obtain ⟨front, last, rfl⟩ := List.eq_nil_or_concat misses |>.resolve_left guessed
  simp only [List.concat_eq_append] at missed ⊢
  obtain ⟨before, final⟩ := List.forall_mem_append.mp missed
  have miss : Answer.hits last (answerAt level) = false := final last (List.mem_singleton_self _)
  rw [List.foldl_append, foldl_turn_of_misses h before (by simp)]
  simp [turn_standing_of_miss h miss]

/-- A block opens the next level. -/
theorem foldl_turn_of_wins (h : game.playableLevels[index]? = some level)
    {block : List String} (wins : Wins game.livesBudget level block) :
    Opened game (index + 1) (block.foldl turn (standing game index game.livesBudget)) := by
  obtain ⟨misses, hit, rfl, few, missed, last⟩ := wins
  rw [List.foldl_append, foldl_turn_of_misses h missed few]
  exact turn_standing_of_hit h last _

end Level

/-- One block after another opens one level after another. -/
theorem foldl_turn_of_winsAll {game : Game} {levels behind : List Level} {front : List String}
    (wins : WinsAll game.livesBudget levels front) {index : Nat} {play : Play}
    (ahead : game.playableLevels.drop index = levels ++ behind) (opened : Opened game index play) :
    Opened game (index + levels.length) (front.foldl turn play) := by
  induction wins generalizing index play with
  | nil => exact opened
  | @cons level levels block front first others ih =>
      -- the block is for the first level ahead, and the other levels are ahead of the next index
      have here : game.playableLevels[index]? = some level := by
        rw [← Nat.add_zero index, ← List.getElem?_drop, ahead]
        rfl
      have next : game.playableLevels.drop (index + 1) = levels ++ behind := by
        rw [← List.tail_drop, ahead]
        rfl
      have inside : index < game.playableLevels.length :=
        (List.getElem?_eq_some_iff.mp here).1
      rw [List.foldl_append, List.length_cons, Nat.add_comm levels.length, ← Nat.add_assoc,
        opened.1 inside]
      exact ih next (foldl_turn_of_wins here first)

section Guesses

variable {game : Game} {guesses : List String} {index : Nat} {level : Level}

theorem ofGuesses_of_winsAll {front : List String} (here : game.playableLevels[index]? = some level)
    (wins : WinsAll game.livesBudget (game.playableLevels.take index) front) :
    ofGuesses game front = standing game index game.livesBudget := by
  have inside : index < game.playableLevels.length := (List.getElem?_eq_some_iff.mp here).1
  have opened := foldl_turn_of_winsAll wins (List.take_append_drop index _).symm
    (opened_start game)
  rw [Nat.zero_add, List.length_take_of_le (Nat.le_of_lt inside)] at opened
  exact opened.1 inside

theorem outcome_of_won (won : Won game.livesBudget game.playableLevels guesses) :
    (ofGuesses game guesses).outcome = .allLevelsWon := by
  obtain ⟨front, back, rfl, wins⟩ := won
  have opened := foldl_turn_of_winsAll wins (List.append_nil _).symm (opened_start game)
  have ended := opened.2 (by omega)
  rw [ofGuesses, List.foldl_append, foldl_turn_of_isTerminal (by rw [ended]; rfl), ended]

theorem ofGuesses_of_lostAt
    (lost : LostAt game.livesBudget game.playableLevels guesses index level) :
    ofGuesses game guesses = { standing game index 0 with outcome := .gameOver } := by
  obtain ⟨here, front, misses, back, rfl, wins, missed, spent⟩ := lost
  have opened := ofGuesses_of_winsAll here wins
  have guessed : misses ≠ [] := by
    rintro rfl
    exact absurd spent.symm (Nat.ne_of_gt game.livesBudget_pos)
  rw [ofGuesses] at opened ⊢
  rw [List.foldl_append, List.foldl_append, opened, ← spent,
    foldl_turn_of_spent here missed guessed, foldl_turn_of_isTerminal rfl]

theorem ofGuesses_of_standsAt {made : Nat}
    (stands : StandsAt game.livesBudget game.playableLevels guesses index level made) :
    ofGuesses game guesses = standing game index (game.livesBudget - made) := by
  obtain ⟨here, front, misses, rfl, wins, missed, rfl, few⟩ := stands
  have opened := ofGuesses_of_winsAll here wins
  rw [ofGuesses] at opened ⊢
  rw [List.foldl_append, opened, foldl_turn_of_misses here missed few]

/-- The answer of the level at which the game was lost is the one that is shown. -/
theorem revealed?_lost (here : game.playableLevels[index]? = some level) :
    revealed? { standing game index 0 with outcome := .gameOver } = some (answerAt level) := by
  have shown := target_standing here 0
  rw [revealed?, if_pos rfl, ← shown]
  rfl

end Guesses

/-- How a play ends is told by its guesses. In every list of guesses exactly one of three
things is found: blocks for all levels; blocks for the levels before one, and as many
misses there as it has lives; or blocks for the levels before one, and fewer misses. -/
theorem outcome_of_guesses (game : Game) (guesses : List String) :
    let lives := game.livesBudget
    let levels := game.playableLevels
    let play := ofGuesses game guesses
    (Won lives levels guesses ∨ (∃ index level, LostAt lives levels guesses index level) ∨
        ∃ index level made, StandsAt lives levels guesses index level made) ∧
      (play.outcome = .allLevelsWon ↔ Won lives levels guesses) ∧
      (play.outcome = .gameOver ↔ ∃ index level, LostAt lives levels guesses index level) ∧
      (play.outcome = .inProgress ↔
        ∃ index level made, StandsAt lives levels guesses index level made) ∧
      (∀ index level, LostAt lives levels guesses index level →
        play.index = index ∧ play.lives = 0 ∧ play.revealed? = some (answerAt level)) ∧
      (∀ index level made, StandsAt lives levels guesses index level made →
        play.index = index ∧ play.lives = lives - made) := by
  intro lives levels play
  have lost : ∀ index level, LostAt lives levels guesses index level →
      play = { standing game index 0 with outcome := .gameOver } :=
    fun _ _ at_ => ofGuesses_of_lostAt at_
  have stands : ∀ index level made, StandsAt lives levels guesses index level made →
      play = standing game index (lives - made) :=
    fun _ _ _ at_ => ofGuesses_of_standsAt at_
  have whenWon : Won lives levels guesses → play.outcome = .allLevelsWon := outcome_of_won
  have whenLost : (∃ index level, LostAt lives levels guesses index level) →
      play.outcome = .gameOver := by
    rintro ⟨index, level, at_⟩
    rw [lost index level at_]
  have whenStanding : (∃ index level made, StandsAt lives levels guesses index level made) →
      play.outcome = .inProgress := by
    rintro ⟨index, level, made, at_⟩
    rw [stands index level made at_]
    rfl
  -- one of the three is found, and its outcome excludes the other two
  have found := won_or_lost_or_stands lives levels guesses
  refine ⟨found, ⟨?_, whenWon⟩, ⟨?_, whenLost⟩, ⟨?_, whenStanding⟩, ?_, ?_⟩
  · intro ended
    simpa [ended] using found.imp_right (Or.imp whenLost whenStanding)
  · intro ended
    simpa [ended] using Or.imp whenWon (Or.imp_right whenStanding) found
  · intro going
    simpa [going] using Or.imp whenWon (Or.imp_left whenLost) found
  · intro index level at_
    rw [lost index level at_]
    exact ⟨rfl, rfl, revealed?_lost at_.1⟩
  · intro index level made at_
    rw [stands index level made at_]
    exact ⟨rfl, rfl⟩

end GuessingGame.Play
