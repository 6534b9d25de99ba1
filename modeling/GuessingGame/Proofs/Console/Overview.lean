import Mathlib.Data.List.Basic
import GuessingGame.Proofs.Console.PlayLines
import GuessingGame.Script.Reader

/-!
# What the overview foretells

The overview of a game marks the levels that were given no answer. A playthrough stops at
these, and it stops at a level whose answer is the empty text, too, which the overview counts
as given. So a mark foretells a stop, and the stops without a mark are those at empty answers:
`overview_foretells`.

The overview is a text, and the title in it may hold anything, also what looks like the line
of a level. The lines of the levels are therefore found from the end of the text
(`overviewLine?`), where nothing but them stands.
-/

namespace GuessingGame

open GuessingGame.Text

/-- The line of an overview that tells of a level. The lines of the levels are the last ones,
and as each is ended, an empty text stands behind them. -/
def overviewLine? (overview : String) (levels index : Nat) : Option (List Char) :=
  let lines := overview.toList.splitOn '\n'
  lines[lines.length - 1 - levels + index]?

def TellsMissing (overview : String) (levels index : Nat) : Prop :=
  ∃ line ∈ overviewLine? overview levels index, "target MISSING".toList <:+: line

namespace Game

/-- What the overview tells of a level, without the end of its line. -/
def levelLine (level : Level) : List Char :=
  "  LEVEL ".toList ++ Nat.toDigits 10 level.number.toNat ++
    (": target ".toList ++ (if level.target.isSome then "yes".toList else "MISSING".toList) ++
      ", hint ".toList ++ (if level.hint.isSome then "yes".toList else "MISSING".toList))

theorem toList_levelSummary (level : Level) :
    (levelSummary level).toList = levelLine level ++ ['\n'] := by
  have newline : "\n".toList = ['\n'] := by decide
  unfold levelLine
  simp only [levelSummary_eq, String.toList_append, newline, List.append_assoc,
    Nat.toString_eq_repr, Nat.toList_repr, apply_ite String.toList]

theorem newline_not_mem_levelLine (level : Level) : '\n' ∉ levelLine level := by
  unfold levelLine
  intro newline
  rw [List.mem_append, List.mem_append] at newline
  rcases newline with (name | number) | marks
  · revert name
    decide
  · have digit := Nat.isDigit_of_mem_toDigits (by decide) (by decide) number
    revert digit
    decide
  · revert marks
    cases level.target.isSome <;> cases level.hint.isSome <;> decide

/-- The number of a level says nothing of its answer: digits do not occur in the mark. -/
theorem missing_isInfix_levelLine_iff (level : Level) :
    "target MISSING".toList <:+: levelLine level ↔ level.target = none := by
  have absent : level.target = none ↔ level.target.isSome = false := by
    rw [Option.isSome_eq_false_iff, Option.isNone_iff_eq_none]
  unfold levelLine
  rw [absent]
  constructor
  · intro marked
    have spelt := marked.filter fun c => !c.isDigit
    have number : (Nat.toDigits 10 level.number.toNat).filter (fun c => !c.isDigit) = [] := by
      rw [List.filter_eq_nil_iff]
      intro c digit
      simp [Nat.isDigit_of_mem_toDigits (by decide) (by decide) digit]
    rw [List.filter_append, List.filter_append, number, List.append_nil] at spelt
    cases target : level.target.isSome with
    | false => rfl
    | true =>
        rw [target] at spelt
        revert spelt
        cases level.hint.isSome <;> decide +kernel
  · intro missing
    rw [missing]
    refine List.IsInfix.trans ?_ (List.suffix_append _ _).isInfix
    cases level.hint.isSome <;> decide +kernel

theorem splitOn_levelLines (levels : List Level) :
    (levels.flatMap fun level => levelLine level ++ ['\n']).splitOn '\n' =
      levels.map levelLine ++ [[]] := by
  induction levels with
  | nil => rfl
  | cons level levels ih =>
      rw [List.flatMap_cons, List.append_assoc, List.singleton_append,
        List.splitOn_append_cons_self_of_not_mem (newline_not_mem_levelLine level), ih,
        List.map_cons, List.cons_append]

/-- The overview of a game ends with the lines of its levels. -/
theorem splitOn_summary {game : Game} (playable : game.playableLevels ≠ []) :
    ∃ head, game.summary.toList.splitOn '\n' =
      head ++ (game.playableLevels.map levelLine ++ [[]]) := by
  have text : ∃ head, game.summary.toList = head ++ '\n' ::
      game.playableLevels.flatMap fun level => levelLine level ++ ['\n'] := by
    unfold summary
    cases levels : game.playableLevels with
    | nil => exact absurd levels playable
    | cons level others =>
        refine ⟨("Title: " ++ game.displayTitle ++ "\nLives: " ++ toString game.maxLives.toNat ++
          "\n" ++ ("Levels: " ++ toString (level :: others).length)).toList, ?_⟩
        simp [String.toList_join, List.flatMap_map, toList_levelSummary]
  obtain ⟨head, text⟩ := text
  rw [text, List.splitOn_append_cons_self, splitOn_levelLines]
  exact ⟨_, rfl⟩

/-- The overview tells of each level in its place. -/
theorem overviewLine?_summary {game : Game} {index : Nat} {level : Level}
    (here : game.playableLevels[index]? = some level) :
    overviewLine? game.summary game.playableLevels.length index = some (levelLine level) := by
  have bound : index < game.playableLevels.length := (List.getElem?_eq_some_iff.mp here).1
  obtain ⟨head, lines⟩ := splitOn_summary (List.ne_nil_of_length_pos (Nat.zero_lt_of_lt bound))
  rw [overviewLine?, lines]
  have place : (head ++ (game.playableLevels.map levelLine ++ [[]])).length - 1 -
      game.playableLevels.length + index = head.length + index := by
    simp only [List.length_append, List.length_map, List.length_singleton]
    omega
  rw [place, List.getElem?_append_right (Nat.le_add_right _ _), Nat.add_sub_cancel_left,
    List.getElem?_append_left (by simpa using bound), List.getElem?_map, here, Option.map_some]

/-- The overview marks the levels that were given no answer. -/
theorem tellsMissing_iff {game : Game} {index : Nat} {level : Level}
    (here : game.playableLevels[index]? = some level) :
    TellsMissing game.summary game.playableLevels.length index ↔ level.target = none := by
  rw [TellsMissing, overviewLine?_summary here, ← missing_isInfix_levelLine_iff]
  simp

end Game

namespace Play

/-- The right guesses lead to every level, also past those that have no answer, which the empty
guess wins. -/
theorem exists_inProgress {game : Game} {index : Nat} (bound : index < game.playableLevels.length) :
    ∃ moves, (ofMoves game moves).outcome = .inProgress ∧ (ofMoves game moves).index = index := by
  induction index with
  | zero =>
      have playable : game.playableLevels ≠ [] := List.ne_nil_of_length_pos bound
      exact ⟨[], by simp [ofMoves, start, playable], rfl⟩
  | succ index ih =>
      obtain ⟨moves, going, here⟩ := ih (Nat.lt_of_succ_lt bound)
      have levels := (sound_ofMoves game moves).levels_eq
      have hit := (Answer.hits_iff (ofMoves game moves).target _).mpr rfl
      refine ⟨moves ++ [.guess (ofMoves game moves).target, .advance], ?_⟩
      have next : ofMoves game (moves ++ [.guess (ofMoves game moves).target, .advance]) =
          ((ofMoves game moves).guess (ofMoves game moves).target).advance := by
        simp [ofMoves, after]
      rw [next, guess_of_hit going hit]
      rcases advance_cases { ofMoves game moves with outcome := .levelWon } with
        ⟨still, -⟩ | ⟨-, last, -⟩ | ⟨-, -, opened⟩
      · exact absurd rfl still
      · rw [levels, here] at last
        omega
      · rw [opened, here]
        exact ⟨rfl, rfl⟩

/-- The level in play decides whether it can be won. -/
theorem Sound.lacksTarget_iff {game : Game} {play : Play} {level : Level} (sound : Sound game play)
    (going : play.outcome = .inProgress) (here : game.playableLevels[play.index]? = some level) :
    play.lacksTarget = true ↔ level.target = none ∨ level.target = some "" := by
  have target : play.target? = level.target := by
    rw [target?, level?, sound.levels_eq, here, Option.bind_some]
  rw [Console.lacksTarget_iff, target]
  simp [going]

end Play

namespace Console

variable {game : Game} {play : Play}

/-- A playthrough that comes to a level without an answer stops there at once. -/
theorem playthrough_of_lacksTarget (sound : Play.Sound game play)
    (lacks : play.settled.lacksTarget = true) (input written : List UInt8) :
    playthrough.run (unlimited play input written) = (.ok .inProgress, unlimited play.settled input
      (written ++ Utf8.encode (welcomeText play ++ noTargetLoaded))) := by
  obtain ⟨going, target⟩ := (lacksTarget_iff _).mp lacks
  have stops : Stops play.settled := .inr (.inr target)
  have silent : settlingText play = "" := by
    rw [settlingText, openingText, ← Play.settled_eq, lacks]
    simp
  have levels : play.game.hasPlayableLevels = true := by
    rw [Game.hasPlayableLevels_iff, sound.game_eq]
    intro unplayable
    have won := sound.settled.outcome_of_unplayable unplayable
    rw [going] at won
    cases won
  rw [playthrough_told sound, playLines_of_stops stops, playthroughText, if_pos levels,
    transcript_of_stops stops, silent, closingText, going, flatten_lines, String.empty_append]

/-- A playthrough that ends at a level in progress ends at one that cannot be won. -/
theorem lacksTarget_of_playthrough (sound : Play.Sound game play) {input written : List UInt8}
    (ends : (playthrough.run (unlimited play input written)).1 = .ok .inProgress) :
    (playthrough.run (unlimited play input written)).2.play.lacksTarget = true := by
  rw [playthrough_told sound] at ends ⊢
  obtain ⟨stops, going⟩ := stops_of_playLines_eq_ok ends
  show (playLines play (lines input)).2.1.lacksTarget = true
  rw [lacksTarget_iff]
  refine ⟨going, ?_⟩
  have left := sound_playLines sound (lines input)
  rcases stops with unplayable | ended | target
  · rw [left.game_eq] at unplayable
    have won := left.outcome_of_unplayable unplayable
    rw [going] at won
    cases won
  · rw [going] at ended
    cases ended
  · exact target

/-- The overview marks a level exactly if it was given no answer. Every level can be come to,
and when a play has come to it, the level lacks an answer exactly if it is marked or its answer
is empty; and exactly then a playthrough stops at it, at once, with the message that there is no
answer. -/
theorem overview_foretells (game : Game) (index : Nat) (level : Level)
    (here : game.playableLevels[index]? = some level) :
    let marked := TellsMissing game.summary game.playableLevels.length index
    (marked ↔ level.target = none) ∧
    (∃ moves, (Play.ofMoves game moves).outcome = .inProgress ∧
      (Play.ofMoves game moves).index = index) ∧
    ∀ moves, let play := Play.ofMoves game moves
      play.settled.outcome = .inProgress → play.settled.index = index →
      (play.settled.lacksTarget = true ↔ marked ∨ level.target = some "") ∧
      ∀ input written : List UInt8,
        let run := playthrough.run (unlimited play input written)
        (play.settled.lacksTarget = true ↔ run.1 = .ok .inProgress ∧ run.2.play.index = index) ∧
        (play.settled.lacksTarget = true → run.2 = unlimited play.settled input
          (written ++ Utf8.encode (welcomeText play ++ noTargetLoaded))) := by
  intro marked
  have marks : marked ↔ level.target = none := Game.tellsMissing_iff here
  have bound : index < game.playableLevels.length := (List.getElem?_eq_some_iff.mp here).1
  refine ⟨marks, Play.exists_inProgress bound, ?_⟩
  intro moves play going index_eq
  have sound : Play.Sound game play := Play.sound_ofMoves game moves
  have lacks_iff := sound.settled.lacksTarget_iff going (by rwa [index_eq])
  refine ⟨by rw [marks]; exact lacks_iff, ?_⟩
  intro input written run
  have stopped (lacks : play.settled.lacksTarget = true) : run = _ :=
    playthrough_of_lacksTarget sound lacks input written
  refine ⟨⟨?_, ?_⟩, ?_⟩
  · intro lacks
    rw [stopped lacks]
    exact ⟨rfl, index_eq⟩
  · rintro ⟨ends, there⟩
    -- the play is still at the level, and the level is what decides
    have lacks := lacksTarget_of_playthrough sound ends
    have left : Play.Sound game run.2.play := by
      rw [show run = _ from playthrough_told sound input written]
      exact sound_playLines sound (lines input)
    have still := ((lacksTarget_iff _).mp lacks).1
    exact lacks_iff.mpr ((left.lacksTarget_iff still (by rwa [there])).mp lacks)
  · intro lacks
    rw [stopped lacks]

/-- A level without an answer is marked, and a playthrough whose last guess won the level before
it stops there. -/
theorem overview_foretells_second :
    let game : Game := { levels := [{ number := 1, target := some "Peru" }, { number := 2 }] }
    let play := Play.ofMoves game [.guess "peru"]
    game.playableLevels[1]? = some { number := 2 } ∧
      play.settled.outcome = .inProgress ∧ play.settled.index = 1 ∧
      TellsMissing game.summary 2 1 ∧
      (playthrough.run (unlimited play [] [])).1 = .ok .inProgress := by
  intro game play
  have here : game.playableLevels[1]? = some { number := 2 } := rfl
  have going : play.settled.outcome = .inProgress := by decide +kernel
  have index : play.settled.index = 1 := by decide +kernel
  obtain ⟨marks, -, stops⟩ := overview_foretells game 1 { number := 2 } here
  obtain ⟨lacks, run⟩ := stops [.guess "peru"] going index
  have marked := marks.mpr rfl
  exact ⟨here, going, index, marked, ((run [] []).1.mp (lacks.mpr (.inl marked))).1⟩

/-- A playthrough stops at an empty answer, and the overview does not mark the level: to it,
the answer was given. -/
theorem stop_without_mark :
    let game : Game := { levels := [{ number := 1, target := some "" }] }
    let play := Play.start game
    Script.readGame "LEVEL 1; TARGET \"\";" = .ok game ∧
      play.outcome = .inProgress ∧ play.index = 0 ∧ play.lacksTarget = true ∧
      playthrough.run (unlimited play [] []) = (.ok .inProgress, unlimited play []
        (Utf8.encode (welcomeText play ++ noTargetLoaded))) ∧
      ¬TellsMissing game.summary 1 0 := by
  intro game play
  have here : game.playableLevels[0]? = some { number := 1, target := some "" } := rfl
  have lacks : play.settled.lacksTarget = true := by decide +kernel
  have unmarked : ¬TellsMissing game.summary 1 0 := by
    rw [show TellsMissing game.summary 1 0 ↔ _ from Game.tellsMissing_iff here]
    exact nofun
  exact ⟨by decide +kernel, rfl, rfl, lacks,
    playthrough_of_lacksTarget (Play.sound_start game) lacks [] [], unmarked⟩

end Console

end GuessingGame
