import Mathlib.Data.List.Basic
import GuessingGame.Proofs.Console.PlayLines
import GuessingGame.Proofs.Play.Redaction

/-!
# Answers stay secret until the game is lost

Two games are given that are told apart by their answers alone, and the same input. As long
as each guess hits the answer of the level in play in both games or in neither, the player
cannot tell which of the two is played: the results, the lines that are left unread and what
is written are the same. Only a lost game names the answer, at the very end.

All that a playthrough says, save this last word, is a function of the redacted play. So the
plays are followed line by line, with equal redacted plays as the invariant; a step that could
break it is a guess, and there the two answers are asked to agree.
-/

namespace GuessingGame.Console

open GuessingGame.Text

theorem stops_redacted (play : Play) : Stops play.redacted ↔ Stops play := by
  have playable : play.game.redacted.playableLevels = [] ↔ play.game.playableLevels = [] := by
    rw [Game.redacted_playableLevels, List.map_eq_nil_iff]
  have absent : play.redacted.target? = none ↔ play.target? = none := by
    rw [Play.redacted_target?, Option.map_eq_none_iff]
  have empty : play.redacted.target? = some "" ↔ play.target? = some "" := by
    rw [Play.redacted_target?]
    cases play.target? <;> simp [Answer.redacted_eq_empty_iff]
  exact or_congr playable (or_congr Iff.rfl (or_congr absent empty))

theorem levelText_redacted (play : Play) : levelText play.redacted = levelText play := by
  have number : play.redacted.level?.map Level.number = play.level?.map Level.number := by
    rw [Play.redacted_level?, Option.map_map]
    rfl
  unfold levelText
  rw [number, Play.redacted_hint?, Play.redacted_levels, List.length_map, Play.redacted_lives]

theorem openingText_redacted (play : Play) : openingText play.redacted = openingText play := by
  rw [openingText, openingText, Play.redacted_lacksTarget, Play.redacted_outcome]

theorem welcomeText_redacted (play : Play) : welcomeText play.redacted = welcomeText play := rfl

theorem settlingText_redacted (play : Play) : settlingText play.redacted = settlingText play := by
  rw [settlingText, settlingText, ← Play.redacted_advance, openingText_redacted,
    Play.redacted_outcome]

/-- The guesses that are made of the lines ahead, each with the index of the level in play. -/
def guesses (play : Play) : List (List UInt8) → List (Nat × String)
  | [] => []
  | line :: others =>
    let now := play.settled
    if Stops now then []
    else match Utf8.decode? line with
      | none => []
      | some text =>
        if Answer.isBlank text then guesses now others
        else (now.index, text) :: guesses (now.guess text) others

def Agree (game other : Game) (made : List (Nat × String)) : Prop :=
  ∀ guess ∈ made, Answer.hits guess.2 (game.answer guess.1) =
    Answer.hits guess.2 (other.answer guess.1)

instance (game other : Game) (made : List (Nat × String)) : Decidable (Agree game other made) :=
  inferInstanceAs (Decidable (∀ guess ∈ made, _))

/-- The answer, named at the end of a lost game. -/
def lastWords (result : Except Failure Outcome) (play : Play) : String :=
  match result with
  | .ok .gameOver => gameOverText play.target
  | _ => ""

/-- Nothing but the last words tells two plays apart by the lines ahead. -/
structure Indistinct (first second : Play) (ahead : List (List UInt8)) : Prop where
  result : (playLines first ahead).1 = (playLines second ahead).1
  play : (playLines first ahead).2.1.redacted = (playLines second ahead).2.1.redacted
  unread : (playLines first ahead).2.2 = (playLines second ahead).2.2
  told : ∃ told,
    transcript first ahead =
      told ++ lastWords (playLines first ahead).1 (playLines first ahead).2.1 ∧
    transcript second ahead =
      told ++ lastWords (playLines second ahead).1 (playLines second ahead).2.1

section

variable {first second : Play}

theorem stops_settled_of_alike (alike : first.redacted = second.redacted) :
    Stops first.settled ↔ Stops second.settled := by
  rw [← stops_redacted, ← stops_redacted second.settled, Play.redacted_settled,
    Play.redacted_settled, alike]

theorem settled_of_alike (alike : first.redacted = second.redacted) :
    first.settled.redacted = second.settled.redacted := by
  rw [Play.redacted_settled, Play.redacted_settled, alike]

theorem settlingText_of_alike (alike : first.redacted = second.redacted) :
    settlingText first = settlingText second := by
  rw [← settlingText_redacted, alike, settlingText_redacted]

theorem levelText_of_alike (alike : first.redacted = second.redacted) :
    levelText first = levelText second := by
  rw [← levelText_redacted, alike, levelText_redacted]

/-- What is said where no guess is asked for, up to the last words. -/
theorem closingText_of_alike (alike : first.redacted = second.redacted) :
    ∃ told, closingText first = told ++ lastWords (.ok first.outcome) first ∧
      closingText second = told ++ lastWords (.ok second.outcome) second := by
  have same := Play.outcome_eq_of_redacted_eq alike
  rw [closingText, closingText, ← same]
  cases outcome : first.outcome with
  | gameOver => exact ⟨"", by simp [Play.revealed?, outcome, ← same, lastWords]⟩
  | inProgress | levelWon | allLevelsWon =>
      exact ⟨_, String.append_empty.symm, String.append_empty.symm⟩

namespace Indistinct

theorem of_stops (alike : first.redacted = second.redacted) (stops : Stops first.settled)
    (ahead : List (List UInt8)) : Indistinct first second ahead := by
  have stops' := (stops_settled_of_alike alike).mp stops
  have settled := settled_of_alike alike
  obtain ⟨told, closing, closing'⟩ := closingText_of_alike settled
  constructor
  · rw [playLines_of_stops stops, playLines_of_stops stops']
    exact congrArg Except.ok (Play.outcome_eq_of_redacted_eq settled)
  · rwa [playLines_of_stops stops, playLines_of_stops stops']
  · rw [playLines_of_stops stops, playLines_of_stops stops']
  · rw [playLines_of_stops stops, playLines_of_stops stops', transcript_of_stops stops,
      transcript_of_stops stops', closing, closing', settlingText_of_alike alike]
    exact ⟨settlingText second ++ told, by rw [String.append_assoc], by rw [String.append_assoc]⟩

/-- The level is shown, the prompt is written, and no guess comes. -/
theorem of_failure (failure : Failure) {ahead : List (List UInt8)} (others : List (List UInt8))
    (alike : first.redacted = second.redacted) (going : ¬Stops first.settled)
    (fails : ∀ play : Play, ¬Stops play.settled →
      playLines play ahead = (.error failure, play.settled, others) ∧
        transcript play ahead = settlingText play ++ (levelText play.settled ++ prompt)) :
    Indistinct first second ahead := by
  have going' := mt (stops_settled_of_alike alike).mpr going
  obtain ⟨ends, spoken⟩ := fails first going
  obtain ⟨ends', spoken'⟩ := fails second going'
  constructor
  · rw [ends, ends']
  · rw [ends, ends']
    exact settled_of_alike alike
  · rw [ends, ends']
  · refine ⟨settlingText second ++ (levelText second.settled ++ prompt), ?_, ?_⟩
    · rw [spoken, ends, settlingText_of_alike alike,
        levelText_of_alike (settled_of_alike alike)]
      exact String.append_empty.symm
    · rw [spoken', ends']
      exact String.append_empty.symm

/-- A line is read and judged, and the rest of the play is that of the lines behind it. -/
theorem of_text {line : List UInt8} {others : List (List UInt8)} {text : String}
    (alike : first.redacted = second.redacted) (going : ¬Stops first.settled)
    (decoded : Utf8.decode? line = some text)
    (judged : judgingText first.settled text = judgingText second.settled text)
    (rest : Indistinct (if Answer.isBlank text then first.settled else first.settled.guess text)
      (if Answer.isBlank text then second.settled else second.settled.guess text) others) :
    Indistinct first second (line :: others) := by
  have going' := mt (stops_settled_of_alike alike).mpr going
  obtain ⟨told, spoken, spoken'⟩ := rest.told
  constructor
  · rw [playLines_of_text going decoded, playLines_of_text going' decoded, rest.result]
  · rw [playLines_of_text going decoded, playLines_of_text going' decoded, rest.play]
  · rw [playLines_of_text going decoded, playLines_of_text going' decoded, rest.unread]
  · rw [playLines_of_text going decoded, playLines_of_text going' decoded,
      transcript_of_text going decoded, transcript_of_text going' decoded, spoken, spoken', judged,
      settlingText_of_alike alike, levelText_of_alike (settled_of_alike alike)]
    simp only [← String.append_assoc]
    exact ⟨_, rfl, rfl⟩

end Indistinct

end

/-- Plays that are equal when redacted are told apart by no line, as long as the guesses agree. -/
theorem indistinct_of_agree {game other : Game} {first second : Play}
    (sound : Play.Sound game first) (sound' : Play.Sound other second)
    (alike : first.redacted = second.redacted) {ahead : List (List UInt8)}
    (agree : Agree game other (guesses first ahead)) : Indistinct first second ahead := by
  induction ahead generalizing first second with
  | nil =>
      by_cases stops : Stops first.settled
      · exact .of_stops alike stops []
      · refine .of_failure .inputClosed [] alike stops fun play going => ?_
        simp only [playLines, transcript, if_neg going]
        exact ⟨trivial, trivial⟩
  | cons line others ih =>
      by_cases stops : Stops first.settled
      · exact .of_stops alike stops _
      · cases decoded : Utf8.decode? line with
        | none =>
            refine .of_failure .notText others alike stops fun play going => ?_
            simp only [playLines, transcript, if_neg going, decoded, String.append_empty]
            exact ⟨trivial, trivial⟩
        | some text =>
            have settled := settled_of_alike alike
            have sound_now := sound.settled
            have sound_now' := sound'.settled
            simp only [guesses, if_neg stops, decoded] at agree
            by_cases blank : Answer.isBlank text = true
            · refine .of_text alike stops decoded ?_ ?_
              · rw [judgingText, judgingText, if_pos blank, if_pos blank]
              · simp only [if_pos blank] at agree ⊢
                exact ih sound_now sound_now' settled agree
            · -- the one place where the answers count, and there they are asked to agree
              rw [if_neg blank] at agree
              obtain ⟨hit, later⟩ := List.forall_mem_cons.mp agree
              have same : Answer.hits text first.settled.target =
                  Answer.hits text second.settled.target := by
                rw [sound_now.target_eq, sound_now'.target_eq,
                  ← Play.index_eq_of_redacted_eq settled]
                exact hit
              have guessed := Play.redacted_guess settled same
              refine .of_text alike stops decoded ?_ ?_
              · rw [judgingText, judgingText, if_neg blank, if_neg blank,
                  Play.outcome_eq_of_redacted_eq guessed]
              · simp only [if_neg blank]
                exact ih (sound_now.guess text) (sound_now'.guess text) guessed later

/-- Where the game is not lost, there are no last words. -/
theorem lastWords_of_ne {result : Except Failure Outcome} (going : result ≠ .ok .gameOver)
    (play : Play) : lastWords result play = "" := by
  unfold lastWords
  split
  · exact absurd rfl going
  · rfl

/-- The greeting does not tell two plays apart. -/
theorem Indistinct.greeted {game : Game} {first second : Play} {ahead : List (List UInt8)}
    (sound : Play.Sound game first) (alike : first.redacted = second.redacted)
    (same : Indistinct first second ahead) :
    ∃ told,
      playthroughText first ahead =
        told ++ lastWords (playLines first ahead).1 (playLines first ahead).2.1 ∧
      playthroughText second ahead =
        told ++ lastWords (playLines second ahead).1 (playLines second ahead).2.1 := by
  have levels : first.game.hasPlayableLevels = second.game.hasPlayableLevels := by
    rw [← Game.redacted_hasPlayableLevels, ← Play.redacted_game, alike, Play.redacted_game,
      Game.redacted_hasPlayableLevels]
  rw [playthroughText, playthroughText, ← levels]
  by_cases playable : first.game.hasPlayableLevels = true
  · obtain ⟨told, spoken, spoken'⟩ := same.told
    refine ⟨welcomeText second ++ told, ?_, ?_⟩
    · rw [if_pos playable, spoken, ← welcomeText_redacted first, alike, welcomeText_redacted,
        String.append_assoc]
    · rw [if_pos playable, spoken', String.append_assoc]
  · have unplayable : first.game.playableLevels = [] :=
      Decidable.of_not_not (mt first.game.hasPlayableLevels_iff.mpr playable)
    have going : (playLines first ahead).1 ≠ .ok .gameOver := by
      rw [playLines_of_unplayable sound unplayable,
        sound.outcome_of_unplayable (by rwa [← sound.game_eq])]
      simp
    rw [if_neg playable, if_neg playable, ← same.result, lastWords_of_ne going,
      lastWords_of_ne going]
    exact ⟨_, String.append_empty.symm, String.append_empty.symm⟩

/-- Games that are told apart by their answers alone have the same overview. They are played
alike, too, on any input whose guesses each hit the level in play in both games or in neither:
a playthrough comes to the same result, leaves the same input unread and writes the same,
except that a lost game ends with the answer of the level at which it was lost. -/
theorem playthrough_secret (game other : Game) (alike : game.redacted = other.redacted) :
    game.summary = other.summary ∧ ∀ input written : List UInt8,
      Agree game other (guesses (Play.start game) (lines input)) →
      let first := playthrough.run (unlimited (Play.start game) input written)
      let second := playthrough.run (unlimited (Play.start other) input written)
      first.1 = second.1 ∧ first.2.console.input = second.2.console.input ∧
        (first.1 ≠ .ok .gameOver → first.2.console.output = second.2.console.output) ∧
        (first.1 = .ok .gameOver → ∃ told,
          first.2.console.output.written =
            told ++ Utf8.encode (gameOverText first.2.play.target) ∧
          second.2.console.output.written =
            told ++ Utf8.encode (gameOverText second.2.play.target)) := by
  refine ⟨by rw [← game.summary_redacted, alike, other.summary_redacted], ?_⟩
  intro input written agree first second
  have started : (Play.start game).redacted = (Play.start other).redacted := by
    rw [Play.redacted_start, Play.redacted_start, alike]
  have same := indistinct_of_agree (Play.sound_start game) (Play.sound_start other) started agree
  obtain ⟨told, spoken, spoken'⟩ := same.greeted (Play.sound_start game) started
  have first_eq : first = _ := playthrough_told (Play.sound_start game) input written
  have second_eq : second = _ := playthrough_told (Play.sound_start other) input written
  rw [spoken] at first_eq
  rw [spoken', ← same.result, ← same.unread] at second_eq
  rw [first_eq, second_eq]
  refine ⟨rfl, rfl, ?_, ?_⟩
  · intro going
    simp only [unlimited, lastWords_of_ne going]
  · intro lost
    refine ⟨written ++ Utf8.encode told, ?_, ?_⟩
    all_goals
      dsimp only at lost
      rw [lost]
      simp [unlimited, lastWords]

/-- Who guesses Peru and then Paris cannot tell a game about Oslo from one about Rome, but for
the last words. -/
theorem playthrough_secret_paris :
    let levels (last : String) : List Level :=
      [{ number := 1, target := some "Peru", hint := some "Andes" },
        { number := 2, target := some last, hint := some "Capital" }]
    let game : Game := { title := "Places", levels := levels "Oslo" }
    let other : Game := { title := "Places", levels := levels "Rome" }
    let input := Utf8.encode "peru\nparis\n"
    let first := playthrough.run (unlimited (Play.start game) input [])
    let second := playthrough.run (unlimited (Play.start other) input [])
    game.redacted = other.redacted ∧
      guesses (Play.start game) (lines input) = [(0, "peru\n"), (1, "paris\n")] ∧
      Agree game other (guesses (Play.start game) (lines input)) ∧
      game.summary = other.summary ∧ first.1 = .ok .gameOver ∧ second.1 = .ok .gameOver ∧
      ∃ told,
        first.2.console.output.written = told ++ Utf8.encode (gameOverText "Oslo") ∧
        second.2.console.output.written = told ++ Utf8.encode (gameOverText "Rome") := by
  intro levels game other input first second
  have alike : game.redacted = other.redacted := by decide +kernel
  have made : guesses (Play.start game) (lines input) = [(0, "peru\n"), (1, "paris\n")] := by
    decide +kernel
  have agree : Agree game other (guesses (Play.start game) (lines input)) := by
    rw [made]
    decide +kernel
  obtain ⟨overview, same⟩ := playthrough_secret game other alike
  obtain ⟨result, -, -, told⟩ := same input [] agree
  have first_eq : first = _ := playthrough_told (Play.sound_start game) input []
  have second_eq : second = _ := playthrough_told (Play.sound_start other) input []
  have lost : first.1 = .ok .gameOver := by
    rw [first_eq]
    decide +kernel
  have answer : first.2.play.target = "Oslo" := by
    rw [first_eq]
    decide +kernel
  have answer' : second.2.play.target = "Rome" := by
    rw [second_eq]
    decide +kernel
  rw [← answer, ← answer']
  exact ⟨alike, made, agree, overview, lost, result ▸ lost, told lost⟩

end GuessingGame.Console
