import GuessingGame.Console.Playthrough
import GuessingGame.Proofs.Console.Writing
import GuessingGame.Proofs.Play.Invariant

/-!
# Playing line by line

Take the console away from a playthrough, and what is left is a recursion on the lines of
the input: `playLines`. A won level is moved past; the play stops where no guess is asked
for; otherwise a line is used up, and it fails, is blank, or is a guess.

At the console nothing else happens, whatever the output takes, and what is written there is
a recursion on the lines, too: `transcript`. The rounds that only move past a won level read
nothing, so they do not show in the recursion, and `writes_playOn_settled` takes them out of
the way. Each other round ends the sitting or reads one line, and `writes_playOn` follows the
recursion with it. That rounds come to an end at all,
and after how many, is `Sitting.untilDone_endsIn`.
-/

namespace GuessingGame.Console

open Attempt (Writes)
open GuessingGame.Text

/-- Where no guess is asked for: nothing can be played, the game has ended, or the level in
play has no answer or an empty one. -/
def Stops (play : Play) : Prop :=
  play.game.playableLevels = [] ∨ play.outcome.isTerminal = true ∨ play.target? = none ∨
    play.target? = some ""

instance (play : Play) : Decidable (Stops play) := inferInstanceAs (Decidable (_ ∨ _ ∨ _ ∨ _))

/-- How a playthrough ends, the play then, and the lines that were not read. -/
def playLines (play : Play) :
    List (List UInt8) → Except Failure Outcome × Play × List (List UInt8)
  | [] =>
    let now := play.settled
    if Stops now then (.ok now.outcome, now, [])
    else (.error .inputClosed, now, [])
  | line :: others =>
    let now := play.settled
    if Stops now then (.ok now.outcome, now, line :: others)
    else match Utf8.decode? line with
      | none => (.error .notText, now, others)
      | some text =>
        if Answer.isBlank text then playLines now others
        else playLines (now.guess text) others

theorem playLines_of_stops {play : Play} (stops : Stops play.settled)
    (ahead : List (List UInt8)) :
    playLines play ahead = (.ok play.settled.outcome, play.settled, ahead) := by
  rcases ahead with _ | ⟨line, others⟩ <;> simp [playLines, stops]

/-- Where nothing can be played, the play is over, and no line is read. -/
theorem playLines_of_unplayable {game : Game} {play : Play} (sound : Play.Sound game play)
    (unplayable : play.game.playableLevels = []) (ahead : List (List UInt8)) :
    playLines play ahead = (.ok play.outcome, play, ahead) := by
  have won := sound.outcome_of_unplayable (by rwa [← sound.game_eq])
  have still : play.settled = play := if_neg (by rw [won]; decide)
  have stops : Stops play.settled := .inl (by rwa [still])
  rw [playLines_of_stops stops, still]

/-- To move past a won level changes nothing in how the lines ahead are played. -/
theorem playLines_settled (play : Play) (ahead : List (List UInt8)) :
    playLines play.settled ahead = playLines play ahead := by
  cases ahead <;> simp only [playLines, Play.settled_settled]

theorem playLines_of_text {play : Play} {line : List UInt8} {text : String}
    (going : ¬Stops play.settled) (decoded : Utf8.decode? line = some text)
    (others : List (List UInt8)) : playLines play (line :: others) =
      playLines (if Answer.isBlank text then play.settled else play.settled.guess text) others := by
  simp only [playLines, if_neg going, decoded]
  split <;> rfl

/-- The lines that were not read are the last ones. -/
theorem playLines_isSuffix (play : Play) (ahead : List (List UInt8)) :
    (playLines play ahead).2.2 <:+ ahead := by
  induction ahead generalizing play with
  | nil =>
      rw [playLines]
      split <;> exact List.suffix_refl _
  | cons line others ih =>
      have behind := List.suffix_cons line others
      rw [playLines]
      split
      · exact List.suffix_refl _
      · split
        · exact behind
        · split
          · exact (ih _).trans behind
          · exact (ih _).trans behind

/-- A playthrough that does not fail ends where no guess is asked for. -/
theorem stops_of_playLines_eq_ok {play : Play} {ahead : List (List UInt8)} {outcome : Outcome}
    (ends : (playLines play ahead).1 = .ok outcome) :
    Stops (playLines play ahead).2.1 ∧ (playLines play ahead).2.1.outcome = outcome := by
  induction ahead generalizing play with
  | nil =>
      by_cases stops : Stops play.settled
      · rw [playLines_of_stops stops] at ends ⊢
        exact ⟨stops, Except.ok.inj ends⟩
      · rw [playLines, if_neg stops] at ends
        cases ends
  | cons line others ih =>
      by_cases stops : Stops play.settled
      · rw [playLines_of_stops stops] at ends ⊢
        exact ⟨stops, Except.ok.inj ends⟩
      · cases decoded : Utf8.decode? line with
        | none =>
            simp only [playLines, if_neg stops, decoded] at ends
            cases ends
        | some text =>
            rw [playLines_of_text stops decoded] at ends ⊢
            exact ih ends

theorem sound_playLines {game : Game} {play : Play} (sound : Play.Sound game play)
    (ahead : List (List UInt8)) : Play.Sound game (playLines play ahead).2.1 := by
  induction ahead generalizing play with
  | nil =>
      rw [playLines]
      split <;> exact sound.settled
  | cons line others ih =>
      rw [playLines]
      split
      · exact sound.settled
      · split
        · exact sound.settled
        · split
          · exact ih sound.settled
          · exact ih (sound.settled.guess _)

theorem lacksTarget_iff (play : Play) : play.lacksTarget = true ↔
    play.outcome = .inProgress ∧ (play.target? = none ∨ play.target? = some "") := by
  rw [Play.lacksTarget, Play.target]
  cases play.target? <;> simp

/-- What is said at the opening of a level, if a guess can be made there. -/
def openingText (play : Play) : String :=
  if play.outcome = .inProgress && !play.lacksTarget then "New level loaded!\n" else ""

/-- What is said when a won level is moved past, if there is one. -/
def settlingText (play : Play) : String :=
  if play.outcome = .levelWon then openingText play.advance else ""

/-- What is said where no guess is asked for. -/
def closingText (play : Play) : String :=
  match play.outcome with
  | .levelWon => ""
  | .allLevelsWon => "You finished all levels!\n"
  | .gameOver => gameOverText (play.revealed?.getD "")
  | .inProgress => noTargetLoaded

def judgingText (play : Play) (text : String) : String :=
  if Answer.isBlank text then "Please type a guess!\n" else guessText (play.guess text).outcome

/-- What the player is told from a play on, by the lines ahead. -/
def transcript (play : Play) : List (List UInt8) → String
  | [] =>
    let now := play.settled
    settlingText play ++ if Stops now then closingText now else levelText now ++ prompt
  | line :: others =>
    let now := play.settled
    settlingText play ++
      if Stops now then closingText now
      else levelText now ++ prompt ++
        match Utf8.decode? line with
        | none => ""
        | some text => judgingText now text ++
          transcript (if Answer.isBlank text then now else now.guess text) others

theorem transcript_of_stops {play : Play} (stops : Stops play.settled)
    (ahead : List (List UInt8)) :
    transcript play ahead = settlingText play ++ closingText play.settled := by
  rcases ahead with _ | ⟨line, others⟩ <;> simp [transcript, stops]

theorem transcript_of_text {play : Play} {line : List UInt8} {text : String}
    (going : ¬Stops play.settled) (decoded : Utf8.decode? line = some text)
    (others : List (List UInt8)) : transcript play (line :: others) =
      settlingText play ++ (levelText play.settled ++ prompt ++ judgingText play.settled text ++
        transcript (if Answer.isBlank text then play.settled else play.settled.guess text)
          others) := by
  simp only [transcript, if_neg going, decoded, String.append_assoc]

def welcomeText (play : Play) : String := "--- Welcome to: " ++ play.game.displayTitle ++ " ---\n"

/-- What the player is told from the beginning of a playthrough on, by the lines ahead. -/
def playthroughText (play : Play) (ahead : List (List UInt8)) : String :=
  if play.game.hasPlayableLevels then welcomeText play ++ transcript play ahead else noTargetLoaded

/-- Rounds come to an end after a number of them. -/
inductive Sitting.EndsIn {α : Type} (round : Sitting (Option α)) :
    Nat → Table → Except Failure α × Table → Prop
  | failed {table after : Table} {failure : Failure}
      (last : round.run table = (.error failure, after)) :
      EndsIn round 1 table (.error failure, after)
  | done {table after : Table} {value : α}
      (last : round.run table = (.ok (some value), after)) :
      EndsIn round 1 table (.ok value, after)
  | again {table after : Table} {rounds : Nat} {result : Except Failure α × Table}
      (first : round.run table = (.ok none, after)) (others : EndsIn round rounds after result) :
      EndsIn round (rounds + 1) table result

/-- A round that asks for another one makes the effort smaller, so the effort bounds the
number of rounds. -/
theorem Sitting.untilDone_endsIn {α : Type} {round : Sitting (Option α)}
    (progresses : round.Progresses) (table : Table) :
    ∃ rounds, rounds ≤ table.effort + 1 ∧
      round.EndsIn rounds table (round.untilDone progresses table) := by
  induction effort : table.effort using Nat.strongRecOn generalizing table with
  | ind _ ih =>
      subst effort
      rcases run : round.run table with ⟨failure | none | value, after⟩
      · rw [untilDone_of_error run]
        exact ⟨1, by omega, .failed run⟩
      · have less := progresses table after run
        obtain ⟨rounds, bound, ends⟩ := ih after.effort less after rfl
        rw [untilDone_of_none run]
        exact ⟨rounds + 1, by omega, .again run ends⟩
      · rw [untilDone_of_some run]
        exact ⟨1, by omega, .done run⟩

section Rounds

variable {play : Play} {input asked : List UInt8} {left : Play × List UInt8 → Prop}

theorem writes_advanceRound (here : left (play.advance, input)) :
    Writes Table.seat advanceRound (play, input) (Utf8.encode (openingText play.advance))
      (.ok none) (play.advance, input) left := by
  refine (Sitting.writes_move .advance).bind_silent (Sitting.writes_play.bind_silent ?_)
  show Writes Table.seat (if (play.advance.outcome = .inProgress && !play.advance.lacksTarget) = true
    then _ else _) _ _ _ _ _
  rw [openingText]
  split
  · exact (Sitting.writes_print _ here).then_silent (Sitting.writes_pure none)
  · exact Sitting.writes_pure none

theorem writes_guessRound_of_error {failure : Failure} {finish : Play × List UInt8}
    (here : left (play, input))
    (asks : Writes Table.seat Sitting.askGuess (play, input) asked (.error failure) finish left) :
    Writes Table.seat guessRound (play, input) (Utf8.encode (levelText play) ++ asked)
      (.error failure) finish left :=
  Sitting.writes_play.bind_silent ((Sitting.writes_print _ here).bind asks.bind_of_error)

theorem writes_guessRound_of_text {line : List UInt8} {others : List (List UInt8)} {text : String}
    (more : lines input = line :: others) (decoded : Utf8.decode? line = some text)
    (here : left (play, input))
    (judged : left (if Answer.isBlank text then play else play.guess text, others.flatten)) :
    Writes Table.seat guessRound (play, input)
      (Utf8.encode (levelText play) ++ (Utf8.encode prompt ++ Utf8.encode (judgingText play text)))
      (.ok none) (if Answer.isBlank text then play else play.guess text, others.flatten) left := by
  have asks := Sitting.writes_askGuess_of_cons more here
  rw [lineText, decoded] at asks
  refine Sitting.writes_play.bind_silent ((Sitting.writes_print _ here).bind (asks.bind ?_))
  dsimp only
  rw [isBlank_dropLineEnd, judgingText]
  by_cases blank : Answer.isBlank text = true
  · simp only [if_pos blank] at judged ⊢
    exact (Sitting.writes_print _ judged).then_silent (Sitting.writes_pure none)
  · simp only [if_neg blank, ← guess_dropLineEnd play text] at judged ⊢
    exact (Sitting.writes_move _).bind_silent
      ((Sitting.writes_print _ judged).then_silent (Sitting.writes_pure none))

theorem writes_playRound_of_levelWon (won : play.outcome = .levelWon)
    (here : left (play.advance, input)) :
    Writes Table.seat playRound (play, input) (Utf8.encode (openingText play.advance)) (.ok none)
      (play.advance, input) left := by
  refine Sitting.writes_play.bind_silent ?_
  simp only [won]
  exact writes_advanceRound here

/-- Where no guess is asked for, a last message is written. -/
theorem writes_playRound_of_stops (playable : play.game.playableLevels ≠ [])
    (settled : play.outcome ≠ .levelWon) (stops : Stops play) (here : left (play, input)) :
    Writes Table.seat playRound (play, input) (Utf8.encode (closingText play))
      (.ok (some play.outcome)) (play, input) left := by
  refine Sitting.writes_play.bind_silent ?_
  rw [closingText]
  cases outcome : play.outcome with
  | levelWon => exact absurd outcome settled
  | allLevelsWon | gameOver =>
      exact (Sitting.writes_print _ here).then_silent (Sitting.writes_pure _)
  | inProgress =>
      have lacks : play.lacksTarget = true := by
        rw [lacksTarget_iff]
        simpa [Stops, playable, outcome, Outcome.isTerminal] using stops
      simp only [lacks, if_true]
      exact (Sitting.writes_print _ here).then_silent (Sitting.writes_pure _)

theorem writes_playRound_of_not_stops {result : Except Failure (Option Outcome)}
    {finish : Play × List UInt8} {text : List UInt8} (settled : play.outcome ≠ .levelWon)
    (going : ¬Stops play)
    (asks : Writes Table.seat guessRound (play, input) text result finish left) :
    Writes Table.seat playRound (play, input) text result finish left := by
  rw [Stops, not_or, not_or] at going
  obtain ⟨-, unfinished, target⟩ := going
  refine Sitting.writes_play.bind_silent ?_
  cases outcome : play.outcome with
  | levelWon => exact absurd outcome settled
  | allLevelsWon | gameOver => exact absurd (by rw [outcome]; rfl) unfinished
  | inProgress =>
      have lacks : play.lacksTarget = false := by
        rw [Bool.eq_false_iff, Ne, lacksTarget_iff]
        exact fun h => target h.2
      simpa only [lacks, Bool.false_eq_true, if_false] using asks

end Rounds

/-- A condition on the moments at which a playthrough can be stopped, which passes from each
of them to the next: past a won level, and past a line and what it does to the play. -/
structure Kept (left : Play × List UInt8 → Prop) : Prop where
  settled {play : Play} {input : List UInt8} : left (play, input) → left (play.settled, input)
  judged {play : Play} {input line : List UInt8} {others : List (List UInt8)} {text : String} :
    left (play, input) → ¬Stops play.settled → lines input = line :: others →
    Utf8.decode? line = some text →
    left (if Answer.isBlank text then play.settled else play.settled.guess text, others.flatten)

section Playthrough

variable {left : Play × List UInt8 → Prop} {play : Play} {input : List UInt8}

/-- What happens behind a won level happens before it is moved past, too. -/
theorem writes_playOn_settled {result : Except Failure Outcome} {finish : Play × List UInt8}
    {text : String} (here : left (play.settled, input))
    (rest : Writes Table.seat playOn (play.settled, input) (Utf8.encode text) result finish left) :
    Writes Table.seat playOn (play, input) (Utf8.encode (settlingText play ++ text)) result finish
      left := by
  rw [settlingText, Utf8.encode_append]
  by_cases won : play.outcome = .levelWon
  · rw [Play.settled, if_pos won] at here rest
    rw [if_pos won]
    exact Sitting.writes_untilDone_of_none (writes_playRound_of_levelWon won here) rest
  · rw [Play.settled, if_neg won] at rest
    rw [if_neg won]
    exact rest

/-- Where a play stops, it ends at once, and leaves its lines. -/
theorem writes_playOn_of_stops (playable : play.game.playableLevels ≠ [])
    (here : left (play.settled, input)) (stops : Stops play.settled) :
    Writes Table.seat playOn (play, input) (Utf8.encode (transcript play (lines input)))
      (playLines play (lines input)).1
      ((playLines play (lines input)).2.1, (playLines play (lines input)).2.2.flatten) left := by
  have playable' : play.settled.game.playableLevels ≠ [] := by rwa [Play.settled_game]
  rw [playLines_of_stops stops, transcript_of_stops stops, flatten_lines]
  exact writes_playOn_settled here (Sitting.writes_untilDone_of_some
    (writes_playRound_of_stops playable' play.settled_outcome_ne stops here))

/-- A play goes on as by the lines of the input. -/
theorem writes_playOn (kept : Kept left) (playable : play.game.playableLevels ≠ [])
    (here : left (play, input)) :
    Writes Table.seat playOn (play, input) (Utf8.encode (transcript play (lines input)))
      (playLines play (lines input)).1
      ((playLines play (lines input)).2.1, (playLines play (lines input)).2.2.flatten) left := by
  induction ahead : lines input generalizing play input with
  | nil =>
      have settled := kept.settled here
      by_cases stops : Stops play.settled
      · rw [← ahead]
        exact writes_playOn_of_stops playable settled stops
      · have asked := Sitting.writes_askGuess_of_nil ahead settled
        obtain rfl := (lines_eq_nil_iff input).mp ahead
        have round := writes_guessRound_of_error settled asked
        rw [← Utf8.encode_append] at round
        rw [playLines, if_neg stops, transcript, if_neg stops]
        exact writes_playOn_settled settled (Sitting.writes_untilDone_of_error
          (writes_playRound_of_not_stops play.settled_outcome_ne stops round))
  | cons line others ih =>
      have settled := kept.settled here
      by_cases stops : Stops play.settled
      · rw [← ahead]
        exact writes_playOn_of_stops playable settled stops
      · cases decoded : Utf8.decode? line with
        | none =>
            have asked := Sitting.writes_askGuess_of_cons ahead settled
            rw [lineText, decoded] at asked
            have round := writes_guessRound_of_error settled asked
            rw [← Utf8.encode_append] at round
            simp only [playLines, transcript, if_neg stops, decoded, String.append_empty]
            exact writes_playOn_settled settled (Sitting.writes_untilDone_of_error
              (writes_playRound_of_not_stops play.settled_outcome_ne stops round))
        | some text =>
            -- the line is used up, and the rest of the play is that of the lines behind it
            have judged := kept.judged here stops ahead decoded
            have first := writes_playRound_of_not_stops play.settled_outcome_ne stops
              (writes_guessRound_of_text ahead decoded settled judged)
            have rest : lines others.flatten = others := (splitLine_of_lines ahead).2
            have playable' : (if Answer.isBlank text then play.settled
                else play.settled.guess text).game.playableLevels ≠ [] := by
              split <;> simpa using playable
            have both := Sitting.writes_untilDone_of_none first (ih playable' judged rest)
            simp only [← Utf8.encode_append, ← String.append_assoc] at both
            rw [playLines_of_text stops decoded, transcript_of_text stops decoded]
            exact writes_playOn_settled settled both

/-- A playthrough greets the player, if there is something to play, and goes on as by the
lines of the input. -/
theorem writes_playthrough {game : Game} (sound : Play.Sound game play) (kept : Kept left)
    (here : left (play, input)) :
    Writes Table.seat playthrough (play, input)
      (Utf8.encode (playthroughText play (lines input))) (playLines play (lines input)).1
      ((playLines play (lines input)).2.1, (playLines play (lines input)).2.2.flatten) left := by
  refine Sitting.writes_play.bind_silent ?_
  rw [playthroughText]
  by_cases playable : play.game.playableLevels = []
  · have levels : ¬play.game.hasPlayableLevels = true :=
      mt play.game.hasPlayableLevels_iff.mp (not_not_intro playable)
    rw [if_neg levels, if_neg levels, playLines_of_unplayable sound playable, flatten_lines]
    exact (Sitting.writes_print _ here).then_silent (Sitting.writes_pure _)
  · have levels := play.game.hasPlayableLevels_iff.mpr playable
    rw [if_pos levels, if_pos levels, Utf8.encode_append]
    exact (Sitting.writes_print _ here).bind (writes_playOn kept playable here)

end Playthrough

/-- A table whose console takes all output. -/
def unlimited (play : Play) (input written : List UInt8) : Table :=
  { play, console := { input, output := { written } } }

theorem kept_true : Kept fun _ => True := ⟨fun _ => trivial, fun _ _ _ _ => trivial⟩

/-- At a console that takes all output, a play goes on as by the lines of the input. -/
theorem playOn_unlimited (play : Play) (playable : play.game.playableLevels ≠ [])
    (input written : List UInt8) :
    ∃ after, playOn.run (unlimited play input written) =
      ((playLines play (lines input)).1, unlimited (playLines play (lines input)).2.1
        (playLines play (lines input)).2.2.flatten after) := by
  have here : (fun _ => True) (play, input) := trivial
  exact ⟨_, (writes_playOn kept_true playable here).run_of_fits { written } rfl⟩

/-- At a console that takes all output, a playthrough ends as by the lines of the input, and
the player is told what they lead to. -/
theorem playthrough_told {game : Game} {play : Play} (sound : Play.Sound game play)
    (input written : List UInt8) :
    playthrough.run (unlimited play input written) =
      ((playLines play (lines input)).1, unlimited (playLines play (lines input)).2.1
        (playLines play (lines input)).2.2.flatten
        (written ++ Utf8.encode (playthroughText play (lines input)))) := by
  have here : (fun _ => True) (play, input) := trivial
  exact (writes_playthrough sound kept_true here).run_of_fits { written } rfl

theorem playthrough_unlimited {game : Game} {play : Play} (sound : Play.Sound game play)
    (input written : List UInt8) :
    ∃ after, playthrough.run (unlimited play input written) =
      ((playLines play (lines input)).1, unlimited (playLines play (lines input)).2.1
        (playLines play (lines input)).2.2.flatten after) :=
  ⟨_, playthrough_told sound input written⟩

theorem run_print_unlimited {play : Play} {input written : List UInt8} (text : String) :
    (Sitting.print text).run (unlimited play input written) =
      (.ok (), unlimited play input (written ++ Utf8.encode text)) :=
  rfl

theorem playthrough_of_playable {play : Play} (playable : play.game.playableLevels ≠ [])
    (input written : List UInt8) :
    ∃ greeted, playthrough.run (unlimited play input written) =
      playOn.run (unlimited play input greeted) := by
  have levels : (unlimited play input written).play.game.hasPlayableLevels = true :=
    play.game.hasPlayableLevels_iff.mpr playable
  rw [playthrough, Sitting.run_play_bind, if_pos levels,
    Attempt.run_bind_of_ok (run_print_unlimited _)]
  exact ⟨_, rfl⟩

theorem playthrough_of_unplayable {play : Play} (unplayable : play.game.playableLevels = [])
    (input written : List UInt8) :
    ∃ after, playthrough.run (unlimited play input written) =
      (.ok play.outcome, unlimited play input after) := by
  have levels : ¬(unlimited play input written).play.game.hasPlayableLevels = true :=
    mt play.game.hasPlayableLevels_iff.mp (not_not_intro unplayable)
  rw [playthrough, Sitting.run_play_bind, if_neg levels,
    Attempt.run_bind_of_ok (run_print_unlimited _)]
  exact ⟨_, rfl⟩

/-- From any moment of a play, at a console that takes all output, a playthrough ends as by
the lines of the input, and leaves the last of them unread, in whole. The length of the
input bounds its rounds. -/
theorem playthrough_of_lines (game : Game) (moves : List Play.Move) (input written : List UInt8) :
    let play := Play.ofMoves game moves
    let result := playthrough.run (unlimited play input written)
    let expected := playLines play (lines input)
    result.1 = expected.1 ∧ result.2.play = expected.2.1 ∧
      result.2.console.input = expected.2.2.flatten ∧ expected.2.2 <:+ lines input ∧
      (game.playableLevels ≠ [] → ∃ greeted rounds, rounds ≤ 2 * input.length + 2 ∧
        playRound.EndsIn rounds (unlimited play input greeted) result) := by
  intro play result expected
  have sound : Play.Sound game play := Play.sound_ofMoves game moves
  by_cases unplayable : game.playableLevels = []
  · -- nothing can be played, and the play was over from the start
    have ended : play.settled = play := if_neg (by simp [sound.outcome_of_unplayable unplayable])
    have stops : Stops play.settled := by
      rw [ended]
      exact .inl (by rw [sound.game_eq, unplayable])
    have expects : expected = _ := playLines_of_stops stops (lines input)
    obtain ⟨after, ends⟩ :=
      playthrough_of_unplayable (by rw [sound.game_eq, unplayable]) input written
    rw [expects, ended, flatten_lines]
    refine ⟨congrArg (·.1) ends, congrArg (·.2.play) ends, congrArg (·.2.console.input) ends,
      List.suffix_refl _, ?_⟩
    intro playable
    exact absurd unplayable playable
  · have playable : play.game.playableLevels ≠ [] := by rwa [sound.game_eq]
    obtain ⟨greeted, starts⟩ := playthrough_of_playable playable input written
    obtain ⟨after, ends⟩ := playOn_unlimited play playable input greeted
    have whole : result = _ := starts.trans ends
    refine ⟨congrArg (·.1) whole, congrArg (·.2.play) whole,
      congrArg (·.2.console.input) whole, playLines_isSuffix play _, ?_⟩
    intro _
    obtain ⟨rounds, bound, rounds_end⟩ :=
      Sitting.untilDone_endsIn playRound_progresses (unlimited play input greeted)
    refine ⟨greeted, rounds, Nat.le_trans bound ?_, ?_⟩
    · rw [Table.effort]
      show 2 * input.length + _ + 1 ≤ _
      split <;> omega
    · rw [show result = _ from starts]
      exact rounds_end

end GuessingGame.Console
