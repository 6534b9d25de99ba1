import Mathlib.Control.Monad.Basic
import GuessingGame.Proofs.App.Invariant
import GuessingGame.Proofs.Console.PlayLines
import GuessingGame.Proofs.Play.Winning

/-!
# Where a guess is asked for

Neither the console nor the screen takes a blank guess, so a level may be such that nothing
they take can win it. They ask for no guess where the answer is missing or empty. That is
every such level but one kind: an answer of blanks is neither missing nor empty, and no guess
that is not blank hits it. There the player is asked, and cannot win.
-/

namespace GuessingGame

open Console (playRound guessRound unlimited)
open GuessingGame.Text

/-- The level in play has an answer, and it is made of blanks. -/
def Play.BlankTarget (play : Play) : Prop :=
  play.target ≠ "" ∧ Answer.isBlank play.target = true

namespace Play

/-- Nothing was done to a play, or one guess was made that is not blank. -/
def Tried (play after : Play) : Prop :=
  after = play ∨ ∃ text, Answer.isBlank text = false ∧ after = play.guess text

variable {play : Play}

/-- A level in play lacks its answer if it cannot be won and has not one of blanks. -/
theorem lacksTarget_iff_unwinnable (going : play.outcome = .inProgress) :
    play.lacksTarget = true ↔ play.Unwinnable ∧ ¬play.BlankTarget := by
  rw [unwinnable_iff going, BlankTarget, lacksTarget]
  simp only [going, decide_true, Bool.true_and, decide_eq_true_eq]
  constructor
  · intro empty
    exact ⟨by rw [empty]; rfl, fun other => other.1 empty⟩
  · rintro ⟨blank, other⟩
    exact Decidable.not_not.mp fun ne => other ⟨ne, blank⟩

/-- Where the answer is made of blanks the level cannot be won, and lacks nothing. -/
theorem BlankTarget.unwinnable (h : play.BlankTarget) (going : play.outcome = .inProgress) :
    play.Unwinnable ∧ play.lacksTarget = false := by
  refine ⟨(unwinnable_iff going).mpr h.2, ?_⟩
  rw [lacksTarget, decide_eq_false h.1, Bool.and_false]

end Play

namespace Console

/-- A talk leaves the play where it stood, so what holds behind it decides. -/
theorem Sitting.run_talk_bind_play {α β : Type} {act : Talk α} {next : α → Sitting β}
    {holds : Play → Prop} {table : Table} (here : holds table.play)
    (rest : ∀ a after, after.play = table.play → holds ((next a).run after).2.play) :
    holds ((Sitting.talk act >>= next).run table).2.play := by
  rcases run : (Sitting.talk act).run table with ⟨failure | a, after⟩
  · rw [Attempt.run_bind_of_error run]
    rwa [show after.play = table.play from congrArg (·.2.play) run.symm]
  · rw [Attempt.run_bind_of_ok run]
    exact rest a after (congrArg (·.2.play) run.symm)

/-- A table at which nothing but a text was written. -/
def Table.shown (table : Table) (text : String) : Table :=
  { table with console :=
    { table.console with output := table.console.output.append (Utf8.encode text) } }

/-- Where the answer is missing or empty, the player is told so and nothing is read. -/
theorem playRound_of_lacksTarget {table : Table} (lacks : table.play.lacksTarget = true) :
    (playRound.run table).2 = table.shown noTargetLoaded := by
  obtain ⟨going, -⟩ := (lacksTarget_iff table.play).mp lacks
  simp only [playRound, Sitting.run_play_bind, going, lacks, if_true]
  rcases shown : (Sitting.print noTargetLoaded).run table with ⟨failure | _, after⟩
  · rw [Attempt.run_bind_of_error shown]
    exact congrArg Prod.snd shown.symm
  · rw [Attempt.run_bind_of_ok shown]
    exact congrArg Prod.snd shown.symm

/-- What a round does to a play in progress is a guess that is not blank, or nothing. -/
theorem playRound_tried {table : Table} (going : table.play.outcome = .inProgress) :
    table.play.Tried (playRound.run table).2.play := by
  cases lacks : table.play.lacksTarget with
  | true => exact .inl (congrArg Table.play (playRound_of_lacksTarget lacks) :)
  | false =>
      simp only [playRound, Sitting.run_play_bind, going, lacks, Bool.false_eq_true, if_false,
        guessRound]
      refine Sitting.run_talk_bind_play (.inl rfl) fun _ shown same => ?_
      refine Sitting.run_talk_bind_play (.inl same) fun guess asked same' => ?_
      have here : asked.play = table.play := same'.trans same
      split
      · exact Sitting.run_talk_bind_play (.inl here) fun _ _ told => .inl (told.trans here)
      · rename_i written
        rw [Sitting.run_move_bind]
        have tried : table.play.Tried (asked.play.guess guess) :=
          .inr ⟨guess, by simpa using written, by rw [here]⟩
        refine Sitting.run_talk_bind_play tried fun _ last told => ?_
        show table.play.Tried last.play
        rwa [show last.play = asked.play.guess guess from told]

end Console

namespace App

/-- To submit makes a guess that is not blank, if any, and moves past a won level. -/
theorem submit_tried {app : App} {play : Play} (playing : app.play = some play)
    (going : play.outcome = .inProgress) :
    ∃ after, play.Tried after ∧ app.submit.play = some after.settled := by
  have still : play.settled = play := if_neg (by simp [going])
  have submitted := app.submitted
  generalize app.submit = done at submitted ⊢
  cases submitted with
  | unplayed missing => cases playing.symm.trans missing
  | ended _ _ | unanswered _ _ _ | blank _ _ _ _ =>
      refine ⟨play, .inl rfl, ?_⟩
      rw [still]
      exact playing
  | guessed same _ _ more =>
      cases playing.symm.trans same
      obtain ⟨feedback, events, guessed, -⟩ :=
        guess_eq { app with input := [] } play (String.ofList app.input)
      rw [guessed]
      exact ⟨_, .inr ⟨_, more, rfl⟩, rfl⟩

/-- The screen takes what is typed where the level in play has an answer. -/
theorem accepting_iff_lacksTarget {app : App} {play : Play} (playing : app.play = some play)
    (going : play.outcome = .inProgress) :
    app.accepting = true ↔ play.lacksTarget = false := by
  simp [accepting, playing, going]

/-- A level in play counts as one without an answer if no guess can win it that is not blank,
unless its answer is made of blanks; such an answer cannot be hit, and does not count as
missing. No guess is made that is blank, neither at the console nor on the screen. So where no
guess that is made can win and the answer is not made of blanks, the console only says that
there is none, and the screen takes nothing that is typed. All this holds of every play in
progress, whatever moves led to it. -/
theorem prompts_of_play (play : Play) (going : play.outcome = .inProgress) :
    (play.lacksTarget = true ↔ play.Unwinnable ∧ ¬play.BlankTarget) ∧
      (play.BlankTarget → play.Unwinnable ∧ play.lacksTarget = false) ∧
      (∀ table : Console.Table, table.play = play →
        play.Tried (playRound.run table).2.play ∧
          (play.Unwinnable → ¬play.BlankTarget →
            (playRound.run table).2 = table.shown Console.noTargetLoaded)) ∧
      ∀ app : App, app.play = some play →
        (∃ after, play.Tried after ∧ app.submit.play = some after.settled) ∧
          (app.accepting = true ↔ ¬(play.Unwinnable ∧ ¬play.BlankTarget)) := by
  refine ⟨Play.lacksTarget_iff_unwinnable going, fun blank => blank.unwinnable going, ?_, ?_⟩
  · rintro table rfl
    refine ⟨Console.playRound_tried going, fun unwinnable written => ?_⟩
    exact Console.playRound_of_lacksTarget
      ((Play.lacksTarget_iff_unwinnable going).mpr ⟨unwinnable, written⟩)
  · intro app playing
    refine ⟨submit_tried playing going, ?_⟩
    rw [accepting_iff_lacksTarget playing going, ← Play.lacksTarget_iff_unwinnable going,
      Bool.not_eq_true]

/-- A level without an answer cannot be won, and the console does not ask for a guess. -/
theorem prompts_of_play_missing :
    let play := Play.start { levels := [{ number := 1 }] }
    let table := unlimited play [] []
    play.outcome = .inProgress ∧ play.lacksTarget = true ∧ play.Unwinnable ∧ ¬play.BlankTarget ∧
      (playRound.run table).2 = table.shown Console.noTargetLoaded := by
  intro play table
  have lacks : play.lacksTarget = true := by decide
  obtain ⟨flagged, -, console, -⟩ := prompts_of_play play (by decide)
  obtain ⟨unwinnable, written⟩ := flagged.mp lacks
  exact ⟨by decide, lacks, unwinnable, written, (console table rfl).2 unwinnable written⟩

/-- A level whose answer is one blank does not count as one without an answer. Yet no guess wins
it that is not blank, and the console and the screen ask for one. -/
theorem blankTarget_unflagged :
    let text := "LEVEL 1; TARGET \" \";"
    let game : Game := { levels := [{ number := 1, target := some " " }] }
    let play := Play.ofMoves game []
    let app := start (fun _ => .error .missing) {} (.inline text)
    Script.readGame text = .ok game ∧ play.outcome = .inProgress ∧
      ¬(play.lacksTarget = true ↔ play.Unwinnable) ∧
      (playRound.run (unlimited play [] [])).1 = .error .inputClosed ∧
      app.play = some play ∧ app.accepting = true := by
  intro text game play app
  have unwinnable : play.Unwinnable := (Play.unwinnable_iff (by decide)).mpr (by decide)
  have unflagged : play.lacksTarget = false := by decide
  refine ⟨by decide +kernel, by decide, ?_, by decide +kernel, by decide +kernel, by decide +kernel⟩
  rw [unflagged]
  exact fun same => Bool.false_ne_true (same.mpr unwinnable)

end App

end GuessingGame
