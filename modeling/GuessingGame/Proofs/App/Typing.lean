import Mathlib.Control.Monad.Basic
import GuessingGame.Proofs.App.Invariant
import GuessingGame.Proofs.Console.PlayLines

/-!
# One game on the screen and at the console

A guess can be typed on the screen, character by character, or sent to the console as a
line. The two go about it differently. The screen takes no character where no guess can be
made, moves past a won level in the same breath, and never stops; the console moves past a
won level before it asks again, drops the end of the line, and stops at the end of the
game.

Both come to the same recursion on the texts: `Play.offered`, by which a text counts where
a guess is asked for and is ignored everywhere else. The screen follows it text by text,
with the line of input empty in between (`App.Showing.typed`); so do the lines of the
console (`Console.playLines_typed`). Hence the two plays are equal: `App.play_of_typed`.
-/

namespace GuessingGame

open Console (Stops playLines playthrough typedLine unlimited)

/-- The play after a text was offered. It is a guess if one is asked for and it is not
blank. -/
def Play.offered (play : Play) (text : String) : Play :=
  if Stops play ∨ Answer.isBlank text = true then play else play.turn text

theorem Play.foldl_offered_of_stops {play : Play} (stops : Stops play) (texts : List String) :
    texts.foldl offered play = play := by
  induction texts with
  | nil => rfl
  | cons text texts ih => rw [List.foldl_cons, offered, if_pos (.inl stops), ih]

namespace Console

open GuessingGame.Text

theorem isBlank_newline (text : String) :
    Answer.isBlank (text ++ "\n") = Answer.isBlank text := by
  rw [← isBlank_dropLineEnd, dropLineEnd_newline, isBlank_dropLineEnd]

theorem guess_newline (play : Play) (text : String) :
    play.guess (text ++ "\n") = play.guess text := by
  rw [← guess_dropLineEnd, dropLineEnd_newline, guess_dropLineEnd]

/-- Lines that were typed lead to the play in which their texts were offered, and nothing
but their end can keep the play from its own. -/
theorem playLines_typed (play : Play) (texts : List String) :
    let result := playLines play (texts.map typedLine)
    result.2.1 = texts.foldl Play.offered play.settled ∧
      (result.1 = .ok result.2.1.outcome ∨ result.1 = .error .inputClosed) := by
  intro result
  induction texts generalizing play with
  | nil =>
      by_cases stops : Stops play.settled
      · simp [result, playLines, stops]
      · simp [result, playLines, stops]
  | cons text texts ih =>
      have still : play.settled.settled = play.settled := by
        rw [Play.settled_eq play.settled, Play.advance_of_ne play.settled_outcome_ne]
      by_cases stops : Stops play.settled
      · rw [Play.foldl_offered_of_stops stops]
        simp only [result, playLines_of_stops stops]
        exact ⟨trivial, .inl trivial⟩
      · have read : Utf8.decode? (typedLine text) = some (text ++ "\n") := Utf8.decode?_encode _
        simp only [result, List.map_cons, playLines, if_neg stops, read, isBlank_newline,
          guess_newline]
        rw [List.foldl_cons, Play.offered]
        by_cases blank : Answer.isBlank text = true
        · have others := ih play.settled
          rw [still] at others
          simpa [blank] using others
        · simpa [blank, stops, Play.turn] using ih (play.settled.guess text)

end Console

namespace App

def keysOf (text : String) : List Key := text.toList.map .char ++ [.enter]

/-- The state after some keys, none of them with the control key held. -/
def pressAll (files : Files) (app : App) (keys : List Key) : App :=
  keys.foldl (fun app key => app.press files false key) app

theorem pressAll_append (files : Files) (app : App) (first second : List Key) :
    app.pressAll files (first ++ second) = (app.pressAll files first).pressAll files second :=
  List.foldl_append

@[simp] theorem accepting_input (app : App) (input : List Char) :
    accepting { app with input } = app.accepting := rfl

/-- Characters are typed where a guess can be made, and lost elsewhere. -/
theorem pressAll_chars (files : Files) {app : App} (hidden : app.help.visible = false)
    (cs : List Char) : app.pressAll files (cs.map .char) =
      if app.accepting then { app with input := app.input ++ cs } else app := by
  induction cs generalizing app with
  | nil => simp [pressAll]
  | cons c cs ih =>
      have pressed : app.press files false (.char c) =
          if app.accepting then { app with input := app.input ++ [c] } else app := by
        simp [press, Key.action?, hidden, act]
      rw [List.map_cons, pressAll, List.foldl_cons, pressed]
      by_cases takes : app.accepting = true
      · rw [if_pos takes, if_pos takes]
        have others := @ih { app with input := app.input ++ [c] } hidden
        rw [accepting_input, if_pos takes, List.append_assoc] at others
        exact others
      · rw [if_neg takes, if_neg takes]
        have others := ih hidden
        rw [if_neg takes] at others
        exact others

/-- A text that was typed and submitted. -/
theorem pressAll_keysOf (files : Files) {app : App} (hidden : app.help.visible = false)
    (text : String) : app.pressAll files (keysOf text) =
      (if app.accepting then { app with input := app.input ++ text.toList } else app).submit := by
  have enter {typed : App} (hidden : typed.help.visible = false) :
      typed.pressAll files [.enter] = typed.submit := by
    simp [pressAll, press, Key.action?, hidden, act]
  rw [keysOf, pressAll_append, pressAll_chars files hidden]
  split
  · exact enter hidden
  · exact enter hidden

/-- A play that is shown between two guesses. -/
structure Showing (app : App) (play : Play) : Prop where
  playing : app.play = some play
  hidden : app.help.visible = false
  input_eq : app.input = []
  settled : play.outcome ≠ .levelWon
  playable : play.game.playableLevels ≠ []

namespace Showing

variable {app : App} {play : Play}

/-- The screen takes a guess where the console asks for one. -/
theorem accepting_iff (h : Showing app play) : app.accepting = true ↔ ¬Stops play := by
  have settled := h.settled
  rw [accepting, h.playing, Stops]
  cases outcome : play.outcome with
  | levelWon => exact absurd outcome settled
  | allLevelsWon | gameOver => simp [outcome, Outcome.isTerminal]
  | inProgress =>
      simp only [outcome, h.playable, Outcome.isTerminal, decide_true, Bool.true_and,
        Bool.not_eq_true', Bool.false_eq_true, false_or]
      rw [← Bool.not_eq_true, Console.lacksTarget_iff, and_iff_right outcome]

/-- To submit nothing changes nothing that is played. -/
theorem submit (h : Showing app play) : Showing app.submit play := by
  have submitted := app.submitted
  generalize app.submit = after at submitted ⊢
  cases submitted with
  | unplayed missing => cases h.playing.symm.trans missing
  | ended playing terminal => exact ⟨h.playing, h.hidden, h.input_eq, h.settled, h.playable⟩
  | unanswered playing going lacks => exact ⟨h.playing, h.hidden, rfl, h.settled, h.playable⟩
  | blank playing going lacks blank => exact ⟨h.playing, h.hidden, rfl, h.settled, h.playable⟩
  | guessed playing going lacks more =>
      rw [h.input_eq] at more
      cases more

/-- What is submitted where a guess is asked for is offered. -/
theorem submit_of_accepting (h : Showing app play) (takes : app.accepting = true)
    (text : String) : Showing (App.submit { app with input := text.toList }) (play.offered text) := by
  have playing := h.playing
  have goes := takes
  rw [accepting, playing] at goes
  simp only [Bool.and_eq_true, decide_eq_true_eq, Bool.not_eq_true'] at goes
  have submitted := submitted { app with input := text.toList }
  generalize App.submit { app with input := text.toList } = after at submitted ⊢
  have typed : String.ofList text.toList = text := String.ofList_toList
  cases submitted with
  | unplayed missing => cases playing.symm.trans missing
  | ended same terminal =>
      cases playing.symm.trans same
      rw [goes.1] at terminal
      cases terminal
  | unanswered same going lacks =>
      cases playing.symm.trans same
      cases goes.2.symm.trans lacks
  | blank same going lacks blank =>
      rw [typed] at blank
      rw [Play.offered, if_pos (.inr blank)]
      exact ⟨playing, h.hidden, rfl, h.settled, h.playable⟩
  | @guessed same isSame going lacks more =>
      cases playing.symm.trans isSame
      obtain ⟨feedback, events, guessed, -⟩ :=
        guess_eq { app with input := [] } play (String.ofList text.toList)
      simp only [guessed]
      rw [typed] at more ⊢
      have counts : ¬(Stops play ∨ Answer.isBlank text = true) := by
        simp [more, h.accepting_iff.mp takes]
      rw [Play.offered, if_neg counts]
      refine ⟨rfl, h.hidden, rfl, play.turn_outcome_ne text, ?_⟩
      rw [Play.turn_game]
      exact h.playable

/-- What the screen shows after a text was typed is the play in which it was offered. -/
theorem typed (h : Showing app play) (files : Files) (text : String) :
    Showing (app.pressAll files (keysOf text)) (play.offered text) := by
  rw [pressAll_keysOf files h.hidden]
  by_cases takes : app.accepting = true
  · rw [if_pos takes, h.input_eq]
    exact h.submit_of_accepting takes text
  · have stops : Stops play := Decidable.not_not.mp (mt h.accepting_iff.mpr takes)
    rw [if_neg takes, Play.offered, if_pos (.inl stops)]
    exact h.submit

theorem foldl_typed (h : Showing app play) (files : Files) (texts : List String) :
    Showing (app.pressAll files (texts.flatMap keysOf)) (texts.foldl Play.offered play) := by
  induction texts generalizing app play with
  | nil => exact h
  | cons text texts ih =>
      rw [List.flatMap_cons, pressAll_append, List.foldl_cons]
      exact ih (h.typed files text)

end Showing

theorem showing_start (files : Files) (settings : Settings) {text : String} {game : Game}
    (accepted : Script.readGame text = .ok game) (playable : game.hasPlayableLevels = true) :
    Showing (start files settings (.inline text)) (Play.start game) := by
  have levels : game.playableLevels ≠ [] := game.hasPlayableLevels_iff.mp playable
  have loading : (Source.inline text).loading files = .playable game := by
    rw [Source.loading, Source.game, accepted]
    exact if_pos playable
  rw [start, reload_eq, loading]
  refine ⟨rfl, rfl, rfl, ?_, levels⟩
  simp [Play.start, levels]

/-- Guesses that are typed on the screen lead to the same play as the same guesses sent to
a console that takes all output. The console is done when the game is, or finds its input
at an end. -/
theorem play_of_typed (files : Files) (settings : Settings) {text : String} {game : Game}
    (accepted : Script.readGame text = .ok game) (playable : game.hasPlayableLevels = true)
    {guesses : List String} (single : ∀ guess ∈ guesses, '\n' ∉ guess.toList)
    (written : List UInt8) :
    let app := (start files settings (.inline text)).pressAll files (guesses.flatMap keysOf)
    let result := playthrough.run
      (unlimited (Play.start game) (guesses.flatMap typedLine) written)
    app.play = some result.2.play ∧
      (result.1 = .ok result.2.play.outcome ∨ result.1 = .error .inputClosed) := by
  intro app result
  have levels : (Play.start game).game.playableLevels ≠ [] :=
    game.hasPlayableLevels_iff.mp playable
  have shown : Showing app (guesses.foldl Play.offered (Play.start game)) :=
    (showing_start files settings accepted playable).foldl_typed files guesses
  -- a play that begins has no won level to move past
  have begins : (Play.start game).settled = Play.start game := by
    rw [Play.settled_eq, Play.advance_of_ne (showing_start files settings accepted playable).settled]
  obtain ⟨greeted, starts⟩ :=
    Console.playthrough_of_playable levels (guesses.flatMap typedLine) written
  obtain ⟨after, ends⟩ :=
    Console.playOn_unlimited (Play.start game) levels (guesses.flatMap typedLine) greeted
  have whole : result = _ := starts.trans ends
  have lines := Console.playLines_typed (Play.start game) guesses
  rw [begins, ← Console.lines_typed single] at lines
  rw [whole, shown.playing]
  exact ⟨congrArg some lines.1.symm, lines.2⟩

/-- Three lines at a game of two lives: nothing, a miss, and a hit with blanks behind it. -/
theorem play_of_typed_peru :
    let files : Files := fun _ => .error .missing
    let text := "MAX_LIVES 2; TARGET \"PERU\";"
    let game : Game := { maxLives := 2, looseTarget := some "PERU" }
    let guesses := ["", "chile", "Peru \r"]
    Script.readGame text = .ok game ∧ game.hasPlayableLevels = true ∧
      (∀ guess ∈ guesses, '\n' ∉ guess.toList) ∧
      ((start files {} (.inline text)).pressAll files (guesses.flatMap keysOf)).play =
        some (playthrough.run
          (unlimited (Play.start game) (guesses.flatMap typedLine) [])).2.play := by
  intro files text game guesses
  have accepted : Script.readGame text = .ok game := by decide +kernel
  have playable : game.hasPlayableLevels = true := rfl
  have single : ∀ guess ∈ guesses, '\n' ∉ guess.toList := by decide
  exact ⟨accepted, playable, single, (play_of_typed files {} accepted playable single []).1⟩

end App

end GuessingGame
