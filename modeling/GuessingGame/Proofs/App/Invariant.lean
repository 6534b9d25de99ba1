import GuessingGame.App.Draw
import GuessingGame.Proofs.App.EventHistory
import GuessingGame.Proofs.Play.Blocks

/-!
# What the full-screen game keeps

The state behind the screen is reached from its start by actions, by loading the script
again and by being drawn. Whatever can be read from the files may change from one time to
the next, so each of these brings its own files.

Two of them do more than touch a field. A loading sets the play and all that is said about
it together, as a function of the source and the files: `reload_eq`. A guess replaces the
play by one that was moved past a won level: `guess_eq`. With these, what every moment
keeps is checked field by field: `App.Coherent`.
-/

namespace GuessingGame.App

/-- What a loading of the script sets. -/
structure Loading where
  play : Option Play
  title : String
  load : LoadStatus
  feedback : Feedback
  event : Event

namespace Loading

def failed (message : String) : Loading where
  play := none
  title := defaultTitle
  load := .failed message
  feedback := ⟨.error, message⟩
  event := ⟨.error, message⟩

def unplayable (game : Game) : Loading where
  play := none
  title := game.displayTitle
  load := .noLevels
  feedback := noTarget
  event := ⟨.information, "Loaded program without levels"⟩

def playable (game : Game) : Loading where
  play := some (Play.start game)
  title := game.displayTitle
  load := .loaded (Play.start game).levels.length
  feedback := if (Play.start game).lacksTarget then noTarget else welcome
  event := ⟨.information, "Loaded '" ++ game.displayTitle ++ "' with " ++
    toString (Play.start game).levels.length ++ " level(s)"⟩

end Loading

/-- What a loading of the script sets, given what can be read. -/
def Source.loading (files : Files) (source : Source) : Loading :=
  match source.game files with
  | .error message => .failed message
  | .ok game => if game.hasPlayableLevels then .playable game else .unplayable game

/-- The state after a loading that came to something. -/
def adopt (app : App) (loading : Loading) : App :=
  { app with
    play := loading.play
    title := loading.title
    input := []
    feedback := loading.feedback
    events := app.events.push loading.event
    status := { app.status with load := loading.load } }

/-- A loading depends on the source and the files alone. -/
theorem reload_eq (files : Files) (app : App) :
    app.reload files = app.adopt (app.source.loading files) := by
  unfold reload Source.loading
  dsimp only
  cases app.source.game files with
  | error message => rfl
  | ok game =>
      by_cases levels : game.hasPlayableLevels = true
      · simp only [loaded, if_pos levels]
        rfl
      · simp only [loaded, if_neg levels]
        rfl

/-- A guess makes a turn, says something, and tells the log of a lost game. -/
theorem guess_eq (app : App) (play : Play) (text : String) :
    ∃ feedback events, app.guess play text =
        { app with play := some (play.turn text), feedback, events } ∧
      (events = app.events ∨ ∃ message, events = app.events.inform message) := by
  unfold guess Play.turn
  rw [Play.settled_eq]
  by_cases won : (play.guess text).outcome = .levelWon
  · simp only [won]
    exact ⟨_, _, rfl, .inl rfl⟩
  · rw [Play.advance_of_ne won]
    cases outcome : (play.guess text).outcome with
    | levelWon => exact absurd outcome won
    | inProgress | allLevelsWon =>
        simp only [outcome]
        exact ⟨_, _, rfl, .inl rfl⟩
    | gameOver =>
        simp only [outcome]
        exact ⟨_, _, rfl, .inr ⟨_, rfl⟩⟩

/-- What to submit the typed text comes to. -/
inductive Submitted (app : App) : App → Prop
  /-- There is no play. -/
  | unplayed (missing : app.play = none) : Submitted app { app with feedback := noTarget }
  /-- The game has ended. What was typed stays. -/
  | ended {play : Play} (playing : app.play = some play) (terminal : play.outcome.isTerminal = true) :
      Submitted app { app with feedback := if play.outcome = .gameOver then lost else allWon }
  /-- The level in play has no answer. -/
  | unanswered {play : Play} (playing : app.play = some play)
      (going : play.outcome.isTerminal = false) (lacks : play.lacksTarget = true) :
      Submitted app { app with input := [], feedback := noTarget }
  /-- The text is no guess. -/
  | blank {play : Play} (playing : app.play = some play)
      (going : play.outcome.isTerminal = false) (lacks : play.lacksTarget = false)
      (blank : Answer.isBlank (String.ofList app.input) = true) :
      Submitted app { app with input := [], feedback := noGuess }
  /-- The text is a guess. -/
  | guessed {play : Play} (playing : app.play = some play)
      (going : play.outcome.isTerminal = false) (lacks : play.lacksTarget = false)
      (more : Answer.isBlank (String.ofList app.input) = false) :
      Submitted app (guess { app with input := [] } play (String.ofList app.input))

theorem submitted (app : App) : app.Submitted app.submit := by
  unfold submit
  split
  · rename_i missing
    exact .unplayed missing
  · rename_i play playing
    split
    · rename_i outcome
      simpa [outcome] using Submitted.ended playing (by rw [outcome]; rfl)
    · rename_i outcome
      simpa [outcome] using Submitted.ended playing (by rw [outcome]; rfl)
    all_goals
      rename_i outcome
      have going : play.outcome.isTerminal = false := by rw [outcome]; rfl
      dsimp only
      split
      · rename_i lacks
        exact .unanswered playing going lacks
      · rename_i answered
        split
        · rename_i blank
          exact .blank playing going (by simpa using answered) blank
        · rename_i more
          exact .guessed playing going (by simpa using answered) (by simpa using more)

/-- What can happen to the full-screen game, with what can be read from the files then. -/
inductive Happening where
  | action (files : Files) (action : Action)
  | reload (files : Files)
  | drawing (width height : Nat)

def after (app : App) : Happening → App
  | .action files action => app.act files action
  | .reload files => app.reload files
  | .drawing width height => app.drawn width height

/-- The state after some happenings. -/
def ofHappenings (files : Files) (settings : Settings) (source : Source)
    (happenings : List Happening) : App :=
  happenings.foldl after (start files settings source)

/-- Whether a log of the usual size holds something. -/
structure EventLog.Filled (log : EventLog) : Prop where
  capacity_eq : log.capacity = 50
  events_ne_nil : log.events ≠ []
  length_le : log.events.length ≤ 50

theorem EventLog.filled_push {log : EventLog} (room : log.capacity = 50)
    (fits : log.events.length ≤ 50) (event : Event) : (log.push event).Filled := by
  have held : (log.push event).events = newest 50 (log.events ++ [event]) := by
    rw [push_events (room.symm ▸ fits), room]
  have length : (log.push event).events.length = min 50 (log.events.length + 1) := by
    rw [held, length_newest, List.length_append, List.length_singleton]
  refine ⟨(push_capacity log event).trans room, ?_, by omega⟩
  apply List.ne_nil_of_length_pos
  omega

theorem EventLog.Filled.push {log : EventLog} (filled : log.Filled) (event : Event) :
    (log.push event).Filled :=
  filled_push filled.capacity_eq filled.length_le event

/-- What the status line tells of a play: how many levels it has, or why there is none. -/
def LoadStatus.Tells (load : LoadStatus) : Option Play → Prop
  | some play => load = .loaded play.levels.length ∧ 1 ≤ play.levels.length
  | none => load = .noLevels ∨ ∃ message, load = .failed message

/-- What holds at every moment of the full-screen game. -/
structure Coherent (app : App) : Prop where
  tells : app.status.load.Tells app.play
  settled : ∀ play ∈ app.play, play.outcome ≠ .levelWon
  accepting_of_input : app.input ≠ [] → app.accepting = true
  title_of_play : ∀ play ∈ app.play, app.title = play.game.displayTitle
  title_of_failed : ∀ message, app.status.load = .failed message → app.title = defaultTitle
  mood_of_none : app.play = none → app.feedback.mood = .error
  theme_eq : app.status.theme = app.theme.name
  filled : app.events.Filled

/-- A loading leaves nothing of what was there before but the theme and the log. -/
theorem coherent_reload {app : App} (theme : app.status.theme = app.theme.name)
    (room : app.events.capacity = 50) (fits : app.events.events.length ≤ 50) (files : Files) :
    Coherent (app.reload files) := by
  rw [reload_eq, Source.loading]
  have filled (event : Event) := EventLog.filled_push room fits event
  cases app.source.game files with
  | error message =>
      exact ⟨.inr ⟨message, rfl⟩, by simp [adopt, Loading.failed], by simp [adopt],
        by simp [adopt, Loading.failed], fun _ _ => rfl, fun _ => rfl, theme, filled _⟩
  | ok game =>
      by_cases levels : game.hasPlayableLevels = true
      · have playable := game.hasPlayableLevels_iff.mp levels
        simp only [levels, if_true]
        refine ⟨⟨rfl, List.length_pos_iff.mpr playable⟩, ?_, by simp [adopt], ?_, ?_, ?_, theme,
          filled _⟩
        · rintro play ⟨⟩
          simp [Play.start, playable]
        · rintro play ⟨⟩
          rfl
        · rintro message ⟨⟩
        · rintro ⟨⟩
      · simp only [levels]
        exact ⟨.inl rfl, by simp [adopt, Loading.unplayable], by simp [adopt],
          by simp [adopt, Loading.unplayable], by simp [adopt, Loading.unplayable], fun _ => rfl,
          theme, filled _⟩

namespace Coherent

variable {app : App}

/-- The overlays and the wish to leave play no part in it. -/
theorem overlay (h : Coherent app) (help : Help) (eventsVisible quitting : Bool)
    (helpHeight : Nat) : Coherent { app with help, eventsVisible, quitting, helpHeight } :=
  ⟨h.tells, h.settled, h.accepting_of_input, h.title_of_play, h.title_of_failed, h.mood_of_none,
    h.theme_eq, h.filled⟩

/-- What is typed may change where a guess can be made, and may always be cleared. -/
theorem typed (h : Coherent app) {input : List Char}
    (accepting : input ≠ [] → app.accepting = true) : Coherent { app with input } :=
  ⟨h.tells, h.settled, accepting, h.title_of_play, h.title_of_failed, h.mood_of_none, h.theme_eq,
    h.filled⟩

theorem cleared (h : Coherent app) : Coherent { app with input := [] } :=
  h.typed fun typed => absurd rfl typed

/-- The player may be told anything while there is a play, and of an error otherwise. -/
theorem told (h : Coherent app) {feedback : Feedback}
    (mood : app.play = none → feedback.mood = .error) : Coherent { app with feedback } :=
  ⟨h.tells, h.settled, h.accepting_of_input, h.title_of_play, h.title_of_failed, mood, h.theme_eq,
    h.filled⟩

theorem logged (h : Coherent app) (event : Event) :
    Coherent { app with events := app.events.push event } :=
  ⟨h.tells, h.settled, h.accepting_of_input, h.title_of_play, h.title_of_failed, h.mood_of_none,
    h.theme_eq, h.filled.push event⟩

theorem guess (h : Coherent app) {play : Play} (playing : app.play = some play) (text : String) :
    Coherent (App.guess { app with input := [] } play text) := by
  obtain ⟨feedback, events, guessed, log⟩ := guess_eq { app with input := [] } play text
  have tells := h.tells
  have title := h.title_of_play play playing
  rw [playing] at tells
  rw [guessed]
  refine ⟨?_, ?_, by simp, ?_, h.title_of_failed, by simp, h.theme_eq, ?_⟩
  · show app.status.load.Tells (some (play.turn text))
    rwa [LoadStatus.Tells, Play.turn_levels]
  · rintro next ⟨⟩
    exact play.turn_outcome_ne text
  · rintro next ⟨⟩
    rw [title, Play.turn_game]
  · rcases log with rfl | ⟨message, rfl⟩
    · exact h.filled
    · exact h.filled.push _

theorem submit (h : Coherent app) : Coherent app.submit := by
  have submitted := app.submitted
  generalize app.submit = after at submitted ⊢
  cases submitted with
  | unplayed missing => exact h.told fun _ => rfl
  | ended playing terminal => exact h.told fun missing => by simp [playing] at missing
  | unanswered playing going lacks => exact h.cleared.told fun _ => rfl
  | blank playing going lacks blank => exact h.cleared.told fun _ => rfl
  | guessed playing going lacks more => exact h.guess playing _

theorem act (h : Coherent app) (files : Files) (action : Action) :
    Coherent (app.act files action) := by
  cases action with
  | quit => exact h.overlay _ _ _ _
  | reload =>
      have asked := h.logged ⟨.information, "Reload requested"⟩
      exact coherent_reload asked.theme_eq asked.filled.capacity_eq asked.filled.length_le files
  | submit => exact h.submit
  | type c =>
      rw [App.act]
      split
      · rename_i accepting
        exact h.typed fun _ => accepting
      · exact h
  | erase =>
      apply h.typed
      intro left
      apply h.accepting_of_input
      intro empty
      exact left (by rw [empty, List.dropLast_nil])
  | clear => exact h.cleared
  | toggleHelp => exact h.overlay _ _ _ _
  | toggleEvents => exact h.overlay _ _ _ _
  | nextTheme =>
      exact ⟨h.tells, h.settled, h.accepting_of_input, h.title_of_play, h.title_of_failed,
        h.mood_of_none, rfl, h.filled⟩
  | leave =>
      rw [App.act, App.leave]
      split
      · exact h.overlay _ _ _ _
      · split
        · exact h.overlay _ _ _ _
        · exact h.overlay _ _ _ _
  | scrollHelpUp => exact h.overlay _ _ _ _
  | scrollHelpDown => exact h.overlay _ _ _ _

theorem after (h : Coherent app) (happening : Happening) : Coherent (app.after happening) := by
  cases happening with
  | action files action => exact h.act files action
  | reload files => exact coherent_reload h.theme_eq h.filled.capacity_eq h.filled.length_le files
  | drawing width height =>
      rw [App.after, App.drawn]
      split
      · exact h.overlay _ _ _ _
      · exact h

theorem foldl_after (h : Coherent app) (happenings : List Happening) :
    Coherent (happenings.foldl App.after app) := by
  induction happenings generalizing app with
  | nil => exact h
  | cons happening happenings ih => exact ih (h.after happening)

end Coherent

theorem coherent_start (files : Files) (settings : Settings) (source : Source) :
    Coherent (start files settings source) :=
  coherent_reload rfl rfl (Nat.zero_le _) files

theorem coherent_ofHappenings (files : Files) (settings : Settings) (source : Source)
    (happenings : List Happening) : Coherent (ofHappenings files settings source happenings) :=
  (coherent_start files settings source).foldl_after happenings

theorem reload_quitting (files : Files) (app : App) :
    (app.reload files).quitting = app.quitting := by
  rw [reload_eq]
  rfl

theorem guess_quitting (app : App) (play : Play) (text : String) :
    (app.guess play text).quitting = app.quitting := by
  obtain ⟨feedback, events, guessed, -⟩ := app.guess_eq play text
  rw [guessed]

theorem submit_quitting (app : App) : app.submit.quitting = app.quitting := by
  have submitted := app.submitted
  generalize app.submit = after at submitted ⊢
  cases submitted with
  | guessed playing going lacks more => rw [guess_quitting]
  | _ => rfl

theorem quitting_act {app : App} (quitting : app.quitting = true) (files : Files)
    (action : Action) : (app.act files action).quitting = true := by
  cases action with
  | quit => rfl
  | reload => rw [act, reload_quitting, quitting]
  | submit => rw [act, submit_quitting, quitting]
  | type c =>
      rw [act]
      split <;> exact quitting
  | leave =>
      rw [act, leave]
      split
      · exact quitting
      · split
        · exact quitting
        · rfl
  | _ => exact quitting

theorem quitting_after {app : App} (quitting : app.quitting = true) (happening : Happening) :
    (app.after happening).quitting = true := by
  cases happening with
  | action files action => exact quitting_act quitting files action
  | reload files => rw [after, reload_quitting, quitting]
  | drawing width height =>
      rw [after, drawn]
      split <;> exact quitting

/-- Who wishes to leave is not kept by anything that happens. -/
theorem quitting_foldl_after {app : App} (quitting : app.quitting = true)
    (happenings : List Happening) : (happenings.foldl after app).quitting = true := by
  induction happenings generalizing app with
  | nil => exact quitting
  | cons happening happenings ih => exact ih (quitting_after quitting happening)

/-- What holds of the full-screen game, whatever has happened and whatever the files held at
each time. -/
theorem moments_of_happenings (files : Files) (settings : Settings) (source : Source)
    (happenings : List Happening) :
    let app := ofHappenings files settings source happenings
    app.status.load ≠ .idle ∧
      (app.play.isSome = true ↔ ∃ levels, app.status.load = .loaded levels) ∧
      (∀ play, app.play = some play →
        app.status.load = .loaded play.levels.length ∧ 1 ≤ play.levels.length ∧
        play.outcome ≠ .levelWon ∧ app.title = play.game.displayTitle) ∧
      (∀ message, app.status.load = .failed message → app.title = defaultTitle) ∧
      (app.play = none → app.feedback.mood = .error) ∧
      (app.input ≠ [] → app.accepting = true) ∧
      app.status.theme = app.theme.name ∧
      1 ≤ app.events.events.length ∧ app.events.events.length ≤ 50 ∧
      (app.quitting = true → ∀ more : List Happening, (more.foldl after app).quitting = true) := by
  intro app
  have coherent : Coherent app := coherent_ofHappenings files settings source happenings
  have tells := coherent.tells
  refine ⟨?_, ?_, ?_, coherent.title_of_failed, coherent.mood_of_none,
    coherent.accepting_of_input, coherent.theme_eq,
    List.length_pos_iff.mpr coherent.filled.events_ne_nil, coherent.filled.length_le, ?_⟩
  · intro idle
    rw [idle] at tells
    cases playing : app.play <;> rw [playing] at tells
    · simp [LoadStatus.Tells] at tells
    · cases tells.1
  · cases playing : app.play with
    | none =>
        rw [playing] at tells
        rcases tells with unplayable | ⟨message, failed⟩
        · simp [unplayable]
        · simp [failed]
    | some play =>
        rw [playing] at tells
        simp [tells.1]
  · intro play playing
    rw [playing] at tells
    exact ⟨tells.1, tells.2, coherent.settled play playing, coherent.title_of_play play playing⟩
  · intro quitting more
    exact quitting_foldl_after quitting more

end GuessingGame.App
