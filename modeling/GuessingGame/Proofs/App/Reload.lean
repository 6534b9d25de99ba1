import GuessingGame.Proofs.App.EventHistory
import GuessingGame.Proofs.App.Invariant

/-!
# Loading again is beginning anew

A loading has several ways to end, and each of them sets other fields in its own place. What
it comes to is nevertheless one value, `Source.loading`, made of the source and the files
alone, and the state takes it over in whole (`reload_eq`). So it does not matter what was
there before: a script that is loaded again is set up as if the game had just been started,
with the look of the screen and the log as they were.

The source is the one field this depends on, and nothing that happens changes it.
-/

namespace GuessingGame.App

theorem guess_source (app : App) (play : Play) (text : String) :
    (app.guess play text).source = app.source := by
  obtain ⟨feedback, events, guessed, -⟩ := app.guess_eq play text
  rw [guessed]

theorem submit_source (app : App) : app.submit.source = app.source := by
  have submitted := app.submitted
  generalize app.submit = after at submitted ⊢
  cases submitted with
  | guessed playing going lacks more => rw [guess_source]
  | _ => rfl

theorem reload_source (files : Files) (app : App) : (app.reload files).source = app.source := by
  rw [reload_eq]
  rfl

theorem act_source (files : Files) (app : App) (action : Action) :
    (app.act files action).source = app.source := by
  cases action with
  | reload => rw [act, reload_source]
  | submit => rw [act, submit_source]
  | type c =>
      rw [act]
      split <;> rfl
  | leave =>
      rw [act, leave]
      split
      · rfl
      · split <;> rfl
  | _ => rfl

theorem after_source (app : App) (happening : Happening) :
    (app.after happening).source = app.source := by
  cases happening with
  | action files action => exact app.act_source files action
  | reload files => exact app.reload_source files
  | drawing width height =>
      rw [after, drawn]
      split <;> rfl

theorem foldl_after_source (app : App) (happenings : List Happening) :
    (happenings.foldl after app).source = app.source := by
  induction happenings generalizing app with
  | nil => rfl
  | cons happening happenings ih => rw [List.foldl_cons, ih, after_source]

theorem start_source (files : Files) (settings : Settings) (source : Source) :
    (start files settings source).source = source := by
  unfold start
  exact reload_source files _

/-- A log that is full drops its oldest event for a new one. -/
theorem EventLog.push_of_filled {log : EventLog} (filled : log.Filled) (event : Event) :
    log.push event = { log with
      events := (if log.events.length = 50 then log.events.tail else log.events) ++ [event] } := by
  have fits : log.events.length ≤ log.capacity := filled.capacity_eq.symm ▸ filled.length_le
  rw [push_of_fits fits, filled.capacity_eq, if_neg (by decide)]

/-- A game that was just started has adopted a loading, and its log holds nothing else. -/
theorem start_eq (files : Files) (settings : Settings) (source : Source) :
    ∃ app : App, app.events = {} ∧
      start files settings source = app.adopt (source.loading files) := by
  unfold start
  rw [reload_eq]
  exact ⟨_, rfl, rfl⟩

/-- Whatever has happened and whatever can be read now, to load the script again sets play,
title, typed text, message and load status as they are where a game is just started on the same
source and files. It logs the one event that is logged there, for which a full log drops its
oldest, and changes nothing else. So a loading that fails leaves nothing of the earlier play. -/
theorem reload_of_happenings (files : Files) (settings : Settings) (source : Source)
    (happenings : List Happening) (now : Files) (fresh_settings : Settings) :
    let app := ofHappenings files settings source happenings
    let fresh := start now fresh_settings source
    (∃ event, fresh.events.events = [event] ∧
      app.reload now = { app with
        play := fresh.play
        title := fresh.title
        input := fresh.input
        feedback := fresh.feedback
        status := { app.status with load := fresh.status.load }
        events := { app.events with
          events := (if app.events.events.length = 50 then app.events.events.tail
            else app.events.events) ++ [event] } }) ∧
    (∀ message, source.game now = .error message →
      let failed := app.reload now
      failed.play = none ∧ failed.input = [] ∧ failed.title = defaultTitle ∧
        failed.feedback = ⟨.error, message⟩ ∧ failed.status.load = .failed message) := by
  intro app fresh
  have same : app.source = source :=
    (foldl_after_source _ happenings).trans (start_source files settings source)
  have filled : app.events.Filled :=
    (coherent_ofHappenings files settings source happenings).filled
  obtain ⟨first, empty, started⟩ := start_eq now fresh_settings source
  have fresh_eq : fresh = _ := started
  have again : app.reload now = app.adopt (source.loading now) := by rw [reload_eq, same]
  constructor
  · refine ⟨(source.loading now).event, ?_, ?_⟩
    · rw [fresh_eq, adopt, empty]
      rfl
    · rw [again, fresh_eq, adopt, EventLog.push_of_filled filled]
      rfl
  · intro message fails
    rw [again, Source.loading, fails]
    exact ⟨rfl, rfl, rfl, rfl, rfl⟩

end GuessingGame.App
