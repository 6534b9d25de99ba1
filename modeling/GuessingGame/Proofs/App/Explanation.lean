import GuessingGame.Proofs.App.Invariant

/-!
# Why no guess can be typed

Where the screen takes no guess, its message tells the reason: the script could not be read or
has no levels, the level in play has no answer, the game is lost, or all levels are won.

A message stands until the next one, while the play it tells of may go on. That it still fits is
therefore an invariant of message, load status and play together, `Explains`. Three things can
happen to these (`affected`): a loading sets them all, to submit sets the message and perhaps
the play, and all else leaves them as they are.
-/

namespace GuessingGame.App

def Feedback.TellsLoss (feedback : Feedback) : Prop :=
  feedback.mood = .error ∧ "GAME OVER.".toList <+: feedback.text.toList

theorem tellsLoss_lost : lost.TellsLoss := ⟨rfl, by decide⟩

theorem tellsLoss_losing (answer : String) : (losing answer).TellsLoss := by
  refine ⟨rfl, " The answer was ".toList ++ (answer.toList ++ ". Ctrl-R to play again.".toList), ?_⟩
  simp [losing, String.toList_append]

/-- The message when the last life is lost holds the answer. -/
theorem isInfix_losing (answer : String) : answer.toList <:+: (losing answer).text.toList :=
  ⟨"GAME OVER. The answer was ".toList, ". Ctrl-R to play again.".toList,
    by simp [losing, String.toList_append]⟩

/-- A message fits a play that may take no guess, and tells why if it takes none. -/
inductive Feedback.ExplainsPlay (feedback : Feedback) (play : Play) : Prop
  /-- At a level without an answer, that is what the message says. -/
  | going (going : play.outcome = .inProgress)
      (fits : play.lacksTarget = true → feedback = noTarget)
  | lost (isOver : play.outcome = .gameOver) (fits : feedback.TellsLoss)
  | won (won : play.outcome = .allLevelsWon) (fits : feedback = allWon)

/-- A message tells why no guess can be made. Without a play it is what went wrong with the
last loading, or that there is no level to play. -/
def Feedback.Explains (feedback : Feedback) (load : LoadStatus) : Option Play → Prop
  | none => feedback.mood = .error ∧ (load = .failed feedback.text ∨ feedback = noTarget)
  | some play => feedback.ExplainsPlay play

/-- A loading fails, or finds a game that can be played, or one without levels. -/
theorem loading_cases (files : Files) (source : Source) :
    (∃ message, source.loading files = .failed message) ∨
      (∃ game : Game, game.playableLevels ≠ [] ∧ source.loading files = .playable game) ∨
      ∃ game, source.loading files = .unplayable game := by
  unfold Source.loading
  cases source.game files with
  | error message => exact .inl ⟨message, rfl⟩
  | ok game =>
      by_cases levels : game.hasPlayableLevels = true
      · exact .inr (.inl ⟨game, game.hasPlayableLevels_iff.mp levels, if_pos levels⟩)
      · exact .inr (.inr ⟨game, if_neg levels⟩)

theorem start_inProgress {game : Game} (playable : game.playableLevels ≠ []) :
    (Play.start game).outcome = .inProgress := if_neg playable

theorem explains_loading (files : Files) (source : Source) :
    let loading := source.loading files
    loading.feedback.Explains loading.load loading.play := by
  intro loading
  obtain ⟨message, failed⟩ | ⟨game, playable, found⟩ | ⟨game, found⟩ := loading_cases files source
  · rw [show loading = _ from failed]
    exact ⟨rfl, .inl rfl⟩
  · have going := start_inProgress playable
    rw [show loading = _ from found]
    exact .going going fun lacks => if_pos lacks
  · rw [show loading = _ from found]
    exact ⟨rfl, .inr rfl⟩

/-- No game is lost before a guess was made. -/
theorem loading_play_ne_gameOver (files : Files) (source : Source) {play : Play}
    (playing : (source.loading files).play = some play) : play.outcome ≠ .gameOver := by
  obtain ⟨message, failed⟩ | ⟨game, playable, found⟩ | ⟨game, found⟩ := loading_cases files source
  · rw [failed] at playing
    cases playing
  · rw [found] at playing
    cases playing
    rw [start_inProgress playable]
    decide
  · rw [found] at playing
    cases playing

/-- A guess at a level with an answer is followed by a message that fits the play it leads to.
When it costs the last life the message holds the answer. -/
theorem guess_explains (app : App) {play : Play} (going : play.outcome = .inProgress)
    (lacks : play.lacksTarget = false) (text : String) :
    let after := app.guess play text
    after.feedback.ExplainsPlay (play.turn text) ∧
      ((play.turn text).outcome = .gameOver →
        (play.turn text).revealed? = some play.target ∧ after.feedback = losing play.target) := by
  intro after
  obtain ⟨ignored, -⟩ | ⟨-, -, won⟩ | ⟨-, -, -, isOver⟩ | ⟨-, -, -, missed⟩ :=
    play.guess_cases text
  · exact absurd going ignored
  · -- the level is won: the message depends on what the next one is
    have moved : play.turn text = (play.guess text).advance := Play.settled_eq _
    have told : after.feedback =
        if (play.turn text).outcome ≠ .inProgress then allWon
        else if (play.turn text).lacksTarget then noTarget else right play.target := by
      simp only [after, guess, moved, won]
    obtain ⟨other, -⟩ | ⟨-, -, last⟩ | ⟨-, -, next⟩ := (play.guess text).advance_cases
    · exact absurd (by rw [won]) other
    · have ended : (play.turn text).outcome = .allLevelsWon := by rw [moved, last]
      refine ⟨.won ended ?_, fun isOver => by cases ended.symm.trans isOver⟩
      rw [told, if_pos (by rw [ended]; decide)]
    · have opened : (play.turn text).outcome = .inProgress := by rw [moved, next]
      refine ⟨.going opened fun lacks => ?_, fun isOver => by cases opened.symm.trans isOver⟩
      rw [told, if_neg (not_not_intro opened), if_pos lacks]
  · have turned : play.turn text = { play with lives := 0, outcome := .gameOver } := by
      rw [Play.turn, isOver]
      rfl
    have told : after.feedback = losing play.target := by simp only [after, guess, isOver]
    rw [turned, told]
    exact ⟨.lost rfl (tellsLoss_losing _), fun _ => ⟨rfl, rfl⟩⟩
  · have turned : play.turn text = { play with lives := play.lives - 1 } := by
      rw [Play.turn, missed, Play.settled_eq, Play.advance_of_ne (by simp [going])]
    rw [turned]
    refine ⟨.going going fun lacked => ?_, fun isOver => ?_⟩
    · -- the answer is still the one that was there
      cases lacks.symm.trans lacked
    · cases going.symm.trans isOver

/-- What a happening does to the play and to what is said of it. -/
inductive Affected (app after : App) : Prop
  /-- The script was loaded. -/
  | loaded (files : Files) (play : after.play = (app.source.loading files).play)
      (feedback : after.feedback = (app.source.loading files).feedback)
      (load : after.status.load = (app.source.loading files).load)
  /-- What was typed was submitted. -/
  | submitted (submit : after = app.submit)
  /-- Nothing was played or said. -/
  | kept (play : after.play = app.play) (feedback : after.feedback = app.feedback)
      (load : after.status.load = app.status.load)

theorem affected (app : App) (happening : Happening) : app.Affected (app.after happening) := by
  cases happening with
  | action files action =>
      cases action with
      | reload =>
          rw [after, act, reload_eq]
          exact .loaded files rfl rfl rfl
      | submit => exact .submitted rfl
      | type c =>
          rw [after, act]
          split <;> exact .kept rfl rfl rfl
      | leave =>
          rw [after, act, leave]
          split
          · exact .kept rfl rfl rfl
          · split <;> exact .kept rfl rfl rfl
      | _ => exact .kept rfl rfl rfl
  | reload files =>
      rw [after, reload_eq]
      exact .loaded files rfl rfl rfl
  | drawing width height =>
      rw [after, drawn]
      split <;> exact .kept rfl rfl rfl

theorem guess_play (app : App) (play : Play) (text : String) :
    (app.guess play text).play = some (play.turn text) := by
  obtain ⟨feedback, events, guessed, -⟩ := app.guess_eq play text
  rw [guessed]

/-- A play that was moved past a won level and has not ended is in progress. -/
theorem Coherent.inProgress {app : App} (h : Coherent app) {play : Play}
    (playing : app.play = some play) (going : play.outcome.isTerminal = false) :
    play.outcome = .inProgress := by
  have settled := h.settled play playing
  cases outcome : play.outcome with
  | inProgress => rfl
  | levelWon => exact absurd outcome settled
  | allLevelsWon | gameOver => cases outcome ▸ going

/-- Whatever was said before, to submit says what fits. -/
theorem explains_submit {app : App} (coherent : Coherent app) :
    app.submit.feedback.Explains app.submit.status.load app.submit.play := by
  have submitted := app.submitted
  generalize app.submit = after at submitted ⊢
  cases submitted with
  | unplayed missing =>
      simp only [missing]
      exact ⟨rfl, .inr rfl⟩
  | @ended play playing terminal =>
      simp only [playing]
      cases outcome : play.outcome with
      | gameOver => exact .lost outcome tellsLoss_lost
      | allLevelsWon => exact .won outcome rfl
      | inProgress | levelWon => cases outcome ▸ terminal
  | unanswered playing going lacks =>
      simp only [playing]
      exact .going (coherent.inProgress playing going) fun _ => rfl
  | blank playing going lacks blank =>
      simp only [playing]
      exact .going (coherent.inProgress playing going) fun lacked => by cases lacks.symm.trans lacked
  | @guessed play playing going lacks more =>
      rw [guess_play]
      exact (guess_explains _ (coherent.inProgress playing going) lacks _).1

theorem explains_after {app : App} (coherent : Coherent app)
    (told : app.feedback.Explains app.status.load app.play) (happening : Happening) :
    let after := app.after happening
    after.feedback.Explains after.status.load after.play := by
  intro after
  cases app.affected happening with
  | loaded files play feedback load =>
      rw [show after.play = _ from play, show after.feedback = _ from feedback,
        show after.status.load = _ from load]
      exact explains_loading files app.source
  | submitted submit =>
      rw [show after = _ from submit]
      exact explains_submit coherent
  | kept play feedback load =>
      rw [show after.play = _ from play, show after.feedback = _ from feedback,
        show after.status.load = _ from load]
      exact told

theorem explains_foldl_after {app : App} (coherent : Coherent app)
    (told : app.feedback.Explains app.status.load app.play) (happenings : List Happening) :
    let last := happenings.foldl after app
    last.feedback.Explains last.status.load last.play := by
  induction happenings generalizing app with
  | nil => exact told
  | cons happening happenings ih =>
      exact ih (coherent.after happening) (explains_after coherent told happening)

/-- At every moment the message fits the play. -/
theorem explains_ofHappenings (files : Files) (settings : Settings) (source : Source)
    (happenings : List Happening) :
    let app := ofHappenings files settings source happenings
    app.feedback.Explains app.status.load app.play := by
  refine explains_foldl_after (coherent_start files settings source) ?_ happenings
  unfold start
  rw [reload_eq]
  exact explains_loading files source

/-- A game that was not lost before is lost by a guess, and the message tells the answer. -/
theorem submit_reveals {app : App} (coherent : Coherent app) {play : Play}
    (unlost : ∀ before ∈ app.play, before.outcome ≠ .gameOver)
    (playing : app.submit.play = some play) (isOver : play.outcome = .gameOver) :
    ∃ answer, play.revealed? = some answer ∧ app.submit.feedback = losing answer := by
  have submitted := app.submitted
  generalize app.submit = after at submitted playing ⊢
  cases submitted with
  | unplayed missing => cases missing.symm.trans playing
  | ended same _ | unanswered same _ _ | blank same _ _ _ =>
      cases same.symm.trans playing
      exact absurd isOver (unlost _ same)
  | @guessed before same going lacks more =>
      rw [guess_play] at playing
      cases playing
      obtain ⟨-, loses⟩ := guess_explains { app with input := [] }
        (coherent.inProgress same going) lacks (String.ofList app.input)
      exact ⟨_, loses isOver⟩

/-- Whatever happens, a game that was not lost before and is lost then was lost by a guess. -/
theorem after_reveals {app : App} (coherent : Coherent app) (happening : Happening) {play : Play}
    (unlost : ∀ before ∈ app.play, before.outcome ≠ .gameOver)
    (playing : (app.after happening).play = some play) (isOver : play.outcome = .gameOver) :
    ∃ answer, play.revealed? = some answer ∧ (app.after happening).feedback = losing answer := by
  cases app.affected happening with
  | loaded files loaded _ _ =>
      exact absurd isOver (loading_play_ne_gameOver files app.source (loaded.symm.trans playing))
  | submitted submit =>
      rw [submit] at playing ⊢
      exact submit_reveals coherent unlost playing isOver
  | kept same _ _ => exact absurd isOver (unlost play (same.symm.trans playing))

/-- Whatever has happened, and whatever the files held at each time: where no guess can be
typed the message tells why. Without a play it is the error of the last loading, or says that
there is no level to play. With a play it says that the level has no answer, that the game is
lost, or that all levels are won, as the play has it. And what makes a game that was not lost
a lost one leaves a message with the answer in it, which may be shown then. -/
theorem feedback_of_happenings (files : Files) (settings : Settings) (source : Source)
    (happenings : List Happening) :
    let app := ofHappenings files settings source happenings
    (app.accepting = false →
      (app.play = none → app.feedback.mood = .error ∧
        (app.status.load = .failed app.feedback.text ∨ app.feedback = noTarget)) ∧
      ∀ play, app.play = some play →
        (play.outcome = .inProgress ∧ play.lacksTarget = true ∧ app.feedback = noTarget) ∨
        (play.outcome = .gameOver ∧ app.feedback.mood = .error ∧
          "GAME OVER.".toList <+: app.feedback.text.toList) ∨
        (play.outcome = .allLevelsWon ∧ app.feedback = allWon)) ∧
    ∀ happening play, (∀ before ∈ app.play, before.outcome ≠ .gameOver) →
      (app.after happening).play = some play → play.outcome = .gameOver →
      ∃ answer, play.revealed? = some answer ∧
        answer.toList <:+: (app.after happening).feedback.text.toList := by
  intro app
  have coherent : Coherent app := coherent_ofHappenings files settings source happenings
  have told : app.feedback.Explains app.status.load app.play :=
    explains_ofHappenings files settings source happenings
  constructor
  · intro refuses
    constructor
    · intro missing
      rw [missing] at told
      exact told
    · intro play playing
      rw [playing] at told
      rw [accepting, playing] at refuses
      cases told with
      | going going fits =>
          have lacks : play.lacksTarget = true := by simpa [going] using refuses
          exact .inl ⟨going, lacks, fits lacks⟩
      | lost isOver fits => exact .inr (.inl ⟨isOver, fits⟩)
      | won won fits => exact .inr (.inr ⟨won, fits⟩)
  · intro happening play unlost playing isOver
    obtain ⟨answer, revealed, losing⟩ := after_reveals coherent happening unlost playing isOver
    refine ⟨answer, revealed, ?_⟩
    rw [losing]
    exact isInfix_losing answer

end GuessingGame.App
