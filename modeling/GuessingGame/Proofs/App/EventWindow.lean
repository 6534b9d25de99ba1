import GuessingGame.Proofs.App.Invariant
import GuessingGame.Proofs.App.Window
import GuessingGame.Proofs.Screen.Wrapping

/-!
# Whether the newest event is shown

The window on the event log takes as many of the last events as it has rows, and writes them
below one another, the newest at the end. But an event that is too long for a row takes several,
and then the rows run out before the events do. The newest event is shown just when those before
it leave a row: `newest_of_happenings`.
-/

namespace GuessingGame.App

open Screen

/-- The rows that an event of some age takes in a window of some width. -/
def eventRows (app : App) (width : Nat) (age : Option Nat) (event : Event) : List (List Glyph) :=
  wrap width (glyphs (app.eventLine age event))

/-- The rows that events take one after another, each with the age at its place. -/
def eventsRows (app : App) (width : Nat) (ages : Ages) (events : List Event) : List (List Glyph) :=
  events.zipIdx.flatMap fun (event, place) => app.eventRows width (ages place) event

theorem eventsRows_append_singleton (app : App) (width : Nat) (ages : Ages) (events : List Event)
    (event : Event) : app.eventsRows width ages (events ++ [event]) =
      app.eventsRows width ages events ++ app.eventRows width (ages events.length) event := by
  simp [eventsRows, List.zipIdx_append]

/-- What a row of glyphs shows in a window of some width. -/
def shownGlyphs (width : Nat) (row : List Glyph) : List (List Char) :=
  shownRow width (row.flatMap Glyph.columns)

/-- The window on the event log shows the rows of the last events one after another. -/
theorem region_events {app : App} (visible : app.eventsVisible = true)
    (closed : app.help.visible = false) (logged : app.events.events ≠ []) (ages : Ages)
    (width height : Nat) :
    let window := (eventsArea (screen width height)).inner
    region (app.picture ages width height) window =
      shownIn window ((app.eventsRows window.width ages (app.events.recent window.height)).map
        fun row => row.flatMap Glyph.columns) := by
  intro window
  have drawn : region (app.picture ages width height) window = shownIn window
      (Paragraph.columns { lines := app.eventLines ages window.height, wrapped := true }
        window.width) := by
    rw [picture, layers]
    simp only [visible, closed, if_true, Bool.false_eq_true, if_false, List.append_nil,
      eventsLayers, logged]
    exact app.region_window _ _ _ (Rect.within_centered _ _ _ _ _)
  rw [drawn]
  refine shownIn_congr fun wide => ?_
  rw [Paragraph.columns, Paragraph.rows, if_neg wide, if_pos rfl, eventLines, List.flatMap_map]
  rfl

/-- The last of the events that are taken is the newest. -/
theorem EventLog.recent_eq {log : EventLog} (logged : log.events ≠ []) {count : Nat}
    (room : 0 < count) : ∃ earlier newest, log.recent count = earlier ++ [newest] ∧
      log.events.getLast? = some newest ∧ earlier.length < count := by
  have positive := List.length_pos_iff.mpr logged
  have length : (log.recent count).length = min count log.events.length := length_newest _ _
  have some_event : log.recent count ≠ [] := List.ne_nil_of_length_pos (by omega)
  have split := List.dropLast_concat_getLast some_event
  refine ⟨_, _, split.symm, ?_, ?_⟩
  · rw [← List.getLast?_eq_some_getLast, recent, List.getLast?_drop, if_neg (by omega)]
  · rw [List.length_dropLast]
    omega

theorem eventsWindow_room {width height : Nat} (high : 20 ≤ height) :
    8 ≤ (eventsArea (screen width height)).inner.height := by
  simp only [eventsArea, screen, Rect.centered, Rect.middle, Rect.inner, Rect.share]
  omega

/-- Whatever has happened, and however long ago each event was: the event log is shown above the
rest, in a frame of twenty rows at least. Then the first row of the newest event stands in the
window just below those of the earlier events that were taken, if these leave a row. If they leave
none, nothing but their rows is shown. They do leave one if each of them fits on a row, its age
before it. -/
theorem newest_of_happenings {files : Files} {settings : Settings} {source : Source}
    {happenings : List Happening}
    (visible : (ofHappenings files settings source happenings).eventsVisible = true)
    (closed : (ofHappenings files settings source happenings).help.visible = false)
    (ages : Ages) (width : Nat) {height : Nat} (high : 20 ≤ height) :
    let app := ofHappenings files settings source happenings
    let window := (eventsArea (screen width height)).inner
    ∃ earlier newest first more,
      app.events.recent window.height = earlier ++ [newest] ∧
      app.events.events.getLast? = some newest ∧
      app.eventRows window.width (ages earlier.length) newest = first :: more ∧
      let before := app.eventsRows window.width ages earlier
      (before.length < window.height →
        (region (app.picture ages width height) window)[before.length]? =
          some (shownGlyphs window.width first)) ∧
      (window.height ≤ before.length →
        region (app.picture ages width height) window =
          (before.take window.height).map (shownGlyphs window.width)) ∧
      ((∀ aged ∈ earlier.zipIdx,
          (app.eventRows window.width (ages aged.2) aged.1).length = 1) →
        before.length < window.height) := by
  intro app window
  have logged : app.events.events ≠ [] :=
    (coherent_ofHappenings files settings source happenings).filled.events_ne_nil
  have some_row : 0 < window.height := Nat.lt_of_lt_of_le (by decide) (eventsWindow_room high)
  obtain ⟨earlier, newest, taken, last, short⟩ := EventLog.recent_eq logged some_row
  obtain ⟨first, more, rows⟩ := List.exists_cons_of_ne_nil
    (wrap_ne_nil window.width (glyphs (app.eventLine (ages earlier.length) newest)))
  have shown : region (app.picture ages width height) window =
      shownIn window ((app.eventsRows window.width ages earlier ++ first :: more).map
        fun row => row.flatMap Glyph.columns) := by
    rw [← rows, ← eventRows, ← eventsRows_append_singleton, ← taken]
    exact region_events visible closed logged ages width height
  refine ⟨earlier, newest, first, more, taken, last, rows, fun room => ?_, fun full => ?_,
    fun single => ?_⟩
  · rw [shown, getElem?_shownIn room]
    simp [shownGlyphs]
  · have filled : window.height ≤
        (app.eventsRows window.width ages earlier ++ first :: more).length := by
      rw [List.length_append]
      omega
    rw [shown, shownIn_of_le (by rwa [List.length_map]), ← List.map_take,
      List.take_append_of_le_length full, List.map_map]
    rfl
  · rwa [eventsRows, List.length_flatMap, List.map_congr_left single, List.map_const',
      List.sum_replicate_nat, Nat.mul_one, List.length_zipIdx]

/-- A game that was loaded, and then loaded again on request: that makes three events with a row
each, the first of them a minute ago, and the newest stands in the third row. -/
theorem newest_of_happenings_third :
    let files : Files := fun _ => .error .missing
    let source : Source := .inline "TARGET \"PERU\";"
    let happenings : List Happening := [.action files .reload, .action files .toggleEvents]
    let ages : Ages := fun place => if place = 0 then some 60 else none
    let app := ofHappenings files {} source happenings
    let window := (eventsArea (screen 60 20)).inner
    app.eventsVisible = true ∧ app.help.visible = false ∧ 20 ≤ 20 ∧
      ∃ newest first more, app.events.events.getLast? = some newest ∧
        app.eventRows window.width (ages 2) newest = first :: more ∧
        (region (app.picture ages 60 20) window)[2]? = some (shownGlyphs window.width first) := by
  intro files source happenings ages app window
  have visible : app.eventsVisible = true := by decide +kernel
  have closed : app.help.visible = false := by decide +kernel
  obtain ⟨earlier, newest, first, more, taken, last, rows, shown, -, -⟩ :=
    newest_of_happenings visible closed ages 60 (Nat.le_refl 20)
  have before : earlier = (app.events.recent window.height).dropLast := by
    rw [taken, List.dropLast_concat]
  have two : earlier.length = 2 := by
    rw [before]
    decide +kernel
  have two_rows : (app.eventsRows window.width ages earlier).length = 2 := by
    rw [before]
    decide +kernel
  rw [two] at rows
  refine ⟨visible, closed, Nat.le_refl 20, newest, first, more, last, rows, ?_⟩
  rw [← two_rows]
  refine shown ?_
  rw [two_rows]
  decide

/-- A game with a title of fifteen letters is loaded four times and then lost, all within a second.
Each loading takes two rows of the window, so the event that tells of the loss is not in it. -/
theorem newest_crowded_out :
    let files : Files := fun _ => .error .missing
    let happenings : List Happening := List.replicate 3 (.action files .reload) ++
      [.action files (.type 'x'), .action files .submit, .action files .toggleEvents]
    let ages : Ages := fun _ => some 0
    let app := ofHappenings files {} (.inline "GAME \"World Explorers\"; TARGET \"PERU\";")
      happenings
    let window := (eventsArea (screen 60 20)).inner
    app.eventsVisible = true ∧ app.help.visible = false ∧
      ∃ newest first more, app.events.events.getLast? = some newest ∧
        newest.message = "Game over on 'PERU'" ∧
        app.eventRows window.width (some 0) newest = first :: more ∧
        shownGlyphs window.width first ∉ region (app.picture ages 60 20) window := by
  intro files happenings ages app window
  have visible : app.eventsVisible = true := by decide +kernel
  have closed : app.help.visible = false := by decide +kernel
  have logged : app.events.events ≠ [] := (coherent_ofHappenings _ _ _ _).filled.events_ne_nil
  have last : app.events.events.getLast? = some ⟨.information, "Game over on 'PERU'"⟩ := by
    decide +kernel
  have rows : app.eventRows window.width (some 0) ⟨.information, "Game over on 'PERU'"⟩ =
      [glyphs (app.eventLine (some 0) ⟨.information, "Game over on 'PERU'"⟩)] := by decide +kernel
  refine ⟨visible, closed, _, _, _, last, rfl, rows, ?_⟩
  rw [region_events visible closed logged]
  decide +kernel

/-- Time alone crowds out the newest event. Of a game that was loaded four times each loading takes
one row while its age has one digit, and two rows when it has two. -/
example :
    let files : Files := fun _ => .error .missing
    let happenings : List Happening := List.replicate 3 (.action files .reload) ++
      [.action files .toggleEvents]
    let app := ofHappenings files {} (.inline "GAME \"World Explorer\"; TARGET \"PERU\";") happenings
    let window := (eventsArea (screen 60 20)).inner
    let earlier := (app.events.recent window.height).dropLast
    (app.eventsRows window.width (fun _ => some 9) earlier).length < window.height ∧
      window.height ≤ (app.eventsRows window.width (fun _ => some 10) earlier).length := by
  decide +kernel

end GuessingGame.App
