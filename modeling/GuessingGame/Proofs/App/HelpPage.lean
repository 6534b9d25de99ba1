import Mathlib.Data.List.Induction
import GuessingGame.Proofs.App.Invariant
import GuessingGame.Proofs.App.Window

/-!
# How far the help page is scrolled

The page is scrolled down as long as its last line lies below the window, and the window is taken
to be as high as it was when it was last drawn. The frame may change between two drawings, and a
drawing leaves the page where it is. So the offset is bounded by the lowest window in which the
page was scrolled down since it was opened (`offset_le_of_scrolled`), not by the one that is
drawn: when the frame grows, the page may end above the end of the window although there are
lines above that would fill it.
-/

namespace GuessingGame.App

open Screen

/-- The help page after a happening, where its window was last drawn with some height. -/
def Help.after (help : Help) (height : Nat) : Happening → Help
  | .action _ .toggleHelp => help.toggle
  | .action _ .leave => help.hide
  | .action _ .scrollHelpUp => help.scrollUp
  | .action _ .scrollHelpDown => help.scrollDown height
  | _ => help

theorem guess_help (app : App) (play : Play) (text : String) :
    (app.guess play text).help = app.help := by
  obtain ⟨feedback, events, guessed, -⟩ := app.guess_eq play text
  rw [guessed]

theorem submit_help (app : App) : app.submit.help = app.help := by
  have submitted := app.submitted
  generalize app.submit = after at submitted ⊢
  cases submitted with
  | guessed playing going lacks more => rw [guess_help]
  | _ => rfl

theorem leave_help (app : App) : app.leave.help = app.help.hide := by
  unfold leave Help.hide
  split
  · rfl
  · rename_i hidden
    have same : app.help = { app.help with visible := false } := by
      rw [← Bool.eq_false_iff.mpr hidden]
    split <;> exact same

theorem after_help (app : App) (happening : Happening) :
    (app.after happening).help = app.help.after app.helpHeight happening := by
  cases happening with
  | action files action =>
      cases action with
      | reload =>
          rw [after, act, reload_eq]
          rfl
      | submit => exact app.submit_help
      | type c =>
          rw [after, act]
          split <;> rfl
      | leave => exact app.leave_help
      | _ => rfl
  | reload files =>
      rw [after, reload_eq]
      rfl
  | drawing width height =>
      rw [after, drawn]
      split <;> rfl

namespace Help

/-- The furthest that the page is scrolled in a window of some height: its last line then stands
in the last row, or its first in the first. -/
def furthest (height : Nat) : Nat := page.length - height

theorem offset_scrollDown_le {help : Help} {height least : Nat} (low : least ≤ height)
    (bound : help.offset ≤ furthest least) : (help.scrollDown height).offset ≤ furthest least := by
  unfold scrollDown
  split
  · rename_i more
    show help.offset + 1 ≤ furthest least
    unfold furthest
    omega
  · exact bound

/-- Nothing but to open the page shows it, and nothing but to scroll down leads further. -/
theorem after_of_ne_toggle {help : Help} {height least : Nat} {happening : Happening}
    (kept : ∀ files, happening ≠ .action files .toggleHelp)
    (low : ∀ files, happening = .action files .scrollHelpDown → least ≤ height)
    (visible : (help.after height happening).visible = true) :
    help.visible = true ∧ (help.offset ≤ furthest least →
      (help.after height happening).offset ≤ furthest least) := by
  cases happening with
  | reload files => exact ⟨visible, id⟩
  | drawing width height' => exact ⟨visible, id⟩
  | action files action =>
      cases action with
      | toggleHelp => exact absurd rfl (kept files)
      | leave => cases visible
      | scrollHelpUp => exact ⟨visible, fun bound => Nat.le_trans (Nat.sub_le _ _) bound⟩
      | scrollHelpDown =>
          refine ⟨?_, offset_scrollDown_le (low files rfl)⟩
          rw [← visible, after, scrollDown]
          split <;> rfl
      | _ => exact ⟨visible, id⟩

/-- The page is opened at its top. -/
theorem offset_toggle {help : Help} (visible : help.toggle.visible = true) :
    help.toggle.offset = 0 := by
  unfold toggle at visible ⊢
  split at visible
  · cases visible
  · rename_i hidden
    rw [if_neg hidden]

/-- A window shows as many lines as it has room for, or the whole page, just when the page is not
scrolled further than needed. -/
theorem length_window_eq_iff {help : Help} (bound : help.offset ≤ page.length) (height : Nat) :
    (help.window height).length = min page.length height ↔ help.offset ≤ furthest height := by
  simp only [window, furthest, List.length_take, List.length_drop]
  omega

end Help

/-- The page was scrolled down in windows of some height at least, as far as it was not opened
again since. -/
def ScrolledIn (least : Nat) (files : Files) (settings : Settings) (source : Source)
    (happenings : List Happening) : Prop :=
  ∀ earlier scrolled later, happenings = earlier ++ .action scrolled .scrollHelpDown :: later →
    (∀ opened, .action opened .toggleHelp ∉ later) →
    least ≤ (ofHappenings files settings source earlier).helpHeight

theorem ScrolledIn.of_append_singleton {least : Nat} {files : Files} {settings : Settings}
    {source : Source} {happenings : List Happening} {happening : Happening}
    (h : ScrolledIn least files settings source (happenings ++ [happening]))
    (kept : ∀ opened, happening ≠ .action opened .toggleHelp) :
    ScrolledIn least files settings source happenings := by
  intro earlier scrolled later split others
  refine h earlier scrolled (later ++ [happening]) ?_ fun opened there => ?_
  · rw [split, List.append_assoc, List.cons_append]
  · rw [List.mem_append, List.mem_singleton] at there
    rcases there with there | there
    · exact others opened there
    · exact kept opened there.symm

/-- An open page is scrolled no further than the lowest window needs in which it was scrolled. -/
theorem offset_le_of_scrolled {least : Nat} {files : Files} {settings : Settings}
    {source : Source} {happenings : List Happening}
    (visible : (ofHappenings files settings source happenings).help.visible = true)
    (scrolled : ScrolledIn least files settings source happenings) :
    (ofHappenings files settings source happenings).help.offset ≤ Help.furthest least := by
  induction happenings using List.reverseRecOn with
  | nil =>
      have hidden : (start files settings source).help = {} := by
        unfold start
        rw [reload_eq]
        rfl
      rw [ofHappenings, List.foldl_nil, hidden] at visible
      cases visible
  | append_singleton happenings happening ih =>
      simp only [ofHappenings, List.foldl_append, List.foldl_cons, List.foldl_nil,
        after_help] at visible ih ⊢
      by_cases opens : ∃ opened, happening = .action opened .toggleHelp
      · obtain ⟨opened, rfl⟩ := opens
        rw [Help.after, Help.offset_toggle visible]
        exact Nat.zero_le _
      · have kept : ∀ opened, happening ≠ .action opened .toggleHelp :=
          fun opened same => opens ⟨opened, same⟩
        have low : ∀ now, happening = .action now .scrollHelpDown →
            least ≤ (ofHappenings files settings source happenings).helpHeight := by
          rintro now rfl
          exact scrolled happenings now [] rfl fun _ => List.not_mem_nil
        obtain ⟨open_before, keeps⟩ := Help.after_of_ne_toggle kept low visible
        exact keeps (ih open_before (scrolled.of_append_singleton kept))

/-- The row of a window in which a line of the help page stands. -/
def helpRow (app : App) (width : Nat) (line : HelpLine) : List (Option Glyph) :=
  (truncate width (glyphs (app.helpLine line))).flatMap Glyph.columns

/-- The window on the help page shows the lines from the offset on, each in a row of its own. -/
theorem region_help {app : App} (visible : app.help.visible = true) (ages : Ages)
    (width height : Nat) :
    let window := (helpArea (screen width height)).inner
    region (app.picture ages width height) window =
      shownIn window ((app.help.window window.height).map (app.helpRow window.width)) := by
  intro window
  have drawn : region (app.picture ages width height) window = shownIn window
      (Paragraph.columns { lines := (app.help.window window.height).map app.helpLine }
        window.width) := by
    rw [picture, layers]
    simp only [visible, if_true]
    exact app.region_window _ _ _ (Rect.within_centered _ _ _ _ _)
  rw [drawn]
  refine shownIn_congr fun wide => ?_
  rw [Paragraph.columns, Paragraph.rows, if_neg wide, if_neg Bool.false_ne_true]
  simp [Paragraph.indent, helpRow]

/-- Whatever has happened, a drawing with the help page open shows the lines from the offset on. It
shows as many as it has room for, or the whole page, just when the offset is at most what the
window needs. And so it is if the page was not scrolled down, since it was opened, in a window
lower than the one that is drawn. -/
theorem helpPage_of_happenings {files : Files} {settings : Settings} {source : Source}
    {happenings : List Happening}
    (visible : (ofHappenings files settings source happenings).help.visible = true)
    (ages : Ages) (width height : Nat) :
    let app := ofHappenings files settings source happenings
    let window := (helpArea (screen width height)).inner
    region (app.picture ages width height) window =
        shownIn window ((app.help.window window.height).map (app.helpRow window.width)) ∧
      ((app.help.window window.height).length = min Help.page.length window.height ↔
        app.help.offset ≤ Help.page.length - window.height) ∧
      (ScrolledIn window.height files settings source happenings →
        app.help.offset ≤ Help.page.length - window.height) := by
  intro app window
  -- in a window without rows the page may be scrolled to its end
  have bound : app.help.offset ≤ Help.page.length :=
    offset_le_of_scrolled visible fun _ _ _ _ _ => Nat.zero_le _
  exact ⟨region_help visible ages width height, Help.length_window_eq_iff bound window.height,
    offset_le_of_scrolled visible⟩

/-- The page is opened and scrolled down by two lines in a frame that stays as it is. -/
theorem helpPage_of_happenings_steady :
    let files : Files := fun _ => .error .missing
    let source : Source := .inline "TARGET \"PERU\";"
    let happenings : List Happening := [.action files .toggleHelp, .drawing 80 24,
      .action files .scrollHelpDown, .action files .scrollHelpDown]
    let app := ofHappenings files {} source happenings
    let window := (helpArea (screen 80 24)).inner
    app.help.visible = true ∧ ScrolledIn window.height files {} source happenings ∧
      app.help.offset = 2 ∧ app.help.offset ≤ Help.page.length - window.height := by
  intro files source happenings app window
  have visible : app.help.visible = true := by decide +kernel
  have scrolled : ScrolledIn window.height files {} source happenings := by
    have first : window.height ≤ (ofHappenings files {} source
      [.action files .toggleHelp, .drawing 80 24]).helpHeight := by decide +kernel
    have second : window.height ≤ (ofHappenings files {} source [.action files .toggleHelp,
      .drawing 80 24, .action files .scrollHelpDown]).helpHeight := by decide +kernel
    intro earlier now later split _
    rcases earlier with _ | ⟨a, _ | ⟨b, _ | ⟨c, _ | ⟨d, earlier⟩⟩⟩⟩ <;>
      simp only [happenings, List.nil_append, List.cons_append, List.cons.injEq] at split
    · cases split.1
    · cases split.2.1
    · obtain ⟨rfl, rfl, -⟩ := split
      exact first
    · obtain ⟨rfl, rfl, rfl, -⟩ := split
      exact second
    · cases List.append_ne_nil_of_right_ne_nil _ (List.cons_ne_nil _ _) split.2.2.2.2.symm
  exact ⟨visible, scrolled, by decide +kernel, (helpPage_of_happenings visible (fun _ => some 0) 80 24).2.2 scrolled⟩

/-- The page is opened and scrolled down to its last line, and then the frame grows. The offset
stays where it was: fourteen lines are shown where there is room for all twenty-six that would
fit, and the rows below them are blank. -/
theorem helpPage_left_behind :
    let files : Files := fun _ => .error .missing
    let happenings : List Happening := [.action files .toggleHelp, .drawing 80 24] ++
      List.replicate 13 (.action files .scrollHelpDown)
    let app := ofHappenings files {} (.inline "TARGET \"PERU\";") happenings
    let window := (helpArea (screen 80 40)).inner
    app.help.visible = true ∧ ¬app.help.offset ≤ Help.page.length - window.height ∧
      (app.help.window window.height).length = 14 ∧ min Help.page.length window.height = 26 ∧
      (region (app.picture (fun _ => some 0) 80 40) window).drop 14 =
        List.replicate 12 (List.replicate window.width [' ']) := by
  intro files happenings app window
  have visible : app.help.visible = true := by decide +kernel
  refine ⟨visible, by decide +kernel, by decide +kernel, by decide +kernel, ?_⟩
  rw [region_help visible]
  decide +kernel

end GuessingGame.App
