import GuessingGame.App.Basic
import GuessingGame.Screen.Layer

/-!
# Drawing the game

The screen shows a heading, the card of the level in play, a tip and the status
line, from top to bottom. When there is little room the card keeps ten rows, and
first the status line goes, then the tip, then the heading. The event log and the
help page lie above all that.

The screen is divided by the layout of ratatui 0.30, from the heights that the parts
ask for: three rows, ten or more, one and one. `areas` states its answer, which is an
assumption about that library.
-/

namespace GuessingGame.App

open Screen

/-- The rows that the card keeps as long as there are as many. -/
def cardHeight : Nat := 10

structure Areas where
  heading : Rect
  card : Rect
  tip : Rect
  status : Rect
  deriving Repr

/-- The areas on a screen of some size. -/
def areas (width height : Nat) : Areas :=
  let heading := min 3 (height - cardHeight)
  let tip := min 1 (height - cardHeight - 3)
  let status := min 1 (height - cardHeight - 4)
  let card := height - heading - tip - status
  { heading := ⟨0, 0, width, heading⟩
    card := ⟨0, heading, width, card⟩
    tip := ⟨0, heading + card, width, tip⟩
    status := ⟨0, heading + card + tip, width, status⟩ }

def cardWidth : Nat := 64

def cardArea (area : Rect) : Rect := area.middle (min area.width cardWidth) area.height

def helpArea (screen : Rect) : Rect := screen.centered 70 70 50 15

def eventsArea (screen : Rect) : Rect := screen.centered 70 50 50 10

/-- Paint in one of the colours of the theme. -/
def ink (app : App) (role : Role) : Paint := { foreground := some (app.theme.color role) }

def boldInk (app : App) (role : Role) : Paint :=
  { foreground := some (app.theme.color role), bold := true }

/-- Paint for an area, with the colour of its text and that of its background. -/
def wash (app : App) (front back : Role) : Paint :=
  { foreground := some (app.theme.color front), background := some (app.theme.color back) }

def span (text : String) (paint : Paint := {}) : Span := ⟨text.toList, paint⟩

def headingLayers (app : App) (area : Rect) : List Layer := [
  Layer.underline area (app.ink .border),
  Layer.paragraph { area with height := area.height - 1 } {
    lines := [[span defaultTitle (app.boldInk .heading)]], centered := true }]

def Mood.role : Mood → Role
  | information => .information
  | success => .success
  | error => .mistake

def inputLine (app : App) : List Span :=
  if app.accepting then
    [span "> " (app.ink .muted), ⟨app.input, app.ink .input⟩, span "█" (app.ink .inputCursor)]
  else [span "> (input disabled)" (app.ink .muted)]

def cardLines (app : App) : List (List Span) := [
  [span app.title (app.boldInk .heading)],
  [span app.levelText (app.ink .muted)],
  [],
  [span app.hintText (app.ink .hint)],
  [span app.livesLabel, span "  ", span app.heartsText (app.ink .hearts)],
  [],
  app.inputLine,
  [],
  [span app.feedback.text (app.ink app.feedback.mood.role)]]

def cardLayers (app : App) (area : Rect) : List Layer :=
  let card := cardArea area
  [Layer.fill card (app.wash .cardText .cardBackground),
    Layer.frame card (app.ink .focusedBorder),
    Layer.paragraph card.inner { lines := app.cardLines, centered := true, wrapped := true }]

def tipLayers (app : App) (area : Rect) : List Layer := [
  Layer.fill area (app.ink .muted),
  Layer.paragraph area {
    lines := [[span "Tip: Press Enter to submit your guess. F1 for help."]], centered := true }]

def LoadStatus.role : LoadStatus → Role
  | loaded _ => .success
  | failed _ | noLevels => .mistake
  | idle => .muted

def statusLine (app : App) : List Span :=
  let errors := app.events.errorCount
  let load := app.status.load.role
  [span (" " ++ app.status.scriptText ++ " ") (app.boldInk .statusAccent),
    span (" " ++ app.status.loadText ++ " ")
      (if app.status.isError then app.boldInk load else app.ink load),
    if errors = 0 then span ""
    else span (" ERR:" ++ toString errors ++ " ") (app.ink .mistake),
    span (" theme:" ++ app.status.theme ++ " "),
    span " Ctrl-R reload  Ctrl-Q quit "]

def statusLayers (app : App) (area : Rect) : List Layer := [
  Layer.fill area (app.wash .statusText .statusBackground),
  Layer.paragraph area { lines := [app.statusLine] }]

/-- An empty window with a title on its frame. -/
def windowLayers (app : App) (area : Rect) (title : String) : List Layer := [
  Layer.wipe area,
  Layer.fill area { background := some .black },
  Layer.frame area (app.ink .focusedBorder),
  Layer.paragraph ⟨area.inner.x, area.y, area.inner.width, min 1 area.height⟩ { lines := [[span title]] }]

/-- How many seconds ago each of the drawn events was, from the first on. Nothing can be said of
an event that lies ahead of the clock, which may have been set back since. -/
abbrev Ages := Nat → Option Nat

def ageText : Option Nat → String
  | some seconds => toString seconds ++ "s ago"
  | none => "?"

/-- The line of an event, with its age. -/
def eventLine (app : App) (age : Option Nat) (event : Event) : List Span :=
  [span ("[" ++ ageText age ++ "] ") (app.ink .muted),
    span event.message (app.ink (match event.severity with
      | .information => .helpText
      | .error => .mistake))]

/-- The lines of the last events, as many as asked for. -/
def eventLines (app : App) (ages : Ages) (count : Nat) : List (List Span) :=
  (app.events.recent count).zipIdx.map fun (event, place) => app.eventLine (ages place) event

def eventsLayers (app : App) (ages : Ages) (area : Rect) : List Layer :=
  let inner := area.inner
  app.windowLayers area
      (" Event Log [" ++ toString app.events.events.length ++ "] (Ctrl-L or Esc to close) ") ++
    if app.events.events = [] then
      [Layer.fill inner (app.ink .muted),
        Layer.paragraph inner { lines := [[span "(no events recorded)"]] }]
    else
      [Layer.paragraph inner { lines := app.eventLines ages inner.height, wrapped := true }]

def helpLine (app : App) (line : HelpLine) : List Span :=
  [span line.text (app.ink (if line.isHeader then .helpKey else .helpText))]

def helpLayers (app : App) (area : Rect) : List Layer :=
  let inner := area.inner
  app.windowLayers area " Help (F1 or Esc to close) " ++
    [Layer.paragraph inner { lines := (app.help.window inner.height).map app.helpLine }]

/-- All that is drawn on a screen of some size. -/
def layers (app : App) (ages : Ages) (width height : Nat) : List Layer :=
  let screen : Rect := ⟨0, 0, width, height⟩
  let areas := areas width height
  Layer.fill screen (app.wash .text .background) ::
    app.headingLayers areas.heading ++ app.cardLayers areas.card ++ app.tipLayers areas.tip ++
    app.statusLayers areas.status ++
    (if app.eventsVisible then app.eventsLayers ages (eventsArea screen) else []) ++
    (if app.help.visible then app.helpLayers (helpArea screen) else [])

/-- The picture on a screen of some size, row by row. -/
def picture (app : App) (ages : Ages) (width height : Nat) : List (List Cell) :=
  Screen.rows (app.layers ages width height) width height

/-- The state after it was drawn, which keeps the height of the window on the help page. -/
def drawn (app : App) (width height : Nat) : App :=
  if app.help.visible then
    { app with helpHeight := (helpArea ⟨0, 0, width, height⟩).inner.height }
  else app

end GuessingGame.App
