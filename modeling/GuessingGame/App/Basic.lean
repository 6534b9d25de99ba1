import GuessingGame.App.EventLog
import GuessingGame.App.Help
import GuessingGame.App.Key
import GuessingGame.App.Status
import GuessingGame.Play
import GuessingGame.Script.Reader
import GuessingGame.Theme.Custom

/-!
# The full-screen game

The state behind the screen, and what each action does to it. A script is loaded
at the start and whenever it is asked for; the play then begins anew. A guess is
typed character by character, and only where one can be made: there must be a
level in play that has an answer.
-/

namespace GuessingGame

namespace App

/-- Where the script comes from. -/
inductive Source where
  | file (path : String)
  | inline (text : String)
  deriving DecidableEq, Repr

inductive Mood where
  | information
  | success
  | error
  deriving DecidableEq, Repr

structure Feedback where
  mood : Mood
  text : String
  deriving DecidableEq, Repr

end App

/-- The state behind the screen. -/
structure App where
  source : App.Source
  play : Option Play := none
  title : String := defaultTitle
  input : List Char := []
  feedback : App.Feedback := ⟨.information, ""⟩
  help : App.Help := {}
  events : App.EventLog := {}
  eventsVisible : Bool := false
  status : App.Status := {}
  theme : Theme
  showHearts : Bool := true
  /-- The height of the window on the help page when it was last drawn. -/
  helpHeight : Nat := 10
  quitting : Bool := false

namespace App

/-- The message for a level that no guess can win. -/
def noTarget : Feedback :=
  ⟨.error, "No level target loaded. Use Ctrl-R to reload file."⟩

def welcome : Feedback := ⟨.information, "Game loaded. Good luck!"⟩

def allWon : Feedback := ⟨.success, "You finished all levels! Ctrl-R to play again."⟩

/-- The message for a guess after the last life is lost. -/
def lost : Feedback := ⟨.error, "GAME OVER. Ctrl-R to play again."⟩

/-- The message when the last life is lost. -/
def losing (answer : String) : Feedback :=
  ⟨.error, "GAME OVER. The answer was " ++ answer ++ ". Ctrl-R to play again."⟩

def right (answer : String) : Feedback :=
  ⟨.success, ">>> CORRECT! The answer was " ++ answer ++ ". New level loaded!"⟩

def wrong : Feedback := ⟨.error, ">>> WRONG! Try again!"⟩

def noGuess : Feedback := ⟨.error, "Please type a guess!"⟩

/-- The game that a source describes, or what is wrong with it. -/
def Source.game (files : Files) : Source → Except String Game
  | file path =>
    match Script.load files path with
    | .error error => .error ("Error: " ++ error.message)
    | .ok text => (Script.readGame text).mapError fun fault => "Compiler Error: " ++ fault.message
  | inline text => (Script.readGame text).mapError fun fault => "Compiler Error: " ++ fault.message

def loadFailed (app : App) (message : String) : App :=
  { app with
    title := defaultTitle
    status := { app.status with load := .failed message }
    events := app.events.complain message
    feedback := ⟨.error, message⟩ }

def loaded (app : App) (game : Game) : App :=
  let app := { app with title := game.displayTitle }
  if game.hasPlayableLevels then
    let play := Play.start game
    { app with
      status := { app.status with load := .loaded play.levels.length }
      events := app.events.inform ("Loaded '" ++ app.title ++ "' with " ++
        toString play.levels.length ++ " level(s)")
      play := some play
      feedback := if play.lacksTarget then noTarget else welcome }
  else
    { app with
      status := { app.status with load := .noLevels }
      events := app.events.inform "Loaded program without levels"
      feedback := noTarget }

/-- Loads the script and begins the play anew. -/
def reload (files : Files) (app : App) : App :=
  let app := { app with input := [], play := none }
  match app.source.game files with
  | .error message => app.loadFailed message
  | .ok game => app.loaded game

/-- The state at the start, with the script loaded once. -/
def start (files : Files) (settings : Settings) (source : Source) : App :=
  let theme := Theme.load files settings.theme
  let script := match source with
    | .file path => some path
    | .inline _ => none
  reload files {
    source, theme, showHearts := settings.showHearts
    status := { script, theme := theme.name } }

/-- Whether a guess can be typed. -/
def accepting (app : App) : Bool :=
  match app.play with
  | some play => play.outcome = .inProgress && !play.lacksTarget
  | none => false

/-- The state after a guess at the level in play. -/
def guess (app : App) (play : Play) (text : String) : App :=
  let answer := play.target
  let guessed := play.guess text
  match guessed.outcome with
  | .levelWon =>
    let advanced := guessed.advance
    { app with
      play := some advanced
      feedback :=
        if advanced.outcome ≠ .inProgress then allWon
        else if advanced.lacksTarget then noTarget else right answer }
  | .inProgress => { app with play := some guessed, feedback := wrong }
  | .gameOver =>
    { app with
      play := some guessed
      events := app.events.inform ("Game over on '" ++ answer ++ "'")
      feedback := losing answer }
  | .allLevelsWon => { app with play := some guessed }

/-- Submits what was typed. -/
def submit (app : App) : App :=
  match app.play with
  | none => { app with feedback := noTarget }
  | some play =>
    match play.outcome with
    | .gameOver => { app with feedback := lost }
    | .allLevelsWon => { app with feedback := allWon }
    | .levelWon | .inProgress =>
      let text := String.ofList app.input
      let app := { app with input := [] }
      if play.lacksTarget then { app with feedback := noTarget }
      else if Answer.isBlank text then { app with feedback := noGuess }
      else app.guess play text

/-- Closes what is on top, and quits when nothing is. -/
def leave (app : App) : App :=
  if app.help.visible then { app with help := app.help.hide }
  else if app.eventsVisible then { app with eventsVisible := false }
  else { app with quitting := true }

/-- The state after an action. -/
def act (files : Files) (app : App) : Action → App
  | .quit => { app with quitting := true }
  | .reload => { app with events := app.events.inform "Reload requested" }.reload files
  | .submit => app.submit
  | .type c => if app.accepting then { app with input := app.input ++ [c] } else app
  | .erase => { app with input := app.input.dropLast }
  | .clear => { app with input := [] }
  | .toggleHelp => { app with help := app.help.toggle }
  | .toggleEvents => { app with eventsVisible := !app.eventsVisible }
  | .nextTheme =>
    let theme := app.theme.next Theme.builtin
    { app with theme, status := { app.status with theme := theme.name } }
  | .leave => app.leave
  | .scrollHelpUp => { app with help := app.help.scrollUp }
  | .scrollHelpDown => { app with help := app.help.scrollDown app.helpHeight }

def press (files : Files) (app : App) (control : Bool) (key : Key) : App :=
  match key.action? control app.help.visible with
  | some action => app.act files action
  | none => app

def levelText (app : App) : String :=
  match app.play.bind fun play => play.level?.map fun level => (level, play.levels.length) with
  | some (level, total) =>
    "Level: " ++ toString level.number.toNat ++ " of " ++ toString total
  | none => "Level: -"

def hintText (app : App) : String := "Hint: " ++ ((app.play.bind Play.hint?).getD "")

def lives (app : App) : Nat := (app.play.map Play.lives).getD 0

def maxHearts : Nat := 10

/-- A heart for every life, where hearts are shown. -/
def heartsText (app : App) : String :=
  if app.showHearts then " ".intercalate (List.replicate (min app.lives maxHearts) "♥") else ""

def livesLabel (app : App) : String := "Lives: " ++ toString app.lives

def livesText (app : App) : String :=
  if app.heartsText = "" then app.livesLabel else app.livesLabel ++ "  " ++ app.heartsText

end App

end GuessingGame
