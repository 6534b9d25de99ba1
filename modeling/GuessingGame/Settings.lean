import GuessingGame.Files.Basic
import GuessingGame.Script.Load
import GuessingGame.Yaml.Record

/-!
# Settings

What a player may settle for all games: the script, the theme, the log and
whether lives are shown as hearts. Everything has a default. The settings are a
mapping in a file of the player's directory; a file that holds only blanks, or
none, leaves the defaults.
-/

namespace GuessingGame

/-- What a player may settle. -/
structure Settings where
  script : Option String := none
  theme : Option String := none
  logLevel : Option String := none
  logFile : Option String := none
  showHearts : Bool := true
  deriving DecidableEq, Repr, Inhabited

inductive LogTarget where
  | errors
  | file (path : String)
  | off
  deriving DecidableEq, Repr

namespace Settings

inductive LoadError where
  | unreadable (path : String) (error : FileError)
  | invalid (path : String)
  deriving DecidableEq, Repr

/-- The reason in words; what is wrong inside the file is left out. -/
def LoadError.message : LoadError → String
  | unreadable path error => "cannot read config " ++ path ++ ": " ++ error.message
  | invalid path => "invalid config " ++ path ++ ": "

/-- The player's directory, below the home directory. -/
def directory : String := ".cgscript"

def path : String := directory ++ "/config.yaml"

def optional? : Option Yaml.Place → Option (Option String)
  | none => some none
  | some place => place.optionalText?

def ofYaml? (place : Yaml.Place) : Option Settings := do
  match ← place.parts? ["script", "theme", "log_level", "log_file", "show_hearts"] with
  | [script, theme, logLevel, logFile, showHearts] =>
    return { script := ← optional? script, theme := ← optional? theme,
             logLevel := ← optional? logLevel, logFile := ← optional? logFile,
             showHearts := ← match showHearts with
               | none => some true
               | some place => place.flag? }
  | _ => none

/-- The settings in a file. Messages name it as `shown`. -/
def loadFrom (files : Files) (path shown : String) : Except LoadError Settings :=
  match files.text path with
  | .error error => .error (.unreadable shown error)
  | .ok text =>
    if Text.allBlank text.toList then .ok {}
    else match (Yaml.read? text).bind ofYaml? with
      | some settings => .ok settings
      | none => .error (.invalid shown)

/-- The player's settings, or the defaults where there is no such file. -/
def load (files : Files) : Except LoadError Settings :=
  if files.hasEntry path then loadFrom files path ("~/" ++ path) else .ok {}

def scriptPath (settings : Settings) : String := settings.script.getD Script.defaultPath

def screenLog (settings : Settings) : LogTarget :=
  match settings.logFile with
  | some path => .file path
  | none => .off

/-- What is logged: as much as is asked for, else as was settled, else warnings. -/
def logFilter (settings : Settings) : Nat → String
  | 0 => settings.logLevel.getD "warn"
  | 1 => "info"
  | 2 => "debug"
  | _ => "trace"

end Settings

namespace LogTarget

/-- Opens what the target needs. Only a file can fail to open. -/
def start (target : LogTarget) (openFile : String → Except FileError Unit) : Except FileError Unit :=
  match target with
  | file path => openFile path
  | errors | off => .ok ()

end LogTarget

end GuessingGame
