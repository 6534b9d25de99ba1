import GuessingGame.CommandLine.Basic
import GuessingGame.Console.Immediate
import GuessingGame.Game.Json
import GuessingGame.Game.Yaml
import GuessingGame.Settings

/-!
# Doing what is asked for

Every command reads the script that is asked for, else the one that is settled,
and does its work at the console. It ends with zero if all went well, with one if
not, and with two if it was not understood what to do.
-/

namespace GuessingGame.CommandLine

open Console

/-- What is left when the work is done: its code and the console. -/
abbrev Ending := Nat × Console

/-- Writes a text and ends. -/
def saying (text : String) (code : Nat) (console : Console) : Ending :=
  (code, ((print text).run console).2)

/-- Plays every level as soon as the script asks for it. -/
def runScript (text : String) (console : Console) : Ending :=
  let (_, console) := saying "Starting Compiler (CLI mode)...\n" 0 console
  match playScript text console with
  | (.ok report, console) =>
    if report.halted then (0, console)
    else saying "\n--- Program Finished Successfully ---\n" 0 console
  | (.error fault, console) => saying ("\nCompiler Error: " ++ fault.message ++ "\n") 1 console

/-- Does something with the game that a script describes. -/
def withGame (text : String) (console : Console) (work : Game → Console → Ending) : Ending :=
  match Script.readGame text with
  | .ok game => work game console
  | .error fault => saying ("Compiler Error: " ++ fault.message ++ "\n") 1 console

def playGame (game : Game) (console : Console) : Ending :=
  match playthrough.run ⟨Play.start game, console⟩ with
  | (.ok _, table) => (0, table.console)
  | (.error _, table) => (1, table.console)

/-- A game in some format, through the end of its last line. -/
def Format.text (game : Game) : Format → String
  | yaml => game.writeYaml
  | json => game.writeJson .indented ++ "\n"

def Command.perform (text : String) (console : Console) : Command → Ending
  | run | screen => runScript text console
  | play => withGame text console playGame
  | check => withGame text console fun game => saying game.summary 0
  | inspect format => withGame text console fun game => saying (format.text game) 0

/-- What is said where the full-screen game is asked for. There is no terminal to
show it on, and the script is run instead. -/
def preface : Command → String
  | .screen => "Failed to start TUI: \nFalling back to CLI mode...\n"
  | _ => ""

/-- Does what is asked for. Settings that cannot be read are passed over. -/
def Request.perform (files : Files) (request : Request) (console : Console) : Ending :=
  let settings := (Settings.load files).toOption.getD {}
  let path := request.script.getD settings.scriptPath
  let (_, console) := saying (preface request.command) 0 console
  match Script.load files path with
  | .error error => saying ("Error: " ++ error.message ++ "\n") 1 console
  | .ok text => request.command.perform text console

def release : String := "cgscript 0.1.0\n"

def usage : String :=
  "Play country-guessing game scripts\n\n" ++
  "Usage: cgscript [OPTIONS] [run|play|tui|check|inspect]\n\n" ++
  "Options:\n" ++
  "      --script <SCRIPT>    The script to read\n" ++
  "      --format yaml|json   How inspect prints a game\n" ++
  "  -v, --verbose            Log more\n" ++
  "  -h, --help               Print help\n" ++
  "  -V, --version            Print version\n"

def perform (files : Files) (words : List String) (console : Console) : Ending :=
  match parse words with
  | .ok request => request.perform files console
  | .error .version => saying release 0 console
  | .error .help => saying usage 0 console
  | .error .misuse => (2, console)

end GuessingGame.CommandLine
