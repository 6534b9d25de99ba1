/-!
# The help screen

A page of key bindings and statements that may be longer than its window. It is
scrolled line by line and never further than to its last line.
-/

namespace GuessingGame.App

structure HelpLine where
  text : String
  isHeader : Bool := false
  deriving DecidableEq, Repr

namespace Help

def titled (header : String) (lines : List String) : List HelpLine :=
  { text := header, isHeader := true } :: lines.map fun line => { text := line }

/-- The help page. -/
def page : List HelpLine :=
  titled "PLAYING" [
    "  Type         Enter your guess",
    "  Enter        Submit guess",
    "  Backspace    Delete last character",
    "  Ctrl-U       Clear guess",
    ""] ++
  titled "GLOBAL" [
    "  Ctrl-R       Reload script and restart",
    "  Ctrl-Q       Quit",
    "  Esc          Close overlay / quit",
    "  F1           Toggle this help screen",
    "  Ctrl-L       Toggle event log",
    "  Ctrl-T       Cycle theme",
    ""] ++
  titled "SCRIPT STATEMENTS" [
    "  GAME \"title\";     Set the game title",
    "  MAX_LIVES n;      Lives per level",
    "  LEVEL n;          Start a new level",
    "  TARGET \"answer\";  Answer for the current level",
    "  HINT \"text\";      Hint for the current level",
    "  SOLVE;            Play (terminal run mode only)",
    "  // comment        Ignored to end of line",
    ""] ++
  titled "TIPS" [
    "  - Guesses ignore case and surrounding spaces",
    "  - Lives refill at every new level",
    "  - Edit the script, then Ctrl-R to try it"]

end Help

/-- Whether the help page is shown, and how many of its lines lie above the window. -/
structure Help where
  visible : Bool := false
  offset : Nat := 0
  deriving DecidableEq, Repr

namespace Help

/-- Shows the page from its top, or hides it. -/
def toggle (help : Help) : Help :=
  if help.visible then { help with visible := false } else { visible := true, offset := 0 }

def hide (help : Help) : Help := { help with visible := false }

def scrollUp (help : Help) : Help := { help with offset := help.offset - 1 }

/-- Scrolls down by a line in a window of some height. -/
def scrollDown (help : Help) (height : Nat) : Help :=
  if help.offset < page.length - height then { help with offset := help.offset + 1 } else help

/-- The lines in a window of some height. -/
def window (help : Help) (height : Nat) : List HelpLine := (page.drop help.offset).take height

end Help

end GuessingGame.App
