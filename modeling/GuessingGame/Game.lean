/-!
# Games

A game is what a script describes: a title, the lives granted at every level,
and the levels in the order in which they are played. A script without levels
may still name one answer and one hint, the loose ones, and is then played as a
game of a single level.
-/

namespace GuessingGame

def defaultTitle : String := "Country Guess"

/-- One level: the number it was declared with, its answer and its hint. -/
structure Level where
  number : UInt64
  target : Option String := none
  hint : Option String := none
  deriving DecidableEq, Repr

/-- A game. The loose answer and hint were given while there was no level. -/
structure Game where
  title : String := ""
  maxLives : UInt64 := 1
  levels : List Level := []
  looseTarget : Option String := none
  looseHint : Option String := none
  deriving DecidableEq, Repr, Inhabited

namespace Game

/-- The lives granted at every level; there is always one. -/
def livesBudget (game : Game) : Nat := max game.maxLives.toNat 1

/-- The levels in playing order, or the single level made of the loose values. -/
def playableLevels (game : Game) : List Level :=
  if game.levels ≠ [] then game.levels
  else match game.looseTarget with
    | some target => [{ number := 1, target := some target, hint := game.looseHint }]
    | none => []

def hasPlayableLevels (game : Game) : Bool := game.levels ≠ [] || game.looseTarget.isSome

def displayTitle (game : Game) : String := if game.title = "" then defaultTitle else game.title

theorem livesBudget_pos (game : Game) : 0 < game.livesBudget := by
  unfold livesBudget
  omega

theorem hasPlayableLevels_iff (game : Game) :
    game.hasPlayableLevels = true ↔ game.playableLevels ≠ [] := by
  unfold hasPlayableLevels playableLevels
  by_cases h : game.levels = []
  · cases ht : game.looseTarget <;> simp [h]
  · simp [h]

/-- Whether a value of a level was given. -/
private def mark (value : Option String) : String := if value.isSome then "yes" else "MISSING"

/-- One line of the overview. It tells whether the answer is there, not which. -/
def levelSummary (level : Level) : String :=
  "  LEVEL " ++ toString level.number.toNat ++ ": target " ++ mark level.target ++
    ", hint " ++ mark level.hint ++ "\n"

theorem levelSummary_eq (level : Level) : levelSummary level =
    "  LEVEL " ++ toString level.number.toNat ++
      ": target " ++ (if level.target.isSome then "yes" else "MISSING") ++
      ", hint " ++ (if level.hint.isSome then "yes" else "MISSING") ++ "\n" :=
  rfl

/-- The overview of a game: its title, its lives and one line for each level. -/
def summary (game : Game) : String :=
  "Title: " ++ game.displayTitle ++ "\nLives: " ++ toString game.maxLives.toNat ++ "\n" ++
    match game.playableLevels with
    | [] => "Levels: none\n"
    | levels => "Levels: " ++ toString levels.length ++ "\n" ++
      String.join (levels.map levelSummary)

end Game

end GuessingGame
