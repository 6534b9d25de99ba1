import GuessingGame.Game

/-!
# Statements

A script is a list of statements, and a draft is what the statements read so
far have built: the game, the level that is open for an answer and a hint, and
the answer and hint written last, wherever they were written. The last write to
a place wins; a write never reaches a level other than the open one.
-/

namespace GuessingGame.Script

inductive Statement where
  | game (title : String)
  | maxLives (lives : UInt64)
  | level (number : UInt64)
  | target (text : String)
  | hint (text : String)
  | solve
  deriving DecidableEq, Repr

/-- What the statements read so far have built. -/
structure Draft where
  game : Game := {}
  /-- The index of the level that an answer or a hint is written to. -/
  openLevel : Option Nat := none
  /-- The answer written last, empty before the first. -/
  lastTarget : String := ""
  /-- The hint written last, empty before the first. -/
  lastHint : String := ""
  deriving DecidableEq, Repr, Inhabited

namespace Draft

/-- Writes an answer to the open level, or loosely if there is none. -/
def writeTarget (draft : Draft) (text : String) : Draft :=
  { draft with
    game := match draft.openLevel with
      | some i => { draft.game with
          levels := draft.game.levels.modify i ({ · with target := some text }) }
      | none => { draft.game with looseTarget := some text }
    lastTarget := text }

def writeHint (draft : Draft) (text : String) : Draft :=
  { draft with
    game := match draft.openLevel with
      | some i => { draft.game with
          levels := draft.game.levels.modify i ({ · with hint := some text }) }
      | none => { draft.game with looseHint := some text }
    lastHint := text }

def addLevel (draft : Draft) (number : UInt64) : Draft :=
  { draft with
    game := { draft.game with levels := draft.game.levels ++ [{ number }] }
    openLevel := some draft.game.levels.length }

/-- What a statement does to a draft. To solve a level builds nothing. -/
def apply (draft : Draft) : Statement → Draft
  | .game title => { draft with game := { draft.game with title } }
  | .maxLives lives => { draft with game := { draft.game with maxLives := lives } }
  | .level number => draft.addLevel number
  | .target text => draft.writeTarget text
  | .hint text => draft.writeHint text
  | .solve => draft

/-- The draft that a list of statements builds. -/
def ofStatements (statements : List Statement) : Draft := statements.foldl apply {}

end Draft

end GuessingGame.Script
