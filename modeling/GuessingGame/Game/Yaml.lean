import GuessingGame.Game
import GuessingGame.Yaml.Printer
import GuessingGame.Yaml.Record

/-!
# Games as YAML

A game is a mapping with a key for each of its parts. Answers and hints may be
missing, all else must be there, and unknown keys are passed over. What is
missing is written as `null`. This is how the derived readers and writers of serde 1
treat a record, which is assumed.
-/

namespace GuessingGame.Game

open Yaml (Place)

def optionOfYaml? : Option Place → Option (Option String)
  | none => some none
  | some place => place.optionalText?

def levelOfYaml? (place : Place) : Option Level := do
  match ← place.parts? ["level_number", "target", "hint"] with
  | [some number, target, hint] =>
    return { number := ← number.word?, target := ← optionOfYaml? target,
             hint := ← optionOfYaml? hint }
  | _ => none

def ofYaml? (place : Place) : Option Game := do
  match ← place.parts? ["title", "max_lives", "levels", "loose_target", "loose_hint"] with
  | [some title, some lives, some levels, looseTarget, looseHint] =>
    return { title := ← title.text?, maxLives := ← lives.word?,
             levels := ← (← levels.items?).mapM levelOfYaml?,
             looseTarget := ← optionOfYaml? looseTarget, looseHint := ← optionOfYaml? looseHint }
  | _ => none

def readYaml? (text : String) : Option Game := (Yaml.read? text).bind ofYaml?

def numberYaml (value : UInt64) : Yaml.Value := .word (toString value.toNat).toList

def optionYaml : Option String → Yaml.Value
  | some text => .text text.toList
  | none => .word "null".toList

def levelYaml (level : Level) : Yaml.Value := .mapping [
  ("level_number", numberYaml level.number),
  ("target", optionYaml level.target),
  ("hint", optionYaml level.hint)]

/-- A game as YAML text. -/
def writeYaml (game : Game) : String := Yaml.print [
  ("title", .text game.title.toList),
  ("max_lives", numberYaml game.maxLives),
  ("levels", .sequence (game.levels.map levelYaml)),
  ("loose_target", optionYaml game.looseTarget),
  ("loose_hint", optionYaml game.looseHint)]

end GuessingGame.Game
