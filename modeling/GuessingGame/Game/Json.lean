import GuessingGame.Game
import GuessingGame.Json.Printer

/-!
# Games as JSON

A game is written as an object with a member for each of its parts. It is read
from such an object, whatever the order and whatever other members there are,
but no part may be given twice; or from an array of the parts in their order. The
answers and hints may be left out or `null`, all else must be there. This is how the
derived readers and writers of serde 1 treat a record, which is assumed.
-/

namespace GuessingGame.Game

def textJson (text : String) : Json := .string (some text.toList)

def numberJson (value : UInt64) : Json := .number (toString value.toNat).toList

/-- A text that may be missing, as JSON. -/
def optionJson : Option String → Json
  | some text => textJson text
  | none => .null

def levelJson (level : Level) : Json := .object [
  (some "level_number".toList, numberJson level.number),
  (some "target".toList, optionJson level.target),
  (some "hint".toList, optionJson level.hint)]

def toJson (game : Game) : Json := .object [
  (some "title".toList, textJson game.title),
  (some "max_lives".toList, numberJson game.maxLives),
  (some "levels".toList, .array (game.levels.map levelJson)),
  (some "loose_target".toList, optionJson game.looseTarget),
  (some "loose_hint".toList, optionJson game.looseHint)]

def textOfJson? : Json → Option String
  | .string (some text) => some (String.ofList text)
  | _ => none

/-- The number that a JSON value is, if it is written without sign, point and exponent. -/
def numberOfJson? : Json → Option UInt64
  | .number digits => Text.word? digits
  | _ => none

/-- The text that a JSON value is, where `null` and nothing at all are none. -/
def optionOfJson? : Option Json → Option (Option String)
  | none => some none
  | some .null => some none
  | some value => (textOfJson? value).map some

/-- The parts of a record, each as it is given, if at all. An object gives them
by name and an array by place. -/
def partsOfJson? (names : List String) : Json → Option (List (Option Json))
  | .array items =>
    if items.length ≤ names.length then
      some (items.map some ++ List.replicate (names.length - items.length) none)
    else none
  | .object members =>
    if members.all (·.1.isSome) then
      names.mapM fun name =>
        match members.filter (·.1 = some name.toList) with
        | [] => some none
        | [(_, value)] => some (some value)
        | _ => none
    else none
  | _ => none

def levelOfJson? (value : Json) : Option Level :=
  match partsOfJson? ["level_number", "target", "hint"] value with
  | some [some number, target, hint] => do
    return { number := ← numberOfJson? number, target := ← optionOfJson? target,
             hint := ← optionOfJson? hint }
  | _ => none

def levelsOfJson? : Json → Option (List Level)
  | .array items => items.mapM levelOfJson?
  | _ => none

def ofJson? (value : Json) : Option Game :=
  match partsOfJson? ["title", "max_lives", "levels", "loose_target", "loose_hint"] value with
  | some [some title, some lives, some levels, looseTarget, looseHint] => do
    return { title := ← textOfJson? title, maxLives := ← numberOfJson? lives,
             levels := ← levelsOfJson? levels, looseTarget := ← optionOfJson? looseTarget,
             looseHint := ← optionOfJson? looseHint }
  | _ => none

/-- The game that a JSON text describes. -/
def readJson? (text : String) : Option Game := (Json.parse? text).bind ofJson?

/-- A game as JSON text. -/
def writeJson (layout : Json.Layout) (game : Game) : String := Json.print layout game.toJson

end GuessingGame.Game
