import GuessingGame.Files.Basic
import GuessingGame.Settings
import GuessingGame.Theme.Basic
import GuessingGame.Yaml.Record

/-!
# Themes of the player's own

A player may describe a theme in a file: a mapping from the parts of the screen
to colours, with a name and the built-in theme that it starts from. A colour that
is missing or cannot be read is that of the theme it starts from.
-/

namespace GuessingGame.Theme

/-- The file with the player's theme, below the home directory. -/
def path : String := Settings.directory ++ "/theme.yaml"

/-- A colour as it is described, if it is. -/
def textOf? : Option Yaml.Place → Option (Option String)
  | none => some none
  | some place => place.optionalText?

def ofYaml? (place : Yaml.Place) : Option Theme := do
  match ← (← place.parts? (["name", "base"] ++ Role.all.map Role.key)).mapM textOf? with
  | name :: base :: colors =>
    let start := (base.bind named?).getD default
    let described (role : Role) := ((Role.all.zip colors).lookup role).join
    return {
      name := name.getD "Custom"
      color := fun role => ((described role).bind Color.parse?).getD (start.color role) }
  | _ => none

def parse? (text : String) : Option Theme := (Yaml.read? text).bind ofYaml?

/-- The player's own theme, else the built-in one that is preferred, else the
default. -/
def load (files : Files) (preferred : Option String) : Theme :=
  match files.text path with
  | .ok text => (parse? text).getD ((preferred.bind named?).getD default)
  | .error _ => (preferred.bind named?).getD default

end GuessingGame.Theme
