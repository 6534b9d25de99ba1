import GuessingGame.Text.Blank
import GuessingGame.Text.Digits
import GuessingGame.Text.LowerCase

/-!
# Colours

The sixteen colours of a terminal, its own default, and all others by their red,
green and blue. A colour is read from its name, whatever the letter case, or from
a number sign and three pairs of hexadecimal digits. In a pair a plus sign may
stand before a single digit.
-/

namespace GuessingGame

inductive Color where
  | reset
  | black
  | red
  | green
  | yellow
  | blue
  | magenta
  | cyan
  | gray
  | darkGray
  | lightRed
  | lightGreen
  | lightYellow
  | lightBlue
  | lightMagenta
  | lightCyan
  | white
  | mixed (r g b : UInt8)
  deriving DecidableEq, Repr, Inhabited

namespace Color

def named : List (String × Color) := [
  ("Reset", reset), ("Black", black), ("Red", red), ("Green", green), ("Yellow", yellow),
  ("Blue", blue), ("Magenta", magenta), ("Cyan", cyan), ("Gray", gray), ("DarkGray", darkGray),
  ("LightRed", lightRed), ("LightGreen", lightGreen), ("LightYellow", lightYellow),
  ("LightBlue", lightBlue), ("LightMagenta", lightMagenta), ("LightCyan", lightCyan),
  ("White", white)]

/-- The names that a colour is read from, in lower case. Gray has two spellings. -/
def spellings : List (String × Color) := [
  ("black", black), ("red", red), ("green", green), ("yellow", yellow), ("blue", blue),
  ("magenta", magenta), ("cyan", cyan), ("gray", gray), ("grey", gray), ("darkgray", darkGray),
  ("darkgrey", darkGray), ("lightred", lightRed), ("lightgreen", lightGreen),
  ("lightyellow", lightYellow), ("lightblue", lightBlue), ("lightmagenta", lightMagenta),
  ("lightcyan", lightCyan), ("white", white), ("reset", reset)]

/-- Two hexadecimal digits in capitals. -/
def pairOf (value : UInt8) : List Char := Text.hexDigits Text.capitalHexDigit 2 value.toNat

def name : Color → String
  | mixed r g b => String.ofList ('#' :: pairOf r ++ pairOf g ++ pairOf b)
  | color => ((named.find? fun entry => entry.2 = color).map Prod.fst).getD ""

/-- The value of a pair of digits. -/
def pair? (high low : Char) : Option UInt8 := do
  let units ← Text.hexDigit? low
  if high = '+' then return UInt8.ofNat units
  else return UInt8.ofNat ((← Text.hexDigit? high) * 16 + units)

def mixed? : List Char → Option Color
  | [r, r', g, g', b, b'] => do return mixed (← pair? r r') (← pair? g g') (← pair? b b')
  | _ => none

/-- The colour that a text names. -/
def parse? (text : String) : Option Color :=
  match Text.trim text.toList with
  | '#' :: digits => mixed? digits
  | word => spellings.lookup (String.ofList (Text.lower word))

end Color

end GuessingGame
