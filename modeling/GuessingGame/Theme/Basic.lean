import GuessingGame.Theme.Color

/-!
# Themes

A theme gives a colour to every part of the screen. Three themes are built in,
and the player walks through them in a circle.
-/

namespace GuessingGame

/-- The parts of the screen that have a colour of their own. -/
inductive Role where
  | background
  | text
  | cardBackground
  | cardText
  | heading
  | hint
  | hearts
  | muted
  | input
  | inputCursor
  | success
  | mistake
  | information
  | statusText
  | statusBackground
  | statusAccent
  | helpKey
  | helpText
  | border
  | focusedBorder
  deriving DecidableEq, Repr

namespace Role

def all : List Role := [background, text, cardBackground, cardText, heading, hint, hearts, muted,
  input, inputCursor, success, mistake, information, statusText, statusBackground, statusAccent,
  helpKey, helpText, border, focusedBorder]

/-- What a part of the screen is called in the description of a theme. -/
def key : Role → String
  | background => "bg"
  | text => "fg"
  | cardBackground => "card_bg"
  | cardText => "card_fg"
  | heading => "heading"
  | hint => "hint"
  | hearts => "hearts"
  | muted => "muted"
  | input => "input_fg"
  | inputCursor => "input_cursor"
  | success => "feedback_ok"
  | mistake => "feedback_err"
  | information => "feedback_info"
  | statusText => "status_fg"
  | statusBackground => "status_bg"
  | statusAccent => "status_accent"
  | helpKey => "help_key"
  | helpText => "help_desc"
  | border => "border"
  | focusedBorder => "border_focused"

end Role

structure Theme where
  name : String
  color : Role → Color

namespace Theme

/-- The colours of the terminal on its own background. -/
def default : Theme where
  name := "Default"
  color
    | .background | .cardBackground => .reset
    | .heading | .statusAccent | .focusedBorder => .cyan
    | .hint => .lightYellow
    | .hearts | .mistake => .red
    | .muted | .statusBackground => .darkGray
    | .inputCursor | .helpKey => .yellow
    | .success => .green
    | .text | .cardText | .input | .information | .statusText | .helpText | .border => .white

def papaya : Theme where
  name := "Papaya"
  color
    | .background => .mixed 255 239 213
    | .text => .mixed 40 40 40
    | .cardBackground => .mixed 255 248 220
    | .heading | .inputCursor | .statusAccent | .helpKey | .focusedBorder => .mixed 255 127 80
    | .hint => .mixed 90 60 20
    | .hearts => .mixed 220 20 60
    | .muted => .mixed 107 107 107
    | .success => .mixed 34 139 34
    | .mistake => .mixed 178 34 34
    | .statusBackground => .mixed 255 218 185
    | .border => .mixed 205 170 125
    | .cardText | .input | .information | .statusText | .helpText => .black

def mono : Theme where
  name := "Mono"
  color
    | .heading | .hearts | .inputCursor | .success | .mistake | .helpKey | .focusedBorder => .white
    | .muted | .statusBackground | .border => .gray
    | .statusText | .statusAccent => .black
    | .background | .text | .cardBackground | .cardText | .hint | .input | .information
    | .helpText => .reset

/-- The themes that are always there, in the order of the circle. -/
def builtin : List Theme := [default, papaya, mono]

/-- Whether two texts are equal up to the case of the letters `a` to `z`. -/
def sameName (first second : String) : Bool :=
  first.toList.map Char.toLower == second.toList.map Char.toLower

/-- The built-in theme of a name, which may be padded with blanks. -/
def named? (name : String) : Option Theme :=
  builtin.find? fun theme => sameName theme.name (String.ofList (Text.trim name.toList))

/-- The theme behind the current one in a circle of themes. A theme that is not
in the circle is followed by the first. -/
def next (current : Theme) (themes : List Theme) : Theme :=
  match themes.findIdx? (·.name = current.name) with
  | some i => (themes[(i + 1) % themes.length]?).getD current
  | none => themes.headD current

end Theme

end GuessingGame
