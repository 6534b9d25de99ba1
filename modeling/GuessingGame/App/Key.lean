/-!
# Keys

What the keys do. With the control key held, a few letters are commands and all
other keys do nothing. While help is shown, the arrows scroll it and nothing is
typed.
-/

namespace GuessingGame.App

/-- A key; those that never do anything are alike. -/
inductive Key where
  | char (c : Char)
  | enter
  | escape
  | backspace
  | up
  | down
  | function (number : Nat)
  | other
  deriving DecidableEq, Repr

inductive Action where
  | quit
  | reload
  | submit
  | type (c : Char)
  | erase
  | clear
  | toggleHelp
  | toggleEvents
  | nextTheme
  /-- Closes what is on top, and quits when nothing is. -/
  | leave
  | scrollHelpUp
  | scrollHelpDown
  deriving DecidableEq, Repr

/-- What a letter asks for with the control key held. -/
def command? (c : Char) : Option Action :=
  if c = 'q' ∨ c = 'c' then some .quit
  else if c = 'r' then some .reload
  else if c = 'l' then some .toggleEvents
  else if c = 't' then some .nextTheme
  else if c = 'u' then some .clear
  else none

/-- What a key asks for, with the control key held or not, while help is shown or not. -/
def Key.action? (control helpVisible : Bool) (key : Key) : Option Action :=
  if control then
    match key with
    | .char c => command? c
    | _ => none
  else match key with
    | .function 1 => some .toggleHelp
    | .escape => some .leave
    | .up => if helpVisible then some .scrollHelpUp else none
    | .down => if helpVisible then some .scrollHelpDown else none
    | .enter => if helpVisible then none else some .submit
    | .backspace => if helpVisible then none else some .erase
    | .char c => if helpVisible then none else some (.type c)
    | _ => none

end GuessingGame.App
