import GuessingGame.Theme.Color

/-!
# Cells

What the screen shows in one place, and how paint changes it.
-/

namespace GuessingGame.Screen

structure Cell where
  symbol : List Char := [' ']
  foreground : Color := .reset
  background : Color := .reset
  bold : Bool := false
  deriving DecidableEq, Repr

structure Paint where
  foreground : Option Color := none
  background : Option Color := none
  bold : Bool := false
  deriving DecidableEq, Repr

def Cell.painted (cell : Cell) (paint : Paint) : Cell :=
  { cell with
    foreground := paint.foreground.getD cell.foreground
    background := paint.background.getD cell.background
    bold := cell.bold || paint.bold }

/-- A cell that shows something else, after some paint. -/
def Cell.written (cell : Cell) (symbol : List Char) (paint : Paint) : Cell :=
  { cell.painted paint with symbol }

namespace Cell

/-- Paint keeps what a cell shows. -/
@[simp] theorem symbol_painted (cell : Cell) (paint : Paint) :
    (cell.painted paint).symbol = cell.symbol := rfl

@[simp] theorem symbol_written (cell : Cell) (symbol : List Char) (paint : Paint) :
    (cell.written symbol paint).symbol = symbol := rfl

end Cell

end GuessingGame.Screen
