import GuessingGame.Screen.Paragraph
import GuessingGame.Screen.Rect

/-!
# Layers

A picture is painted in layers. A layer says for each place what becomes of the
cell that was painted so far, so a cell of the picture is found by going through
the layers at its place alone. Borders, blank areas and paragraphs are painted as the
widgets of ratatui 0.30 are assumed to paint them.
-/

namespace GuessingGame.Screen

inductive Layer where
  /-- Paints an area and leaves what it shows. -/
  | fill (area : Rect) (paint : Paint)
  /-- Empties an area. -/
  | wipe (area : Rect)
  /-- Draws a frame along the edge of an area. -/
  | frame (area : Rect) (paint : Paint)
  /-- Draws a line along the lower edge of an area. -/
  | underline (area : Rect) (paint : Paint)
  /-- Writes rows of glyphs into an area, column by column. -/
  | text (area : Rect) (rows : List (List (Option Glyph)))

namespace Layer

/-- Writes a paragraph into an area. -/
def paragraph (area : Rect) (content : Paragraph) : Layer :=
  .text area (content.columns area.width)

def area : Layer → Rect
  | fill area _ | wipe area | frame area _ | underline area _ | text area _ => area

/-- The piece of a frame at a place of an area, if it lies on its edge. Where an
area is so small that edges meet, the upper and the left one win. -/
def edge? (area : Rect) (x y : Nat) : Option Char :=
  let top := y == area.y
  let bottom := y + 1 == area.y + area.height
  let left := x == area.x
  let right := x + 1 == area.x + area.width
  if top && left then some '┌'
  else if bottom && left then some '└'
  else if top && right then some '┐'
  else if bottom && right then some '┘'
  else if top || bottom then some '─'
  else if left || right then some '│'
  else none

def glyphAt? (rows : List (List (Option Glyph))) (column row : Nat) : Option Glyph :=
  (rows[row]?.bind (·[column]?)).join

/-- What a layer makes of a cell of its area. -/
def change (layer : Layer) (x y : Nat) (cell : Cell) : Cell :=
  match layer with
  | fill _ paint => cell.painted paint
  | wipe _ => {}
  | frame area paint =>
    match edge? area x y with
    | some c => cell.written [c] paint
    | none => cell
  | underline area paint => if y + 1 = area.y + area.height then cell.written ['─'] paint else cell
  | text area rows =>
    match glyphAt? rows (x - area.x) (y - area.y) with
    | some glyph => cell.written glyph.symbol glyph.paint
    | none => cell

/-- What a layer makes of a cell: outside of its area, nothing. -/
def apply (layer : Layer) (x y : Nat) (cell : Cell) : Cell :=
  if layer.area.contains x y then layer.change x y cell else cell

end Layer

/-- The cell at a place of a picture. -/
def cellAt (layers : List Layer) (x y : Nat) : Cell :=
  layers.foldl (fun cell layer => layer.apply x y cell) {}

def rows (layers : List Layer) (width height : Nat) : List (List Cell) :=
  (List.range height).map fun y => (List.range width).map fun x => cellAt layers x y

namespace Layer

/-- A layer changes nothing outside of its area. -/
theorem apply_of_not_contains {layer : Layer} {x y : Nat} {cell : Cell}
    (outside : ¬layer.area.contains x y) : layer.apply x y cell = cell :=
  if_neg outside

end Layer

@[simp] theorem cellAt_nil (x y : Nat) : cellAt [] x y = {} := rfl

/-- The layer that was painted last has the last word. -/
@[simp] theorem cellAt_append_singleton (layers : List Layer) (layer : Layer) (x y : Nat) :
    cellAt (layers ++ [layer]) x y = layer.apply x y (cellAt layers x y) := by
  simp [cellAt]

end GuessingGame.Screen
