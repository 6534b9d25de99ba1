/-!
# Areas of the screen

Rectangles of cells. Nothing that is taken from a rectangle reaches out of it.
-/

namespace GuessingGame.Screen

structure Rect where
  x : Nat
  y : Nat
  width : Nat
  height : Nat
  deriving DecidableEq, Repr

namespace Rect

def contains (area : Rect) (x y : Nat) : Bool :=
  area.x ≤ x && x < area.x + area.width && area.y ≤ y && y < area.y + area.height

/-- What is left of a rectangle within a frame of one cell. -/
def inner (area : Rect) : Rect where
  x := min (area.x + 1) (area.x + area.width)
  y := min (area.y + 1) (area.y + area.height)
  width := area.width - 2
  height := area.height - 2

/-- A rectangle of some size in the middle of another; what is left over falls to
the right and below. -/
def middle (area : Rect) (width height : Nat) : Rect where
  x := area.x + (area.width - width) / 2
  y := area.y + (area.height - height) / 2
  width
  height

/-- A part of a length in percent, but no less than a minimum, as far as there is room. -/
def share (length percent least : Nat) : Nat := min (max (length * percent / 100) least) length

/-- A part of a rectangle in its middle, in percent of its width and height. -/
def centered (area : Rect) (widthPercent heightPercent leastWidth leastHeight : Nat) : Rect :=
  area.middle (share area.width widthPercent leastWidth)
    (share area.height heightPercent leastHeight)

theorem contains_iff {area : Rect} {x y : Nat} : area.contains x y = true ↔
    area.x ≤ x ∧ x < area.x + area.width ∧ area.y ≤ y ∧ y < area.y + area.height := by
  simp [contains, and_assoc]

theorem share_le (length percent least : Nat) : share length percent least ≤ length :=
  Nat.min_le_right _ _

theorem contains_of_inner {area : Rect} {x y : Nat} (inside : area.inner.contains x y) :
    area.contains x y := by
  rw [contains_iff] at inside ⊢
  dsimp only [inner] at inside
  omega

end Rect

end GuessingGame.Screen
