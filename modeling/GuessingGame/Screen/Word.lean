import GuessingGame.Screen.Rect

/-!
# Areas in words

A screen counts its cells in words of sixteen bits, and works out percentages in words of
thirty-two. Here areas are computed in such words, step by step, and a step whose result is no
such word has none.
-/

namespace GuessingGame.Screen

namespace Word

def sum? (a b : UInt16) : Option UInt16 :=
  if a.toNat + b.toNat < UInt16.size then some (a + b) else none

def difference? (a b : UInt16) : Option UInt16 := if b ≤ a then some (a - b) else none

def product? (a b : UInt32) : Option UInt32 :=
  if a.toNat * b.toNat < UInt32.size then some (a * b) else none

/-- A long word as a word, none of its bits cut off. -/
def narrowed? (a : UInt32) : Option UInt16 :=
  if a.toNat < UInt16.size then some a.toUInt16 else none

/-- A part of a length in percent, but no less than a minimum, as far as there is room. -/
def share? (length percent least : UInt16) : Option UInt16 := do
  let hundredfold ← product? length.toUInt32 percent.toUInt32
  let part ← narrowed? (hundredfold / 100)
  let part := if part < least then least else part
  return if length < part then length else part

/-- Where a part of a length begins that lies in its middle. -/
def middle? (start length part : UInt16) : Option UInt16 := do
  let rest ← difference? length part
  sum? start (rest / 2)

end Word

open Word

structure WordRect where
  x : UInt16
  y : UInt16
  width : UInt16
  height : UInt16
  deriving DecidableEq, Repr

namespace WordRect

/-- The rectangle without regard to words. -/
def toRect (area : WordRect) : Rect :=
  ⟨area.x.toNat, area.y.toNat, area.width.toNat, area.height.toNat⟩

/-- The cells from a corner on, as many as asked for but no further than words reach. -/
def ofCorner (x y width height : UInt16) : WordRect where
  x
  y
  width := if 0xFFFF - x < width then 0xFFFF - x else width
  height := if 0xFFFF - y < height then 0xFFFF - y else height

def centered? (area : WordRect) (widthPercent heightPercent leastWidth leastHeight : UInt16) :
    Option WordRect := do
  let width ← share? area.width widthPercent leastWidth
  let height ← share? area.height heightPercent leastHeight
  let x ← middle? area.x area.width width
  let y ← middle? area.y area.height height
  return ofCorner x y width height

/-- The middle columns of a rectangle, at most as many as asked for. -/
def columns? (area : WordRect) (most : UInt16) : Option WordRect := do
  let width := if most < area.width then most else area.width
  let x ← middle? area.x area.width width
  return ofCorner x area.y width area.height

end WordRect

end GuessingGame.Screen
