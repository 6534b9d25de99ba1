/-!
# Places in a script

A place is a line and a column, both counted from one and in characters. It is
a function of the text that stands before it: a newline starts a line, and any
other character moves one column on.
-/

namespace GuessingGame.Script

structure Place where
  line : Nat
  column : Nat
  deriving DecidableEq, Repr

namespace Place

def start : Place := ⟨1, 1⟩

/-- The place behind a character. -/
def after (place : Place) (c : Char) : Place :=
  if c = '\n' then ⟨place.line + 1, 1⟩ else ⟨place.line, place.column + 1⟩

def afterAll (place : Place) (text : List Char) : Place := text.foldl after place

@[simp] theorem afterAll_nil (place : Place) : place.afterAll [] = place := rfl

@[simp] theorem afterAll_cons (place : Place) (c : Char) (text : List Char) :
    place.afterAll (c :: text) = (place.after c).afterAll text := rfl

theorem afterAll_append (place : Place) (first second : List Char) :
    place.afterAll (first ++ second) = (place.afterAll first).afterAll second := by
  simp [afterAll, List.foldl_append]

end Place

end GuessingGame.Script
