/-!
# Sets of code points

A property of characters is kept as the increasing list of the code points at
which membership changes. A character has the property when an odd number of
those points lie at or below it, so a table costs two numbers per range and
membership is one walk along the list.
-/

namespace GuessingGame.Text

/-- A set of code points, given by the increasing list of the points at which
membership changes. -/
structure CodeSet where
  changes : List Nat

namespace CodeSet

/-- Membership of `n` when the points seen so far leave it at `inside`. -/
def scan (n : Nat) (inside : Bool) : List Nat → Bool
  | [] => inside
  | point :: rest => if n < point then inside else scan n (!inside) rest

def contains (set : CodeSet) (c : Char) : Bool := scan c.toNat false set.changes

end CodeSet

end GuessingGame.Text
