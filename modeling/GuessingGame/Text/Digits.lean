/-!
# Digits

Numbers as they are spelt in some base, and read back.
-/

namespace GuessingGame.Text

def hexDigit? (c : Char) : Option Nat :=
  if c.isDigit then some (c.toNat - 48)
  else if 'a' ≤ c ∧ c ≤ 'f' then some (c.toNat - 87)
  else if 'A' ≤ c ∧ c ≤ 'F' then some (c.toNat - 55)
  else none

/-- The value of hexadecimal digits, the highest first. -/
def hexValue? (digits : List Char) : Option Nat :=
  digits.foldl (fun value? c => value?.bind fun value => (hexDigit? c).map (value * 16 + ·)) (some 0)

def hexDigit (value : Nat) : Char :=
  if value < 10 then Char.ofNat (48 + value) else Char.ofNat (87 + value)

def capitalHexDigit (value : Nat) : Char :=
  if value < 10 then Char.ofNat (48 + value) else Char.ofNat (55 + value)

/-- The last digits of a value in base sixteen, as many as asked for. -/
def hexDigits (digit : Nat → Char) : Nat → Nat → List Char
  | 0, _ => []
  | count + 1, value => hexDigits digit count (value / 16) ++ [digit (value % 16)]

/-- A text that spells a number of at most sixty-four bits in decimal digits. -/
def word? (digits : List Char) : Option UInt64 :=
  let value := Nat.ofDigitChars 10 digits 0
  if digits ≠ [] ∧ digits.all Char.isDigit ∧ value < UInt64.size then some (UInt64.ofNat value)
  else none

end GuessingGame.Text
