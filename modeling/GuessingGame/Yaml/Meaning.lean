import GuessingGame.Text.Digits

/-!
# What a plain scalar may mean

A plain scalar can stand for nothing, for a truth value or for a number as well
as for its text. A text that could be taken for one of these has to be quoted. Which
texts they are is assumed of serde_yaml 0.9.
-/

namespace GuessingGame.Yaml

open GuessingGame.Text

def isNull (text : List Char) : Bool := ["null", "Null", "NULL", "~"].contains (String.ofList text)

/-- The truth value that a text spells. -/
def truth? (text : List Char) : Option Bool :=
  if ["true", "True", "TRUE"].contains (String.ofList text) then some true
  else if ["false", "False", "FALSE"].contains (String.ofList text) then some false
  else none

def digits? (base : Nat) (digits : List Char) : Option Nat := do
  if digits = [] then none
  let values ← digits.mapM hexDigit?
  if values.all (· < base) then return values.foldl (fun value digit => value * base + digit) 0
  else none

/-- The value of digits behind the mark of their base. -/
def marked? : List Char → Option Nat
  | '0' :: 'x' :: digits => digits? 16 digits
  | '0' :: 'o' :: digits => digits? 8 digits
  | '0' :: 'b' :: digits => digits? 2 digits
  | _ => none

/-- Whether a text is a row of decimal digits that starts with a needless zero. -/
def isPadded (text : List Char) : Bool :=
  2 ≤ text.length && text.head? == some '0' && text.all Char.isDigit

/-- The number below a limit that a text without sign spells: in base ten without
leading zeros, or with a mark for base sixteen, eight or two. -/
def unsigned? (limit : Nat) (text : List Char) : Option Nat :=
  match (marked? text).filter (· < limit) with
  | some value => some value
  | none => if isPadded text then none else (digits? 10 text).filter (· < limit)

def dropPlus (text : List Char) : List Char := if text.head? = some '+' then text.tail else text

/-- The number of at most sixty-four bits that a text spells. -/
def word? (text : List Char) : Option UInt64 :=
  (unsigned? UInt64.size (dropPlus text)).map UInt64.ofNat

/-- Whether a text spells a whole number, of either sign, of at most 128 bits. -/
def isWhole (text : List Char) : Bool :=
  (unsigned? (Nat.pow 2 128) (dropPlus text)).isSome ||
    (text.head? == some '-' && (unsigned? (Nat.pow 2 127 + 1) text.tail).isSome)

/-- The digits before and behind the point of a decimal, and its exponent. -/
structure Decimal where
  digits : List Char
  places : Nat
  exponent : Int

/-- The exponent that a text is, where none is zero. -/
def exponent? : List Char → Option Int
  | [] => some 0
  | e :: rest =>
    if e = 'e' ∨ e = 'E' then
      let negative := rest.head? = some '-'
      let digits := if negative ∨ rest.head? = some '+' then rest.tail else rest
      if digits.all Char.isDigit then
        (digits? 10 digits).map fun value => if negative then -(value : Int) else value
      else none
    else none

/-- The decimal that a text without sign is. There is a digit on one side of the
point at least. -/
def decimal? (text : List Char) : Option Decimal :=
  let whole := text.takeWhile Char.isDigit
  let behind := text.dropWhile Char.isDigit
  let pointed := behind.head? = some '.'
  let places := if pointed then behind.tail.takeWhile Char.isDigit else []
  let behind := if pointed then behind.tail.dropWhile Char.isDigit else behind
  if whole = [] ∧ places = [] then none
  else (exponent? behind).map fun exponent => ⟨whole ++ places, places.length, exponent⟩

/-- Whether a decimal rounds to a finite number of double precision: the least
that does not is 2¹⁰²⁴ − 2⁹⁷⁰. -/
def Decimal.isFinite (decimal : Decimal) : Bool :=
  let digits := decimal.digits.dropWhile (· == '0')
  let value := Nat.ofDigitChars 10 digits 0
  let power : Int := decimal.exponent - decimal.places
  let size := digits.length + power
  if digits = [] || size < 300 then true
  else if 310 < size then false
  else if 0 ≤ power then value * Nat.pow 10 power.toNat < Nat.pow 2 1024 - Nat.pow 2 970
  else value < (Nat.pow 2 1024 - Nat.pow 2 970) * Nat.pow 10 (-power).toNat

/-- Whether a text spells a number with a point or an exponent, or one of those
beyond all others. -/
def isDecimal (text : List Char) : Bool :=
  let body := dropPlus text
  let name := String.ofList text
  let unsigned := if body.head? = some '-' ∧ text.head? = some '-' then body.tail else body
  [".inf", ".Inf", ".INF"].contains (String.ofList body) ||
    ["-.inf", "-.Inf", "-.INF", ".nan", ".NaN", ".NAN"].contains name ||
    ((decimal? unsigned).map Decimal.isFinite).getD false

/-- Whether a plain scalar of a text might be taken for something else. -/
def isAmbiguous (text : List Char) : Bool :=
  text = [] || isNull text || (truth? text).isSome || isWhole text ||
    isPadded (if text.head? = some '-' then text.tail else dropPlus text) || isDecimal text

end GuessingGame.Yaml
