import GuessingGame.Json.Basic

/-!
# Writing JSON

A value is written on one line without blanks, or with every item and member on
a line of its own, two columns further in than the line of its bracket. The two
differ in nothing but blanks between tokens. Strings are written as they are but
for quotes, backslashes and control characters. The two are the compact and the pretty
spelling of serde_json 1, as they are assumed to be.
-/

namespace GuessingGame.Json

open GuessingGame.Text

inductive Layout where
  | compact
  | indented
  deriving DecidableEq, Repr

namespace Layout

/-- What stands before an item or a closing bracket at some depth. -/
def lineBreak (layout : Layout) (depth : Nat) : List Char :=
  match layout with
  | .compact => []
  | .indented => '\n' :: List.replicate (2 * depth) ' '

/-- What stands between the name and the value of a member. -/
def colon : Layout → List Char
  | .compact => [':']
  | .indented => [':', ' ']

end Layout

def escaped (c : Char) : List Char :=
  if c = '"' ∨ c = '\\' then ['\\', c]
  else if c = '\n' then ['\\', 'n']
  else if c = '\r' then ['\\', 'r']
  else if c = '\t' then ['\\', 't']
  else if c.toNat = 8 then ['\\', 'b']
  else if c.toNat = 12 then ['\\', 'f']
  else if c.toNat < 0x20 then '\\' :: 'u' :: hexDigits hexDigit 4 c.toNat
  else [c]

/-- A string in its quotes. One that has no value is half a pair of units. -/
def quoted (text : Option (List Char)) : List Char :=
  '"' :: (match text with
    | some cs => cs.flatMap escaped
    | none => "\\ud800".toList) ++ ['"']

/-- The pieces between two brackets, separated by commas. -/
def bracketed (layout : Layout) (depth : Nat) (opening closing : Char)
    (pieces : List (List Char)) : List Char :=
  match pieces with
  | [] => [opening, closing]
  | first :: more =>
    opening :: layout.lineBreak (depth + 1) ++ first ++
      more.flatMap (fun piece => ',' :: layout.lineBreak (depth + 1) ++ piece) ++
      layout.lineBreak depth ++ [closing]

mutual

/-- A value written at some depth. -/
def written (layout : Layout) (depth : Nat) : Json → List Char
  | .null => "null".toList
  | .bool true => "true".toList
  | .bool false => "false".toList
  | .number digits => digits
  | .string text => quoted text
  | .array items => bracketed layout depth '[' ']' (writtenItems layout (depth + 1) items)
  | .object members => bracketed layout depth '{' '}' (writtenMembers layout (depth + 1) members)

def writtenItems (layout : Layout) (depth : Nat) : List Json → List (List Char)
  | [] => []
  | item :: items => written layout depth item :: writtenItems layout depth items

def writtenMembers (layout : Layout) (depth : Nat) :
    List (Option (List Char) × Json) → List (List Char)
  | [] => []
  | (name, value) :: members =>
    (quoted name ++ layout.colon ++ written layout depth value) ::
      writtenMembers layout depth members

end

/-- The text of a value. -/
def print (layout : Layout) (value : Json) : String := String.ofList (written layout 0 value)

end GuessingGame.Json
