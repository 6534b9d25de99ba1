import GuessingGame.Json.Token

/-!
# JSON documents

A document is one value and nothing else. Its value keeps what a reader of
records may ask for: how a number was spelt, and the members of an object in
their order, with every one of two that share a name.

JSON is read and written by serde_json 1. The modules of `Json` assume of it that it
takes the documents of the standard and no others, and how it spells a value.
-/

namespace GuessingGame

inductive Json where
  | null
  | bool (value : Bool)
  | number (digits : List Char)
  | string (text : Option (List Char))
  | array (items : List Json)
  | object (members : List (Option (List Char) × Json))

namespace Json

mutual

/-- The value at the head of a row of tokens, and the tokens behind it. Every
value takes a token, so twice as much fuel as there are tokens is enough. -/
def value? : Nat → List Token → Option (Json × List Token)
  | 0, _ => none
  | fuel + 1, tokens =>
    match tokens with
    | .null :: rest => some (.null, rest)
    | .bool value :: rest => some (.bool value, rest)
    | .number digits :: rest => some (.number digits, rest)
    | .string text :: rest => some (.string text, rest)
    | .openBracket :: .closeBracket :: rest => some (.array [], rest)
    | .openBracket :: rest => (items? fuel rest).map fun (items, rest) => (.array items, rest)
    | .openBrace :: .closeBrace :: rest => some (.object [], rest)
    | .openBrace :: rest =>
      (members? fuel rest).map fun (members, rest) => (.object members, rest)
    | _ => none

/-- The items of an array through its closing bracket. -/
def items? : Nat → List Token → Option (List Json × List Token)
  | 0, _ => none
  | fuel + 1, tokens =>
    match value? fuel tokens with
    | some (item, .closeBracket :: rest) => some ([item], rest)
    | some (item, .comma :: rest) =>
      (items? fuel rest).map fun (items, rest) => (item :: items, rest)
    | _ => none

/-- The members of an object through its closing brace. -/
def members? : Nat → List Token → Option (List (Option (List Char) × Json) × List Token)
  | 0, _ => none
  | fuel + 1, tokens =>
    match tokens with
    | .string name :: .colon :: rest =>
      match value? fuel rest with
      | some (value, .closeBrace :: rest) => some ([(name, value)], rest)
      | some (value, .comma :: rest) =>
        (members? fuel rest).map fun (members, rest) => ((name, value) :: members, rest)
      | _ => none
    | _ => none

end

def ofTokens? (tokens : List Token) : Option Json :=
  match value? (2 * tokens.length) tokens with
  | some (value, []) => some value
  | _ => none

/-- The value that a text is. -/
def parse? (text : String) : Option Json := (tokens? text.toList).bind ofTokens?

end Json

end GuessingGame
