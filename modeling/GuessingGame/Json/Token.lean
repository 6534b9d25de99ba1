import GuessingGame.Text.Digits

/-!
# The words of JSON

A JSON text is a row of tokens with blanks between them: marks, names, numbers
and strings. No two of the last three ever stand side by side in a document, so
each is read as far as its characters reach.

A string may spell a character by sixteen-bit units. Half a pair of them is
legal, but no text has it: such a string has no value. What is a token, and what is
refused as one, is assumed of serde_json 1.
-/

namespace GuessingGame.Json

open GuessingGame.Text

/-- The words of a JSON text. A number keeps its spelling. -/
inductive Token where
  | openBrace
  | closeBrace
  | openBracket
  | closeBracket
  | colon
  | comma
  | null
  | bool (value : Bool)
  | number (digits : List Char)
  | string (text : Option (List Char))
  deriving DecidableEq, Repr

/-- What a piece of a string spells: a character, or a sixteen-bit unit. -/
inductive Piece where
  | char (c : Char)
  | unit (value : Nat)
  deriving DecidableEq, Repr

/-- The character that a backslash and a letter stand for. -/
def shortEscape? (c : Char) : Option Char :=
  if c = '"' ∨ c = '\\' ∨ c = '/' then some c
  else if c = 'b' then some (Char.ofNat 8)
  else if c = 'f' then some (Char.ofNat 12)
  else if c = 'n' then some '\n'
  else if c = 'r' then some '\r'
  else if c = 't' then some '\t'
  else none

/-- The piece at the head of a string's body, and the text behind it. -/
def piece? : List Char → Option (Piece × List Char)
  | [] => none
  | c :: rest =>
    if c = '\\' then
      match rest with
      | [] => none
      | e :: rest =>
        if e = 'u' then
          (hexValue? (rest.take 4)).bind fun unit =>
            if 4 ≤ rest.length then some (.unit unit, rest.drop 4) else none
        else (shortEscape? e).map fun c => (.char c, rest)
    else if c.toNat < 0x20 then none
    else some (.char c, rest)

theorem length_piece?_lt {cs rest : List Char} {piece : Piece}
    (found : piece? cs = some (piece, rest)) : rest.length < cs.length := by
  unfold piece? at found
  split at found
  · cases found
  · split at found
    · split at found
      · cases found
      · split at found
        · obtain ⟨unit, _, h⟩ := Option.bind_eq_some_iff.1 found
          split at h
          · cases h
            simp only [List.length_drop, List.length_cons]
            omega
          · cases h
        · obtain ⟨c, _, h⟩ := Option.map_eq_some_iff.1 found
          cases h
          simp only [List.length_cons]
          omega
    · split at found
      · cases found
      · cases found
        simp

/-- The pieces of a string's body through its closing quote, and the text
behind the quote. -/
def pieces? (cs : List Char) : Option (List Piece × List Char) :=
  if cs.head? = some '"' then some ([], cs.tail)
  else
    match _found : piece? cs with
    | none => none
    | some (piece, rest) => (pieces? rest).map fun (more, rest) => (piece :: more, rest)
  termination_by cs.length
  decreasing_by exact length_piece?_lt _found

theorem length_pieces?_lt {cs rest : List Char} {pieces : List Piece}
    (found : pieces? cs = some (pieces, rest)) : rest.length < cs.length := by
  induction cs using pieces?.induct generalizing pieces rest with
  | case1 cs head =>
    rw [pieces?, if_pos head] at found
    cases found
    cases cs <;> simp_all
  | case2 cs head none =>
    rw [pieces?, if_neg head] at found
    split at found
    · cases found
    · simp_all
  | case3 cs head piece rest' some ih =>
    rw [pieces?, if_neg head] at found
    split at found
    · cases found
    · rename_i p r h
      rw [some] at h
      cases h
      obtain ⟨⟨more, last⟩, h, e⟩ := Option.map_eq_some_iff.1 found
      cases e
      have := ih h
      have := length_piece?_lt some
      omega

/-- The text that pieces spell. A unit of the first half of a pair must be
followed by one of the second half. -/
def spell? : List Piece → Option (List Char)
  | [] => some []
  | .char c :: rest => (spell? rest).map (c :: ·)
  | .unit high :: rest =>
    if high < 0xd800 ∨ 0xe000 ≤ high then (spell? rest).map (Char.ofNat high :: ·)
    else if 0xdc00 ≤ high then none
    else match rest with
      | .unit low :: rest =>
        if 0xdc00 ≤ low ∧ low < 0xe000 then
          (spell? rest).map (Char.ofNat (0x10000 + (high - 0xd800) * 0x400 + (low - 0xdc00)) :: ·)
        else none
      | _ => none

/-- Whether a text is empty or an exponent. -/
def isExponent : List Char → Bool
  | [] => true
  | e :: rest =>
    let digits := if rest.head? = some '+' ∨ rest.head? = some '-' then rest.tail else rest
    (e == 'e' || e == 'E') && digits ≠ [] && digits.all Char.isDigit

/-- Whether a text spells a number. A leading zero stands alone, and digits
stand on both sides of a point. -/
def isNumber (text : List Char) : Bool :=
  let text := if text.head? = some '-' then text.tail else text
  let whole := text.takeWhile Char.isDigit
  let rest := text.dropWhile Char.isDigit
  (whole = ['0'] || (whole ≠ [] && whole.head? ≠ some '0')) &&
    (if rest.head? = some '.' then
      rest.tail.takeWhile Char.isDigit ≠ [] && isExponent (rest.tail.dropWhile Char.isDigit)
    else isExponent rest)

def isNumberChar (c : Char) : Bool :=
  c.isDigit || c == '-' || c == '+' || c == '.' || c == 'e' || c == 'E'

def mark? (c : Char) : Option Token :=
  if c = '{' then some .openBrace
  else if c = '}' then some .closeBrace
  else if c = '[' then some .openBracket
  else if c = ']' then some .closeBracket
  else if c = ':' then some .colon
  else if c = ',' then some .comma
  else none

def name? (name : List Char) : Option Token :=
  if name = "null".toList then some .null
  else if name = "true".toList then some (.bool true)
  else if name = "false".toList then some (.bool false)
  else none

def isSpace (c : Char) : Bool := c == ' ' || c == '\n' || c == '\r' || c == '\t'

/-- The token at the head of a text that is not empty, and the text behind it. -/
def token? (c : Char) (rest : List Char) : Option (Token × List Char) :=
  match mark? c with
  | some token => some (token, rest)
  | none =>
    if c = '"' then
      (pieces? rest).map fun (pieces, rest) => (.string (spell? pieces), rest)
    else if c.isDigit ∨ c = '-' then
      let number := c :: rest.takeWhile isNumberChar
      if isNumber number then some (.number number, rest.dropWhile isNumberChar) else none
    else (name? (c :: rest.takeWhile Char.isLower)).map (·, rest.dropWhile Char.isLower)

theorem length_token?_le {c : Char} {cs rest : List Char} {token : Token}
    (found : token? c cs = some (token, rest)) : rest.length ≤ cs.length := by
  unfold token? at found
  split at found
  · cases found
    exact Nat.le_refl _
  · split at found
    · obtain ⟨⟨pieces, last⟩, h, e⟩ := Option.map_eq_some_iff.1 found
      cases e
      exact Nat.le_of_lt (length_pieces?_lt h)
    · split at found
      · dsimp only at found
        split at found
        · cases found
          exact (List.dropWhile_suffix _).length_le
        · cases found
      · obtain ⟨token, _, e⟩ := Option.map_eq_some_iff.1 found
        cases e
        exact (List.dropWhile_suffix _).length_le

/-- The tokens of a text. -/
def tokens? : List Char → Option (List Token)
  | [] => some []
  | c :: cs =>
    if isSpace c then tokens? cs
    else
      match _found : token? c cs with
      | none => none
      | some (token, rest) => (tokens? rest).map (token :: ·)
  termination_by cs => cs.length
  decreasing_by
    · simp
    · have := length_token?_le _found
      simp only [List.length_cons]
      omega

end GuessingGame.Json
