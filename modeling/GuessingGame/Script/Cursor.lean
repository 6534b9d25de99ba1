import GuessingGame.Script.Fault
import GuessingGame.Text.Blank
import GuessingGame.Text.Numeric

/-!
# Reading tokens

A cursor is the text still to be read and the place of its first character.
Reading a token passes over blanks and comments, then takes the longest lexeme
that stands there; the place moves over exactly the characters taken. A text
that opens a quote and never closes it is one lexeme up to the end.

A character that starts no lexeme is not taken, so the same fault is found
again; a wrong word and a number that is too large are taken whole.
-/

namespace GuessingGame.Script

open GuessingGame.Text

/-- The text still to be read and the place of its first character. -/
structure Cursor where
  rest : List Char
  place : Place
  deriving DecidableEq, Repr

def isWordChar (c : Char) : Bool := isAlphanumeric c || c == '_'

/-- The blanks and comments at the head of a text, which may start inside a
comment. A comment runs from two slashes through the end of its line. -/
def trivia (comment : Bool) : List Char → List Char
  | [] => []
  | c :: rest =>
    if comment then c :: trivia (c != '\n') rest
    else if isBlank c then c :: trivia false rest
    else if c = '/' ∧ rest.head? = some '/' then c :: trivia true rest
    else []

/-- The number that a run of decimal digits stands for, if it has at most
sixty-four bits. -/
def number? (digits : List Char) : Option UInt64 :=
  let value := Nat.ofDigitChars 10 digits 0
  if value < UInt64.size then some (UInt64.ofNat value) else none

/-- What stands at the head of a text, and the characters that it takes. -/
def lexemeAt : List Char → Except Cause Lexeme × List Char
  | [] => (.ok .endOfInput, [])
  | c :: rest =>
    if isAlphabetic c then
      let word := (c :: rest).takeWhile isWordChar
      match Keyword.ofWord? (String.ofList word) with
      | some k => (.ok (.keyword k), word)
      | none => (.error (.unknownKeyword (String.ofList word)), word)
    else if c = '"' then
      let body := rest.takeWhile (· ≠ '"')
      (.ok (.string (String.ofList body)), c :: rest.take (body.length + 1))
    else if c.isDigit then
      let digits := (c :: rest).takeWhile Char.isDigit
      match number? digits with
      | some value => (.ok (.integer value), digits)
      | none => (.error (.invalidInteger (String.ofList digits)), digits)
    else if c = ';' then (.ok .semicolon, [c])
    else (.error (.illegalCharacter c), [])

namespace Cursor

def ofText (text : String) : Cursor := ⟨text.toList, .start⟩

/-- The cursor behind a piece of text that stands at its head. -/
def behind (cursor : Cursor) (taken : List Char) : Cursor :=
  ⟨cursor.rest.drop taken.length, cursor.place.afterAll taken⟩

def skipTrivia (cursor : Cursor) : Cursor := cursor.behind (trivia false cursor.rest)

/-- The next token, or the fault found instead, and the cursor behind it. -/
def next (cursor : Cursor) : Except Fault Token × Cursor :=
  let here := cursor.skipTrivia
  let (found, taken) := lexemeAt here.rest
  (match found with
    | .ok lexeme => .ok ⟨lexeme, here.place⟩
    | .error cause => .error ⟨cause, here.place⟩,
   here.behind taken)

end Cursor

theorem trivia_isPrefix (comment : Bool) (text : List Char) : trivia comment text <+: text := by
  induction text generalizing comment with
  | nil => exact List.nil_prefix
  | cons c rest ih =>
    unfold trivia
    split
    · exact (List.cons_prefix_cons).2 ⟨rfl, ih _⟩
    · split
      · exact (List.cons_prefix_cons).2 ⟨rfl, ih _⟩
      · split
        · exact (List.cons_prefix_cons).2 ⟨rfl, ih _⟩
        · exact List.nil_prefix

theorem lexemeAt_isPrefix (text : List Char) : (lexemeAt text).2 <+: text := by
  unfold lexemeAt
  split
  · exact List.nil_prefix
  · rename_i c rest
    split
    · dsimp only
      split <;> exact List.takeWhile_prefix _
    · split
      · exact (List.cons_prefix_cons).2 ⟨rfl, List.take_prefix _ _⟩
      · split
        · dsimp only
          split <;> exact List.takeWhile_prefix _
        · split
          · exact (List.cons_prefix_cons).2 ⟨rfl, List.nil_prefix⟩
          · exact List.nil_prefix

/-- A lexeme other than the end takes at least one character. -/
theorem length_pos_of_lexemeAt {text : List Char} {lexeme : Lexeme}
    (found : (lexemeAt text).1 = .ok lexeme) (ne : lexeme ≠ .endOfInput) :
    0 < (lexemeAt text).2.length := by
  unfold lexemeAt at found ⊢
  split at found
  · cases found
    exact absurd rfl ne
  · rename_i c rest
    dsimp only at found ⊢
    split
    · rename_i alphabetic
      have word : isWordChar c = true := by
        simp [isWordChar, isAlphanumeric_of_isAlphabetic alphabetic]
      split <;> simp [word]
    · split
      · simp
      · split
        · rename_i digit
          split <;> simp [digit]
        · split
          · simp
          · rename_i h1 h2 h3 h4
            simp [h1, h2, h3, h4] at found

namespace Cursor

theorem length_skipTrivia_le (cursor : Cursor) :
    cursor.skipTrivia.rest.length ≤ cursor.rest.length := by
  simp [skipTrivia, behind]

/-- Reading never moves back. -/
theorem length_next_le (cursor : Cursor) : cursor.next.2.rest.length ≤ cursor.rest.length := by
  have h := cursor.length_skipTrivia_le
  simp only [next, behind, List.length_drop]
  omega

/-- A token other than the end leaves less to read. -/
theorem length_next_lt {cursor after : Cursor} {token : Token}
    (found : cursor.next = (.ok token, after)) (ne : token.lexeme ≠ .endOfInput) :
    after.rest.length < cursor.rest.length := by
  have trivial := cursor.length_skipTrivia_le
  have taken := (lexemeAt_isPrefix cursor.skipTrivia.rest).length_le
  simp only [next, Prod.mk.injEq] at found
  obtain ⟨result, rfl⟩ := found
  have positive : 0 < (lexemeAt cursor.skipTrivia.rest).2.length := by
    split at result
    · rename_i lexeme h
      cases result
      exact length_pos_of_lexemeAt h ne
    · cases result
  simp only [behind, List.length_drop]
  omega

/-- Every token up to the end, which comes last, or the first fault. -/
def tokens (cursor : Cursor) : Except Fault (List Token) :=
  match _found : cursor.next with
  | (.error fault, _) => .error fault
  | (.ok token, following) =>
    if _last : token.lexeme = .endOfInput then .ok [token]
    else following.tokens.map (token :: ·)
termination_by cursor.rest.length
decreasing_by exact length_next_lt _found _last

/-- The first `count` results of reading, going on after faults. -/
def results (cursor : Cursor) : Nat → List (Except Fault Token)
  | 0 => []
  | count + 1 => cursor.next.1 :: cursor.next.2.results count

end Cursor

/-- The tokens of a script, ending with the end of input, or its first lexical fault. -/
def tokenize (text : String) : Except Fault (List Token) := (Cursor.ofText text).tokens

end GuessingGame.Script
