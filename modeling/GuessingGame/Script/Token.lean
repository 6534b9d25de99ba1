import GuessingGame.Script.Place

/-!
# Tokens of a script

A script is made of six keywords, quoted texts, numbers and semicolons. A token
is a lexeme with its place; its kind is what the grammar looks at and what an
error message names.
-/

namespace GuessingGame.Script

/-- The closed set of keywords. There are no other words. -/
inductive Keyword where
  | game
  | maxLives
  | level
  | target
  | hint
  | solve
  deriving DecidableEq, Repr

namespace Keyword

/-- Every keyword, in the order in which messages list them. -/
def all : List Keyword := [game, maxLives, level, target, hint, solve]

def word : Keyword → String
  | game => "GAME"
  | maxLives => "MAX_LIVES"
  | level => "LEVEL"
  | target => "TARGET"
  | hint => "HINT"
  | solve => "SOLVE"

/-- The keyword with a given spelling; the case of every letter counts. -/
def ofWord? (text : String) : Option Keyword := all.find? (·.word = text)

theorem mem_all (k : Keyword) : k ∈ all := by cases k <;> decide

@[simp] theorem ofWord?_word (k : Keyword) : ofWord? k.word = some k := by
  cases k <;> decide

theorem word_of_ofWord? {text : String} {k : Keyword} (h : ofWord? text = some k) :
    k.word = text := by
  simpa using List.find?_some h

end Keyword

/-- What the grammar sees of a token. -/
inductive TokenKind where
  | keyword (word : Keyword)
  | string
  | integer
  | semicolon
  | endOfInput
  deriving DecidableEq, Repr

namespace TokenKind

def name : TokenKind → String
  | keyword k => k.word
  | string => "STRING"
  | integer => "INT"
  | semicolon => "SEMICOLON"
  | endOfInput => "EOF"

def statementStarts : List TokenKind := Keyword.all.map keyword

end TokenKind

/-- A token without its place. Numbers have sixty-four bits. -/
inductive Lexeme where
  | keyword (word : Keyword)
  | string (text : String)
  | integer (value : UInt64)
  | semicolon
  | endOfInput
  deriving DecidableEq, Repr

namespace Lexeme

def kind : Lexeme → TokenKind
  | keyword k => .keyword k
  | string _ => .string
  | integer _ => .integer
  | semicolon => .semicolon
  | endOfInput => .endOfInput

/-- The text that a lexeme carries: the spelling of a keyword, the contents of
a quoted text, or the semicolon itself. -/
def text? : Lexeme → Option String
  | keyword k => some k.word
  | string text => some text
  | integer _ => none
  | semicolon => some ";"
  | endOfInput => none

def value? : Lexeme → Option UInt64
  | integer value => some value
  | _ => none

end Lexeme

structure Token where
  lexeme : Lexeme
  place : Place
  deriving DecidableEq, Repr

def Token.kind (token : Token) : TokenKind := token.lexeme.kind

end GuessingGame.Script
