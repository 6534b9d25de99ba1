/-!
# Reading YAML text

A text is read from left to right with its line and column in view, for both
carry meaning. Of the five ways to end a line, three are read as a newline; the
separators of lines and paragraphs stay what they are. A mark of the order of
bytes is a character like others: it takes a column of its line. So the scanner below
serde_yaml 0.9 is assumed to count.
-/

namespace GuessingGame.Yaml

/-- The text still to be read and the place of its first character: its line, and
how many characters and how many bytes stand before it there. -/
structure Cursor where
  rest : List Char
  line : Nat := 0
  column : Nat := 0
  offset : Nat := 0
  deriving Repr

def isBlank (c : Char) : Bool := c == ' ' || c == '\t'

def isBreak (c : Char) : Bool := c == '\n' || c.toNat == 0x2028 || c.toNat == 0x2029

def isNameChar (c : Char) : Bool := c.isAlphanum || c == '_' || c == '-'

def isAllowed (c : Char) : Bool :=
  let n := c.toNat
  n == 9 || n == 10 || n == 13 || (0x20 ≤ n && n ≤ 0x7e) || n == 0x85 ||
    (0xa0 ≤ n && n ≤ 0xfffd) || 0x10000 ≤ n

def isByteOrderMark (c : Char) : Bool := c.toNat == 0xfeff

/-- A text in which every line of the common three kinds ends with a newline. -/
def unifyBreaks : List Char → List Char
  | [] => []
  | c :: rest =>
    if c = '\r' then
      if rest.head? = some '\n' then unifyBreaks rest else '\n' :: unifyBreaks rest
    else if c.toNat = 0x85 then '\n' :: unifyBreaks rest
    else c :: unifyBreaks rest

namespace Cursor

/-- The cursor at the head of a text, if it may be read at all. -/
def ofText? (text : List Char) : Option Cursor :=
  if text.all isAllowed then some { rest := unifyBreaks text } else none

def peek? (cursor : Cursor) (ahead : Nat) : Option Char := cursor.rest[ahead]?

def at? (cursor : Cursor) (c : Char) : Bool := cursor.rest.head? == some c

/-- Whether the character some places ahead is a blank, ends a line or is missing. -/
def endsWord (cursor : Cursor) (ahead : Nat) : Bool :=
  match cursor.peek? ahead with
  | none => true
  | some c => isBlank c || isBreak c

def endsLine (cursor : Cursor) : Bool :=
  match cursor.rest with
  | [] => true
  | c :: _ => isBreak c

def next (cursor : Cursor) : Cursor :=
  match cursor.rest with
  | [] => cursor
  | c :: rest =>
    if isBreak c then { rest, line := cursor.line + 1 }
    else { cursor with rest, column := cursor.column + 1, offset := cursor.offset + c.utf8Size }

def skip (cursor : Cursor) : Nat → Cursor
  | 0 => cursor
  | count + 1 => cursor.next.skip count

def run (cursor : Cursor) (p : Char → Bool) : List Char := cursor.rest.takeWhile p

def skipRun (cursor : Cursor) (p : Char → Bool) : Cursor := cursor.skip (cursor.run p).length

def skipComment (cursor : Cursor) : Cursor :=
  if cursor.at? '#' then cursor.skipRun (!isBreak ·) else cursor

/-- The cursor behind the rest of a line that holds at most a comment. -/
def skipLineEnd? (cursor : Cursor) : Option Cursor :=
  let behind := (cursor.skipRun isBlank).skipComment
  if behind.endsLine then some behind.next else none

/-- Whether three of a character stand alone at the head of a line. -/
def isMarker (cursor : Cursor) (c : Char) : Bool :=
  cursor.column == 0 && cursor.peek? 0 == some c && cursor.peek? 1 == some c &&
    cursor.peek? 2 == some c && cursor.endsWord 3

def isDocumentMarker (cursor : Cursor) : Bool := cursor.isMarker '-' || cursor.isMarker '.'

end Cursor

end GuessingGame.Yaml
