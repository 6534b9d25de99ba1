import GuessingGame.Text.Digits
import GuessingGame.Yaml.Cursor

/-!
# Scalars

The text of a scalar in each of its spellings: plain, between single or double
quotes, and as a block of lines. In the first three a text may go on over
several lines: a single break between words counts as a space, and of several
the first is dropped. Where a scalar ends is assumed of serde_yaml 0.9.
-/

namespace GuessingGame.Yaml

open GuessingGame.Text

inductive Style where
  | plain
  | singleQuoted
  | doubleQuoted
  | literal
  | folded
  deriving DecidableEq, Repr

def isGapChar (c : Char) : Bool := isBlank c || isBreak c

/-- What a run of blanks and breaks between two words stands for. -/
def folded (gap : List Char) : List Char :=
  match gap.filter isBreak with
  | [] => gap
  | first :: more =>
    if first = '\n' then (if more = [] then [' '] else more) else first :: more

/-- Whether a tab stands before some column of a line that starts in a run. -/
def hasEarlyTab (indent : Nat) : Option Nat → List Char → Bool
  | _, [] => false
  | column?, c :: rest =>
    if isBreak c then hasEarlyTab indent (some 0) rest
    else match column? with
      | none => hasEarlyTab indent none rest
      | some column =>
        (c == '\t' && column < indent) || hasEarlyTab indent (some (column + 1)) rest

/-- A mark that stands for itself only outside brackets. -/
def isFlowMark (c : Char) : Bool := c == ',' || c == '[' || c == ']' || c == '{' || c == '}'

/-- The word of a plain scalar at the head of a text. Between brackets a colon
before a mark is refused. -/
def plainWord? (flow : Bool) : List Char → Option (List Char)
  | [] => some []
  | c :: rest =>
    let next? := rest.head?
    if isGapChar c then some []
    else if flow && c == ':' && (next?.map fun n => isFlowMark n || n == '?').getD false then none
    else if c == ':' && (next?.map isGapChar).getD true then some []
    else if flow && isFlowMark c then some []
    else (plainWord? flow rest).map (c :: ·)

/-- A plain scalar that was read up to a gap: its text, whether a line ended in
the gap behind it, and the cursor behind all. Its lines start no further left
than the indentation. -/
def plainFrom (flow : Bool) (indent : Nat) : Nat → List Char → List Char → Cursor →
    Option (List Char × Bool × Cursor)
  | 0, _, _, _ => none
  | fuel + 1, text, gap, cursor =>
    if cursor.isDocumentMarker || cursor.at? '#' then some (text, gap.any isBreak, cursor)
    else do
      let word ← plainWord? flow cursor.rest
      let behind := cursor.skip word.length
      let text := if word = [] then text else text ++ folded gap ++ word
      let left := if word = [] then gap else []
      let gap := behind.run isGapChar
      if gap = [] then return (text, left.any isBreak, behind)
      else if hasEarlyTab indent none gap then none
      else
        let behind := behind.skip gap.length
        if !flow && behind.column < indent then return (text, gap.any isBreak, behind)
        else plainFrom flow indent fuel text gap behind

def plain? (flow : Bool) (indent : Nat) (cursor : Cursor) :
    Option (List Char × Bool × Cursor) :=
  plainFrom flow indent (cursor.rest.length + 1) [] [] cursor

/-- What a backslash and a character stand for, unless digits follow. -/
def escape? (c : Char) : Option Nat :=
  match c with
  | '0' => some 0
  | 'a' => some 7
  | 'b' => some 8
  | 't' => some 9
  | '\t' => some 9
  | 'n' => some 10
  | 'v' => some 11
  | 'f' => some 12
  | 'r' => some 13
  | 'e' => some 27
  | ' ' => some 0x20
  | '"' => some 0x22
  | '/' => some 0x2f
  | '\\' => some 0x5c
  | 'N' => some 0x85
  | '_' => some 0xa0
  | 'L' => some 0x2028
  | 'P' => some 0x2029
  | _ => none

def escapeDigits? (c : Char) : Option Nat :=
  match c with
  | 'x' => some 2
  | 'u' => some 4
  | 'U' => some 8
  | _ => none

/-- What stands at the head of a piece of quoted text without blanks. -/
inductive QuotedPiece where
  | char (c : Char) (length : Nat)
  | closing
  | joinedLine
  | gap
  deriving DecidableEq, Repr

def quotedPiece? (double : Bool) (cursor : Cursor) : Option QuotedPiece :=
  match cursor.rest with
  | [] => none
  | c :: rest =>
    if isGapChar c then some .gap
    else if double then
      if c = '"' then some .closing
      else if c = '\\' then
        match rest with
        | [] => none
        | e :: rest =>
          if isBreak e then some .joinedLine
          else match escapeDigits? e with
            | none => (escape? e).map fun n => .char (Char.ofNat n) 2
            | some count => do
              let value ← hexValue? (rest.take count)
              if rest.length < count ∨ !value.isValidChar then none
              else return .char (Char.ofNat value) (count + 2)
      else some (.char c 1)
    else if c.toNat = 0x27 then
      if (rest.head?.map Char.toNat) = some 0x27 then some (.char c 2) else some .closing
    else some (.char c 1)

/-- A quoted text that was read up to the cursor, and the cursor behind its
closing quote. -/
def quotedFrom (double : Bool) : Nat → List Char → Cursor → Option (List Char × Cursor)
  | 0, _, _ => none
  | fuel + 1, text, cursor => do
    match ← quotedPiece? double cursor with
    | .char c length => quotedFrom double fuel (text ++ [c]) (cursor.skip length)
    | .closing => return (text, cursor.next)
    | .joinedLine =>
      let cursor := cursor.skip 2
      if cursor.at? '"' then return (text, cursor.next)
      let gap := cursor.run isGapChar
      let behind := cursor.skip gap.length
      if behind.isDocumentMarker then none
      else quotedFrom double fuel (text ++ gap.filter isBreak) behind
    | .gap =>
      let gap := cursor.run isGapChar
      let behind := cursor.skip gap.length
      if behind.isDocumentMarker then none
      else quotedFrom double fuel (text ++ folded gap) behind

def quoted? (double : Bool) (cursor : Cursor) : Option (List Char × Cursor) :=
  quotedFrom double (cursor.rest.length + 1) [] cursor.next

/-- What becomes of the breaks at the end of a block. -/
inductive Chomping where
  | strip
  | clip
  | keep
  deriving DecidableEq, Repr

def chomping? (c : Char) : Option Chomping :=
  if c = '+' then some .keep else if c = '-' then some .strip else none

/-- The indentation that a digit asks for. Zero is no indentation. -/
def indentation? (c : Char) : Option (Option Nat) :=
  if c.isDigit then some (if c = '0' then none else some (c.toNat - 48)) else none

/-- The header of a block behind its mark: chomping, indentation if given, and
the cursor behind the header. -/
def blockHeader? (cursor : Cursor) : Option (Chomping × Nat × Cursor) :=
  match cursor.rest.head?.bind chomping?, cursor.rest.head?.bind indentation? with
  | some chomping, _ =>
    match (cursor.peek? 1).bind indentation? with
    | some (some indent) => some (chomping, indent, cursor.skip 2)
    | some none => none
    | none => some (chomping, 0, cursor.next)
  | none, some none => none
  | none, some (some indent) =>
    match (cursor.peek? 1).bind chomping? with
    | some chomping => some (chomping, indent, cursor.skip 2)
    | none => some (.clip, indent, cursor.next)
  | none, none => some (.clip, 0, cursor)

/-- Passes over the indentation of a line and the blank lines before it. While
no indentation is known it is zero, and all leading spaces are passed. Gives the
breaks passed, the widest column reached and the cursor. -/
def blankLines? (indent : Nat) : Nat → List Char → Nat → Cursor →
    Option (List Char × Nat × Cursor)
  | 0, _, _, _ => none
  | fuel + 1, breaks, widest, cursor =>
    let spaces := (cursor.run (· == ' ')).length
    let cursor := cursor.skip (if indent = 0 then spaces else min spaces (indent - cursor.column))
    let widest := max widest cursor.column
    if (indent = 0 || cursor.column < indent) && cursor.at? '\t' then none
    else match cursor.rest with
      | c :: _ =>
        if isBreak c then blankLines? indent fuel (breaks ++ [c]) widest cursor.next
        else some (breaks, widest, cursor)
      | [] => some (breaks, widest, cursor)

/-- The lines of a block behind what was read. The text so far ends before the
break that ended its last line; more breaks may have followed. -/
def blockFrom? (keepBreaks : Bool) (indent : Nat) : Nat → List Char → List Char → Bool →
    List Char → Cursor → Option (List Char × List Char × List Char × Cursor)
  | 0, _, _, _, _, _ => none
  | fuel + 1, text, lineBreak, indented, breaks, cursor =>
    if cursor.column ≠ indent || cursor.rest = [] then some (text, lineBreak, breaks, cursor)
    else do
      let blank := (cursor.rest.head?.map isBlank).getD false
      let joint :=
        if !keepBreaks && lineBreak = ['\n'] && !indented && !blank then
          (if breaks = [] then [' '] else [])
        else lineBreak
      let line := cursor.run (!isBreak ·)
      let behind := cursor.skip line.length
      let lineBreak := behind.rest.take 1
      let behind := behind.next
      let (more, _, behind) ← blankLines? indent (behind.rest.length + 1) [] 0 behind
      blockFrom? keepBreaks indent fuel (text ++ joint ++ breaks ++ line) lineBreak blank more behind

/-- The text of the block whose mark stands at the cursor, inside a collection
of some indentation. -/
def block? (keepBreaks : Bool) (outer : Option Nat) (cursor : Cursor) :
    Option (List Char × Cursor) := do
  let (chomping, extra, cursor) ← blockHeader? cursor.next
  let cursor ← cursor.skipLineEnd?
  let given := if extra = 0 then 0 else outer.getD 0 + extra
  let (breaks, widest, cursor) ← blankLines? given (cursor.rest.length + 1) [] 0 cursor
  let indent := if given ≠ 0 then given else max (max widest ((outer.map (· + 1)).getD 0)) 1
  let (text, lineBreak, breaks, cursor) ←
    blockFrom? keepBreaks indent (cursor.rest.length + 1) [] [] false breaks cursor
  return (match chomping with
    | .strip => text
    | .clip => text ++ lineBreak
    | .keep => text ++ lineBreak ++ breaks, cursor)

end GuessingGame.Yaml
