import GuessingGame.Yaml.Scalar
import GuessingGame.Yaml.Tag

/-!
# The words of YAML

Indentation opens and closes block collections, so the tokens have marks for
both that stand nowhere in the text. A key needs no mark of its own: where one
may begin, the place is remembered, and the colon that follows it on the same
line makes it one. The tokens are those of the scanner below serde_yaml 0.9, which is
assumed to make them so.
-/

namespace GuessingGame.Yaml

inductive Token where
  | directive (value : Directive)
  | documentStart
  | documentEnd
  | blockSequenceStart
  | blockMappingStart
  | blockEnd
  | flowSequenceStart
  | flowSequenceEnd
  | flowMappingStart
  | flowMappingEnd
  | blockEntry
  | flowEntry
  | key
  | value
  | alias (name : List Char)
  | anchor (name : List Char)
  | tag (value : Tag)
  | scalar (style : Style) (text : List Char)
  deriving DecidableEq, Repr

/-- A place where a key may have begun, by its token and its place in the text. -/
structure PossibleKey where
  required : Bool
  token : Nat
  line : Nat
  column : Nat
  offset : Nat
  deriving Repr

/-- What is known between two tokens: the cursor, the tokens so far, the open
block collections and for each open bracket, and outside of them, where a key
may have begun; the innermost stand first. -/
structure Lexer where
  cursor : Cursor
  tokens : List Token := []
  indents : List Nat := []
  outerKey : Option PossibleKey := none
  flowKeys : List (Option PossibleKey) := []
  keyAllowed : Bool := true
  deriving Repr

namespace Lexer

def inFlow (lexer : Lexer) : Bool := lexer.flowKeys ≠ []

def key? (lexer : Lexer) : Option PossibleKey :=
  match lexer.flowKeys with
  | [] => lexer.outerKey
  | key? :: _ => key?

def setKey (lexer : Lexer) (key? : Option PossibleKey) : Lexer :=
  match lexer.flowKeys with
  | [] => { lexer with outerKey := key? }
  | _ :: outer => { lexer with flowKeys := key? :: outer }

def push (lexer : Lexer) (token : Token) : Lexer := { lexer with tokens := lexer.tokens ++ [token] }

def insert (lexer : Lexer) (place : Nat) (token : Token) : Lexer :=
  { lexer with tokens := lexer.tokens.take place ++ token :: lexer.tokens.drop place }

/-- Gives up a key that never came, unless there had to be one. -/
def dropKey? (lexer : Lexer) : Option Lexer :=
  if (lexer.key?.map PossibleKey.required).getD false then none else some (lexer.setKey none)

def saveKey? (lexer : Lexer) : Option Lexer :=
  if lexer.keyAllowed then do
    let required := !lexer.inFlow && lexer.indents.head? == some lexer.cursor.column
    let lexer ← lexer.dropKey?
    return lexer.setKey (some ⟨required, lexer.tokens.length, lexer.cursor.line,
      lexer.cursor.column, lexer.cursor.offset⟩)
  else some lexer

/-- Whether a key that began at a place can no longer be one: it fits on a line
and has at most 1024 bytes. -/
def isStale (cursor : Cursor) (key : PossibleKey) : Bool :=
  key.line < cursor.line || key.offset + 1024 < cursor.offset

/-- A possible key that may still come. Fails if it had to be one. -/
def freshKey? (cursor : Cursor) (key? : Option PossibleKey) : Option (Option PossibleKey) :=
  match key? with
  | none => some none
  | some key =>
    if isStale cursor key then (if key.required then none else some none) else some (some key)

def dropStale? (lexer : Lexer) : Option Lexer := do
  return { lexer with
    outerKey := ← freshKey? lexer.cursor lexer.outerKey
    flowKeys := ← lexer.flowKeys.mapM (freshKey? lexer.cursor) }

/-- Closes the block collections that stand further in than a column, or all. -/
def unroll (lexer : Lexer) (column? : Option Nat) : Lexer :=
  if lexer.inFlow then lexer
  else
    let closed := lexer.indents.takeWhile fun indent =>
      match column? with
      | some column => column < indent
      | none => true
    { lexer with
      indents := lexer.indents.drop closed.length
      tokens := lexer.tokens ++ closed.map fun _ => .blockEnd }

/-- Opens a block collection at a column that stands further in. -/
def roll (lexer : Lexer) (column place : Nat) (token : Token) : Lexer :=
  if lexer.inFlow || lexer.indents.any (column ≤ ·) then lexer
  else { lexer.insert place token with indents := column :: lexer.indents }

/-- Passes over blanks and comments. A tab is no blank where a block collection
may begin, and a mark of the order of bytes is one at the head of a line. -/
def skipGaps : Nat → Lexer → Lexer
  | 0, lexer => lexer
  | fuel + 1, lexer =>
    let cursor := lexer.cursor
    let cursor :=
      if cursor.column = 0 ∧ (cursor.rest.head?.map isByteOrderMark).getD false then cursor.next
      else cursor
    let cursor := cursor.skipRun fun c =>
      c == ' ' || ((lexer.inFlow || !lexer.keyAllowed) && c == '\t')
    let cursor := cursor.skipComment
    if (cursor.rest.head?.map isBreak).getD false then
      skipGaps fuel { lexer with
        cursor := cursor.next, keyAllowed := lexer.keyAllowed || !lexer.inFlow }
    else { lexer with cursor }

def take (lexer : Lexer) (length : Nat) (token : Token) : Lexer :=
  { lexer.push token with cursor := lexer.cursor.skip length }

def marker? (lexer : Lexer) (token : Token) : Option Lexer := do
  let lexer ← (lexer.unroll none).dropKey?
  return { lexer with keyAllowed := false }.take 3 token

def openFlow? (lexer : Lexer) (token : Token) : Option Lexer := do
  let lexer ← lexer.saveKey?
  return { lexer with flowKeys := none :: lexer.flowKeys, keyAllowed := true }.take 1 token

def closeFlow? (lexer : Lexer) (token : Token) : Option Lexer := do
  let lexer ← lexer.dropKey?
  return { lexer with flowKeys := lexer.flowKeys.tail, keyAllowed := false }.take 1 token

/-- Takes the mark of an item, or of a key that is no simple one. -/
def blockMark? (lexer : Lexer) (opening token : Token) (keyAllowed : Bool) : Option Lexer := do
  if !lexer.inFlow && !lexer.keyAllowed then none
  let lexer ← (lexer.roll lexer.cursor.column lexer.tokens.length opening).dropKey?
  return { lexer with keyAllowed }.take 1 token

/-- Takes a colon, which makes a key of what may be one. -/
def colon? (lexer : Lexer) : Option Lexer :=
  match lexer.key? with
  | some key =>
    let lexer := (lexer.insert key.token .key).roll key.column key.token .blockMappingStart
    some ({ lexer.setKey none with keyAllowed := false }.take 1 .value)
  | none =>
    if lexer.inFlow then some ({ lexer with keyAllowed := false }.take 1 .value)
    else if lexer.keyAllowed then
      let lexer := lexer.roll lexer.cursor.column lexer.tokens.length .blockMappingStart
      some ({ lexer with keyAllowed := true }.take 1 .value)
    else none

def name? (lexer : Lexer) (token : List Char → Token) : Option Lexer := do
  let lexer ← lexer.saveKey?
  let name := lexer.cursor.next.run isNameChar
  let behind := lexer.cursor.next.skip name.length
  let ends := behind.endsWord 0 || ((behind.peek? 0).map "?:,]\x7d%@\x60".toList.contains).getD false
  if name = [] || !ends then none
  else return { lexer.push (token name) with cursor := behind, keyAllowed := false }

def startsPlain (lexer : Lexer) : Bool :=
  match lexer.cursor.rest with
  | [] => false
  | c :: rest =>
    if c = '-' then !(rest.head?.map isBlank).getD false
    else if c = '?' ∨ c = ':' then !lexer.inFlow && !lexer.cursor.endsWord 1
    else !isGapChar c && !",[]\x7b\x7d#&*!|>\"%@\x60".toList.contains c && c.toNat != 0x27

def scalar? (lexer : Lexer) (style : Style) : Option Lexer :=
  match style with
  | .plain => do
    let lexer ← lexer.saveKey?
    let indent := (lexer.indents.head?.map (· + 1)).getD 0
    let (text, broken, cursor) ← plain? lexer.inFlow indent lexer.cursor
    return { lexer.push (.scalar .plain text) with cursor, keyAllowed := broken }
  | .singleQuoted | .doubleQuoted => do
    let lexer ← lexer.saveKey?
    let (text, cursor) ← quoted? (style = .doubleQuoted) lexer.cursor
    return { lexer.push (.scalar style text) with cursor, keyAllowed := false }
  | .literal | .folded => do
    let lexer ← lexer.dropKey?
    let (text, cursor) ← block? (style = .literal) lexer.indents.head? lexer.cursor
    return { lexer.push (.scalar style text) with cursor, keyAllowed := true }

def token? (lexer : Lexer) (c : Char) : Option Lexer :=
  let cursor := lexer.cursor
  if cursor.column = 0 ∧ c = '%' then do
    let lexer ← (lexer.unroll none).dropKey?
    let (value, cursor) ← directive? lexer.cursor
    return { lexer.push (.directive value) with cursor, keyAllowed := false }
  else if cursor.isMarker '-' then lexer.marker? .documentStart
  else if cursor.isMarker '.' then lexer.marker? .documentEnd
  else if c = '[' then lexer.openFlow? .flowSequenceStart
  else if c = '{' then lexer.openFlow? .flowMappingStart
  else if c = ']' then lexer.closeFlow? .flowSequenceEnd
  else if c = '}' then lexer.closeFlow? .flowMappingEnd
  else if c = ',' then lexer.dropKey?.map fun lexer => { lexer with keyAllowed := true }.take 1 .flowEntry
  else if c = '-' ∧ cursor.endsWord 1 then lexer.blockMark? .blockSequenceStart .blockEntry true
  else if c = '?' ∧ (lexer.inFlow ∨ cursor.endsWord 1) then
    lexer.blockMark? .blockMappingStart .key !lexer.inFlow
  else if c = ':' ∧ (lexer.inFlow ∨ cursor.endsWord 1) then lexer.colon?
  else if c = '*' then lexer.name? .alias
  else if c = '&' then lexer.name? .anchor
  else if c = '!' then do
    let lexer ← lexer.saveKey?
    let (value, cursor) ← tag? lexer.inFlow lexer.cursor
    return { lexer.push (.tag value) with cursor, keyAllowed := false }
  else if c = '|' ∧ !lexer.inFlow then lexer.scalar? .literal
  else if c = '>' ∧ !lexer.inFlow then lexer.scalar? .folded
  else if c.toNat = 0x27 then lexer.scalar? .singleQuoted
  else if c = '"' then lexer.scalar? .doubleQuoted
  else if lexer.startsPlain then lexer.scalar? .plain
  else none

/-- Takes all tokens that are left. Each takes a character. -/
def finish? : Nat → Lexer → Option (List Token)
  | 0, _ => none
  | fuel + 1, lexer => do
    let lexer ← (lexer.skipGaps (lexer.cursor.rest.length + 1)).dropStale?
    match lexer.cursor.rest with
    | [] => return (← (lexer.unroll none).dropKey?).tokens
    | c :: _ => finish? fuel (← (lexer.unroll (some lexer.cursor.column)).token? c)

end Lexer

def tokens? (text : List Char) : Option (List Token) := do
  let cursor ← Cursor.ofText? text
  ({ cursor : Lexer }).finish? (cursor.rest.length + 1)

end GuessingGame.Yaml
