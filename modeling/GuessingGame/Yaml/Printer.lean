import GuessingGame.Yaml.Meaning
import GuessingGame.Yaml.Scalar

/-!
# Writing YAML

A text is written in the plainest spelling that reads back as that text: as it
is, between single quotes, between double quotes with escapes, or, if it holds
newlines, as a block of lines. A value is a tree of mappings and sequences, in
which an item stands on the column of the key that holds it. The spelling is that of
serde_yaml 0.9, as it is assumed to be.
-/

namespace GuessingGame.Yaml

open GuessingGame.Text

def breaksLine (c : Char) : Bool := isBreak c || c == '\r' || c.toNat == 0x85

def isPrintable (c : Char) : Bool :=
  let n := c.toNat
  n == 10 || (0x20 ≤ n && n ≤ 0x7e) || (0xa0 ≤ n && n ≤ 0xfffd && n != 0xfeff) || 0x10000 ≤ n

/-- Whether a blank, a break or the end stands at the head of a text. -/
def endsAtGap (text : List Char) : Bool :=
  match text.head? with
  | none => true
  | some c => isBlank c || breaksLine c

/-- Whether a text without its first character would end a plain scalar: at a
colon before a gap, or at a number sign behind one. -/
def hasInnerMark : List Char → Bool
  | [] => false
  | c :: rest =>
    (match rest with
      | [] => false
      | next :: behind =>
        (next == ':' && endsAtGap behind) || (next == '#' && (isBlank c || breaksLine c))) ||
      hasInnerMark rest

/-- Whether a text begins like something other than a plain scalar. -/
def startsWithMark (text : List Char) : Bool :=
  ("---".toList.isPrefixOf text || "...".toList.isPrefixOf text) ||
    match text with
    | [] => false
    | c :: rest =>
      "#,[]\x7b\x7d&*!|>\"%@\x60".toList.contains c || c.toNat == 0x27 ||
        ((c == '?' || c == ':' || c == '-') && endsAtGap rest)

def hasPair (p q : Char → Bool) : List Char → Bool
  | c :: d :: rest => (p c && q d) || hasPair p q (d :: rest)
  | _ => false

def isSpace (c : Char) : Bool := c == ' '

/-- Whether some characters can only be written with escapes. -/
def needsEscapes (text : List Char) : Bool :=
  !text.all isPrintable || hasPair isSpace breaksLine text

def Style.choose (text : List Char) : Style :=
  let last? := text.getLast?
  if text.contains '\n' then
    if needsEscapes text || last? == some ' ' then .doubleQuoted else .literal
  else if needsEscapes text || hasPair breaksLine isSpace text then .doubleQuoted
  else if isAmbiguous text || text.any breaksLine || text.head? == some ' ' || last? == some ' ' ||
      startsWithMark text || hasInnerMark text then .singleQuoted
  else .plain

/-- The letter that stands for a character behind a backslash. -/
def escapeLetter? (c : Char) : Option Char :=
  [(0, '0'), (7, 'a'), (8, 'b'), (9, 't'), (10, 'n'), (11, 'v'), (12, 'f'), (13, 'r'), (27, 'e'),
    (0x22, '"'), (0x5c, '\\'), (0x85, 'N'), (0xa0, '_'), (0x2028, 'L'), (0x2029, 'P')].lookup c.toNat

def escaped (c : Char) : List Char :=
  if !isPrintable c || breaksLine c || c = '"' || c = '\\' then
    match escapeLetter? c with
    | some letter => ['\\', letter]
    | none =>
      let n := c.toNat
      if n ≤ 0xff then '\\' :: 'x' :: hexDigits capitalHexDigit 2 n
      else if n ≤ 0xffff then '\\' :: 'u' :: hexDigits capitalHexDigit 4 n
      else '\\' :: 'U' :: hexDigits capitalHexDigit 8 n
  else [c]

/-- A text whose lines but the first are indented, where the character before it
may have ended a line. -/
def indentedLines (indent : Nat) : Bool → List Char → List Char
  | _, [] => []
  | fresh, c :: rest =>
    if breaksLine c then c :: indentedLines indent true rest
    else (if fresh then List.replicate indent ' ' else []) ++ c :: indentedLines indent false rest

/-- What stands behind the mark of a block: its indentation, where the text does
not show it, and what becomes of the breaks at its end. -/
def blockHints (text : List Char) : List Char :=
  let leading := (text.head?.map fun c => c == ' ' || breaksLine c).getD false
  let ending := match text.reverse with
    | last :: previous =>
      if !breaksLine last then ['-']
      else if (previous.head?.map breaksLine).getD true then ['+'] else []
    | [] => ['-']
  (if leading then ['2'] else []) ++ ending

/-- A text written at some indentation. -/
def spell (indent : Nat) (text : List Char) : List Char :=
  match Style.choose text with
  | .plain => text
  | .singleQuoted =>
    let quote := Char.ofNat 0x27
    let doubled := text.flatMap fun c => if c = quote then [quote, quote] else [c]
    let ending := if (text.getLast?.map breaksLine).getD false then List.replicate indent ' ' else []
    quote :: indentedLines indent false doubled ++ ending ++ [quote]
  | .literal => '|' :: blockHints text ++ '\n' :: indentedLines indent true text
  | _ => '"' :: text.flatMap escaped ++ ['"']

/-- What a document may hold: a bare word such as a number, a text, or a mapping
or sequence of such values. -/
inductive Value where
  | word (text : List Char)
  | text (text : List Char)
  | sequence (items : List Value)
  | mapping (entries : List (String × Value))

/-- The end of the line on which something stands, if it is not there yet. -/
def endLine (text : List Char) : List Char :=
  if (text.getLast?.map isBreak).getD false then text else text ++ ['\n']

mutual

/-- A value behind a key whose mapping stands on some column, through the end of its line. -/
def writtenValue (column : Nat) : Value → List Char
  | .word text => ' ' :: endLine text
  | .text text => ' ' :: endLine (spell (column + 2) text)
  | .sequence [] => " []\n".toList
  | .sequence items => '\n' :: writtenItems column items
  | .mapping [] => " \x7b\x7d\n".toList
  | .mapping entries => '\n' :: writtenEntries (column + 2) true entries

def writtenItems (column : Nat) : List Value → List Char
  | [] => []
  | item :: items =>
    List.replicate column ' ' ++ '-' :: (match item with
      | .mapping (entry :: entries) => ' ' :: writtenEntries (column + 2) false (entry :: entries)
      | item => writtenValue column item) ++ writtenItems column items

/-- The entries of a mapping on some column, of which the first may stand there already. -/
def writtenEntries (column : Nat) (indentFirst : Bool) : List (String × Value) → List Char
  | [] => []
  | (key, value) :: entries =>
    (if indentFirst then List.replicate column ' ' else []) ++ key.toList ++ ':' ::
      writtenValue column value ++ writtenEntries column true entries

end

/-- The document of a mapping. -/
def print (entries : List (String × Value)) : String := String.ofList (writtenEntries 0 true entries)

end GuessingGame.Yaml
