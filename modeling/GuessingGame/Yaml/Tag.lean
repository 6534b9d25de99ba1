import GuessingGame.Text.Digits
import GuessingGame.Yaml.Cursor

/-!
# Tags and directives

A tag is a handle and a suffix; the handle stands for the beginning of a longer
name that a directive may set. Suffixes are spelt in the characters of addresses,
where a percent sign and two digits stand for a byte. Which tags and directives are
taken is assumed of serde_yaml 0.9.
-/

namespace GuessingGame.Yaml

open GuessingGame.Text

structure Tag where
  handle : List Char
  suffix : List Char
  deriving DecidableEq, Repr

inductive Directive where
  | version (major minor : Nat)
  | tag (handle nameStart : List Char)
  deriving DecidableEq, Repr

/-- A character of an address. Some marks are allowed only between angles. -/
def isAddressChar (angled : Bool) (c : Char) : Bool :=
  isNameChar c || ";/?:@&=+$.%!~*()".toList.contains c || c.toNat == 0x27 ||
    (angled && (c == ',' || c == '[' || c == ']'))

def escapedByte? (cursor : Cursor) : Option Nat :=
  match cursor.rest with
  | '%' :: high :: low :: _ => hexValue? [high, low]
  | _ => none

/-- The number of bytes that follow the first one of a character, and its value. -/
def firstByte? (byte : Nat) : Option (Nat × Nat) :=
  if byte < 0x80 then some (0, byte)
  else if byte < 0xc0 then none
  else if byte < 0xe0 then some (1, byte - 0xc0)
  else if byte < 0xf0 then some (2, byte - 0xe0)
  else if byte < 0xf8 then some (3, byte - 0xf0)
  else none

/-- The value of a character whose next bytes are spelt by percent signs. -/
def moreBytes? : Nat → Nat → Cursor → Option (Nat × Cursor)
  | 0, value, cursor => some (value, cursor)
  | count + 1, value, cursor => do
    let byte ← escapedByte? cursor
    if 0x80 ≤ byte ∧ byte < 0xc0 then
      moreBytes? count (value * 64 + (byte - 0x80)) (cursor.skip 3)
    else none

def address? (angled : Bool) : Nat → Cursor → Option (List Char × Cursor)
  | 0, _ => none
  | fuel + 1, cursor =>
    match cursor.rest.head? with
    | none => some ([], cursor)
    | some c =>
      if !isAddressChar angled c then some ([], cursor)
      else if c = '%' then do
        let (count, value) ← firstByte? (← escapedByte? cursor)
        let (value, behind) ← moreBytes? count value (cursor.skip 3)
        let (more, behind) ← address? angled fuel behind
        return (Char.ofNat value :: more, behind)
      else (address? angled fuel cursor.next).map fun (more, behind) => (c :: more, behind)

/-- The end of a tag at the cursor, behind a handle that turned out to be its
beginning. -/
def suffix? (angled : Bool) (head : List Char) (cursor : Cursor) :
    Option (List Char × Cursor) := do
  let (more, behind) ← address? angled (cursor.rest.length + 1) cursor
  if head = [] ∧ more = [] then none else return (head.tail ++ more, behind)

/-- The handle at the cursor: an exclamation mark, a name and perhaps a second mark. -/
def handle? (cursor : Cursor) : Option (List Char × Cursor) :=
  if cursor.at? '!' then
    let name := cursor.next.run isNameChar
    let behind := cursor.next.skip name.length
    if behind.at? '!' then some ('!' :: name ++ ['!'], behind.next) else some ('!' :: name, behind)
  else none

def isWholeHandle (handle : List Char) : Bool :=
  2 ≤ handle.length && handle.getLast? == some '!'

def tag? (flow : Bool) (cursor : Cursor) : Option (Tag × Cursor) := do
  let (tag, behind) ←
    if cursor.peek? 1 = some '<' then do
      let (suffix, behind) ← suffix? true [] (cursor.skip 2)
      if behind.at? '>' then pure (⟨[], suffix⟩, behind.next) else none
    else do
      let (handle, behind) ← handle? cursor
      if isWholeHandle handle then
        let (suffix, behind) ← suffix? false [] behind
        pure (⟨handle, suffix⟩, behind)
      else
        let (suffix, behind) ← suffix? false handle behind
        pure (if suffix = [] then ⟨[], ['!']⟩ else ⟨['!'], suffix⟩, behind)
  if behind.endsWord 0 || (flow && behind.at? ',') then return (tag, behind) else none

def versionPart? (cursor : Cursor) : Option (Nat × Cursor) :=
  let digits := cursor.run Char.isDigit
  if digits = [] ∨ 9 < digits.length then none
  else some (Nat.ofDigitChars 10 digits 0, cursor.skip digits.length)

/-- The directive whose percent sign stands at the cursor, and the cursor behind its line. -/
def directive? (cursor : Cursor) : Option (Directive × Cursor) := do
  let name := cursor.next.run isNameChar
  let behind := cursor.next.skip name.length
  if !behind.endsWord 0 then none
  let value := behind.skipRun isBlank
  if name = "YAML".toList then
    let (major, behind) ← versionPart? value
    if !behind.at? '.' then none
    let (minor, behind) ← versionPart? behind.next
    return (.version major minor, ← behind.skipLineEnd?)
  else if name = "TAG".toList then
    let (handle, behind) ← handle? value
    if !(isWholeHandle handle || handle = ['!']) then none
    if !((behind.peek? 0).map isBlank).getD false then none
    let (start, behind) ← suffix? true [] (behind.skipRun isBlank)
    if !behind.endsWord 0 then none
    return (.tag handle start, ← behind.skipLineEnd?)
  else none

end GuessingGame.Yaml
