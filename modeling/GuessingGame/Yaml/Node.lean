import GuessingGame.Yaml.Token

/-!
# YAML documents

A text is one document: scalars, sequences and mappings, and references to them.
A place where a node could stand and none does holds the empty plain scalar.

The anchors of a document are numbered, each with the count of the names that
were there before it. A reference is to the last node of its number.

YAML is read and written by serde_yaml 0.9. What its parser takes for a document, from
the characters up to the nodes, and what it refuses is assumed, here and in the other
modules of `Yaml`.
-/

namespace GuessingGame.Yaml

/-- A node of a document, with the number of its anchor. -/
inductive Node where
  | reference (number : Nat)
  | scalar (anchor : Option Nat) (tag : Option (List Char)) (style : Style) (text : List Char)
  | sequence (anchor : Option Nat) (items : List Node)
  | mapping (anchor : Option Nat) (entries : List (Node × Node))

namespace Node

def empty : Node := .scalar none none .plain []

mutual

/-- The nodes of a number, as they begin in the text. -/
def numbered (number : Nat) (node : Node) : List Node :=
  match node with
  | .reference _ => []
  | .scalar anchor _ _ _ => if anchor = some number then [node] else []
  | .sequence anchor items =>
    (if anchor = some number then [node] else []) ++ numberedItems number items
  | .mapping anchor entries =>
    (if anchor = some number then [node] else []) ++ numberedEntries number entries

def numberedItems (number : Nat) : List Node → List Node
  | [] => []
  | item :: items => numbered number item ++ numberedItems number items

def numberedEntries (number : Nat) : List (Node × Node) → List Node
  | [] => []
  | (key, value) :: entries =>
    numbered number key ++ numbered number value ++ numberedEntries number entries

end

end Node

structure Properties where
  anchor : Option Nat := none
  tag : Option (List Char) := none

/-- The names that the handles of a document stand for. -/
abbrev Handles := List (List Char × List Char)

def defaultHandles : Handles := [(['!'], ['!']), ("!!".toList, "tag:yaml.org,2002:".toList)]

def Tag.name? (handles : Handles) (tag : Tag) : Option (List Char) :=
  if tag.handle = [] then some tag.suffix
  else (handles.lookup tag.handle).map (· ++ tag.suffix)

/-- The name of an anchor as a number, among the names seen before. -/
def anchorNumbers : List Token → List (List Char × Nat) → Option (List (Option Nat))
  | [], _ => some []
  | .anchor name :: rest, names =>
    let number := names.length
    let names := (name, number) :: names.filter (·.1 ≠ name)
    (anchorNumbers rest names).map (some number :: ·)
  | .alias name :: rest, names => do
    let number ← names.lookup name
    return some number :: (← anchorNumbers rest names)
  | _ :: rest, names => (anchorNumbers rest names).map (none :: ·)

/-- A token with the number of the anchor that it names. -/
abbrev Word := Token × Option Nat

/-- The properties at the head of a row of tokens, in either order. -/
def properties? (handles : Handles) : List Word → Option (Properties × List Word)
  | (.anchor _, number) :: (.tag tag, _) :: rest => do
    return (⟨number, some (← tag.name? handles)⟩, rest)
  | (.tag tag, _) :: (.anchor _, number) :: rest => do
    return (⟨number, some (← tag.name? handles)⟩, rest)
  | (.anchor _, number) :: rest => some (⟨number, none⟩, rest)
  | (.tag tag, _) :: rest => do return (⟨none, some (← tag.name? handles)⟩, rest)
  | rest => some ({}, rest)

def isNext (tokens : List Token) (words : List Word) : Bool :=
  match words with
  | [] => false
  | (token, _) :: _ => tokens.contains token

mutual

/-- The node at the head of a row of tokens. Block collections are allowed only
outside of brackets, and one without indentation of its own only in a mapping. -/
def node? (handles : Handles) (block indentless : Bool) : Nat → List Word → Option (Node × List Word)
  | 0, _ => none
  | fuel + 1, words =>
    match words with
    | (.alias _, number) :: rest => number.map fun number => (.reference number, rest)
    | words => do
      let (given, words) ← properties? handles words
      match words with
      | (.scalar style text, _) :: rest => return (.scalar given.anchor given.tag style text, rest)
      | (.flowSequenceStart, _) :: rest =>
        let (items, rest) ← flowItems? handles true fuel rest
        return (.sequence given.anchor items, rest)
      | (.flowMappingStart, _) :: rest =>
        let (entries, rest) ← flowEntries? handles true fuel rest
        return (.mapping given.anchor entries, rest)
      | (.blockEntry, _) :: _ =>
        if indentless then
          let (items, rest) ← indentlessItems? handles fuel words
          return (.sequence given.anchor items, rest)
        else if given.anchor.isSome || given.tag.isSome then
          return (.scalar given.anchor given.tag .plain [], words)
        else none
      | (.blockSequenceStart, _) :: rest =>
        if block then
          let (items, rest) ← blockItems? handles fuel rest
          return (.sequence given.anchor items, rest)
        else if given.anchor.isSome || given.tag.isSome then
          return (.scalar given.anchor given.tag .plain [], words)
        else none
      | (.blockMappingStart, _) :: rest =>
        if block then
          let (entries, rest) ← blockEntries? handles fuel rest
          return (.mapping given.anchor entries, rest)
        else if given.anchor.isSome || given.tag.isSome then
          return (.scalar given.anchor given.tag .plain [], words)
        else none
      | words =>
        if given.anchor.isSome || given.tag.isSome then
          return (.scalar given.anchor given.tag .plain [], words)
        else none

/-- A node, unless one of some tokens stands where it should begin. -/
def nodeBefore? (handles : Handles) (block indentless : Bool) (ends : List Token) :
    Nat → List Word → Option (Node × List Word)
  | 0, _ => none
  | fuel + 1, words =>
    if isNext ends words then some (.empty, words)
    else node? handles block indentless fuel words

def blockItems? (handles : Handles) : Nat → List Word → Option (List Node × List Word)
  | 0, _ => none
  | fuel + 1, words =>
    match words with
    | (.blockEntry, _) :: rest => do
      let (item, rest) ← nodeBefore? handles true false [.blockEntry, .blockEnd] fuel rest
      let (items, rest) ← blockItems? handles fuel rest
      return (item :: items, rest)
    | (.blockEnd, _) :: rest => some ([], rest)
    | _ => none

/-- The items of a sequence that has no indentation of its own. -/
def indentlessItems? (handles : Handles) : Nat → List Word → Option (List Node × List Word)
  | 0, _ => none
  | fuel + 1, words =>
    match words with
    | (.blockEntry, _) :: rest => do
      let (item, rest) ←
        nodeBefore? handles true false [.blockEntry, .key, .value, .blockEnd] fuel rest
      let (items, rest) ← indentlessItems? handles fuel rest
      return (item :: items, rest)
    | words => some ([], words)

def blockEntries? (handles : Handles) : Nat → List Word → Option (List (Node × Node) × List Word)
  | 0, _ => none
  | fuel + 1, words =>
    match words with
    | (.key, _) :: rest => do
      let (key, rest) ← nodeBefore? handles true true [.key, .value, .blockEnd] fuel rest
      let (value, rest) ← blockValue? handles fuel rest
      let (entries, rest) ← blockEntries? handles fuel rest
      return ((key, value) :: entries, rest)
    | (.blockEnd, _) :: rest => some ([], rest)
    | _ => none

def blockValue? (handles : Handles) : Nat → List Word → Option (Node × List Word)
  | 0, _ => none
  | fuel + 1, words =>
    match words with
    | (.value, _) :: rest => nodeBefore? handles true true [.key, .value, .blockEnd] fuel rest
    | words => some (.empty, words)

/-- The items of a bracketed sequence through its bracket. A pair stands for a
mapping of one entry. -/
def flowItems? (handles : Handles) (first : Bool) : Nat → List Word → Option (List Node × List Word)
  | 0, _ => none
  | fuel + 1, words =>
    match words with
    | (.flowSequenceEnd, _) :: rest => some ([], rest)
    | words => do
      let words ← if first then some words else
        match words with
        | (.flowEntry, _) :: rest => some rest
        | _ => none
      match words with
      | (.flowSequenceEnd, _) :: rest => return ([], rest)
      | (.key, _) :: rest =>
        let (key, rest) ←
          if isNext [.value, .flowEntry, .flowSequenceEnd] rest then
            some (Node.empty, rest.tail)
          else node? handles false false fuel rest
        let (value, rest) ← flowValue? handles .flowSequenceEnd fuel rest
        let (items, rest) ← flowItems? handles false fuel rest
        return (.mapping none [(key, value)] :: items, rest)
      | words =>
        let (item, rest) ← node? handles false false fuel words
        let (items, rest) ← flowItems? handles false fuel rest
        return (item :: items, rest)

def flowValue? (handles : Handles) (closing : Token) : Nat → List Word → Option (Node × List Word)
  | 0, _ => none
  | fuel + 1, words =>
    match words with
    | (.value, _) :: rest => nodeBefore? handles false false [.flowEntry, closing] fuel rest
    | words => some (.empty, words)

/-- The entries of a bracketed mapping through its bracket. An item that is no
pair is a key without value. -/
def flowEntries? (handles : Handles) (first : Bool) :
    Nat → List Word → Option (List (Node × Node) × List Word)
  | 0, _ => none
  | fuel + 1, words =>
    match words with
    | (.flowMappingEnd, _) :: rest => some ([], rest)
    | words => do
      let words ← if first then some words else
        match words with
        | (.flowEntry, _) :: rest => some rest
        | _ => none
      match words with
      | (.flowMappingEnd, _) :: rest => return ([], rest)
      | (.key, _) :: rest =>
        let (key, rest) ←
          nodeBefore? handles false false [.value, .flowEntry, .flowMappingEnd] fuel rest
        let (value, rest) ← flowValue? handles .flowMappingEnd fuel rest
        let (entries, rest) ← flowEntries? handles false fuel rest
        return ((key, value) :: entries, rest)
      | words =>
        let (key, rest) ← node? handles false false fuel words
        let (entries, rest) ← flowEntries? handles false fuel rest
        return ((key, .empty) :: entries, rest)

end

/-- The handles that the directives at the head of a document set, and the tokens
behind them. There is at most one version, and no handle is set twice. -/
def directives? (versioned : Bool) (handles : Handles) :
    List Word → Option (Handles × List Word)
  | (.directive (.version major minor), _) :: rest =>
    if versioned || major ≠ 1 || !(minor = 1 || minor = 2) then none
    else directives? true handles rest
  | (.directive (.tag handle start), _) :: rest =>
    if (handles.lookup handle).isSome then none
    else directives? versioned ((handle, start) :: handles) rest
  | rest => some (handles, rest)

def document? (words : List Word) : Option Node := do
  let (handles, behind) ← directives? false [] words
  let (content, explicit) ← match behind with
    | (.documentStart, _) :: rest => some (rest, true)
    | rest => if words.length = rest.length then some (rest, false) else none
  let missing := match content with
    | [] => true
    | (.documentStart, _) :: _ | (.documentEnd, _) :: _ | (.directive _, _) :: _ => explicit
    | _ => false
  let (root, rest) ←
    if missing then some (Node.empty, content)
    else node? (handles ++ defaultHandles) true false (2 * content.length + 2) content
  if rest.all fun (token, _) => token = .documentEnd then return root else none

/-- The node that a text is. A text without content is an empty document. -/
def parse? (text : String) : Option Node := do
  let tokens ← tokens? text.toList
  let numbers ← anchorNumbers tokens []
  document? (tokens.zip numbers)

end GuessingGame.Yaml
