import GuessingGame.Yaml.Meaning
import GuessingGame.Yaml.Node

/-!
# Records in YAML

A record is read from a mapping whose keys name its parts. What a plain scalar
means depends on what is asked of it: every scalar is a text, but only a plain
one can be missing, or be a number or a truth value. So the derived readers of serde 1
are assumed to ask serde_yaml 0.9.
-/

namespace GuessingGame.Yaml

/-- A place in a document: a node, and the root that references are looked up in. -/
structure Place where
  root : Node
  node : Node

namespace Place

def moveTo (place : Place) (node : Node) : Place := { place with node }

/-- The place itself, or the one that it refers to. -/
def follow? (place : Place) : Option Place :=
  match place.node with
  | .reference number => (place.root.numbered number).getLast?.map place.moveTo
  | _ => some place

def text? (place : Place) : Option String := do
  match (← place.follow?).node with
  | .scalar _ _ _ text => return String.ofList text
  | _ => none

/-- Whether a scalar may stand for a value of some kind: it is plain, or a block
that is tagged so. -/
def mayMean (kind : String) (tag : Option (List Char)) (style : Style) : Bool :=
  style = .plain || (style = .literal && tag = some ("tag:yaml.org,2002:" ++ kind).toList)

def word? (place : Place) : Option UInt64 := do
  match (← place.follow?).node with
  | .scalar _ tag style text => if mayMean "int" tag style then Yaml.word? text else none
  | _ => none

def flag? (place : Place) : Option Bool := do
  match (← place.follow?).node with
  | .scalar _ tag style text =>
    if mayMean "bool" tag style then truth? text else none
  | _ => none

def optionalText? (place : Place) : Option (Option String) := do
  let place ← place.follow?
  match place.node with
  | .scalar _ tag style text =>
    if style ≠ .plain then return some (String.ofList text)
    else match tag with
      | none => return if text = [] || isNull text then none else some (String.ofList text)
      | some tag =>
        if tag = "tag:yaml.org,2002:null".toList then (if isNull text then return none else none)
        else return some (String.ofList text)
  | _ => none

/-- The items of a sequence. The empty plain scalar is a sequence without items. -/
def items? (place : Place) : Option (List Place) := do
  let place ← place.follow?
  match place.node with
  | .sequence _ items => return items.map place.moveTo
  | .scalar _ _ style text => if style = .plain ∧ text = [] then return [] else none
  | _ => none

/-- The parts of a record, each as it is given, if at all. Other entries are
passed over, but no part is given twice. -/
def parts? (names : List String) (place : Place) : Option (List (Option Place)) := do
  let place ← place.follow?
  let entries ← match place.node with
    | .mapping _ entries => some entries
    | .scalar _ _ style text => if style = .plain ∧ text = [] then some [] else none
    | _ => none
  let given ← entries.mapM fun (key, value) =>
    (place.moveTo key).text?.map fun name => (name, place.moveTo value)
  names.mapM fun name =>
    match given.filter (·.1 = name) with
    | [] => some none
    | [(_, value)] => some (some value)
    | _ => none

end Place

/-- The only document of a text, at its root. -/
def read? (text : String) : Option Place := (parse? text).map fun root => ⟨root, root⟩

end GuessingGame.Yaml
