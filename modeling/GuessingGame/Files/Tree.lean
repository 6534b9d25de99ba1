import GuessingGame.Files.Basic

/-!
# Directory trees

A tree of files and directories, seen from the directory in which the program
works. Paths are walked name by name, and only directories have names in them.
What lies outside of the tree are directories without files.
-/

namespace GuessingGame.Files

inductive Entry where
  | file (bytes : List UInt8)
  | directory
  deriving DecidableEq, Repr

/-- A tree as the list of its places; each is given by the names that lead there. -/
structure Tree where
  entries : List (List String × Entry) := []
  deriving DecidableEq, Repr

namespace Tree

/-- The longest name of an entry, in bytes. -/
def longestName : Nat := 255

def longestPath : Nat := 4095

/-- A place in the tree, or one outside of it. -/
abbrev Place := Option (List String)

def entry? (tree : Tree) : Place → Option Entry
  | none | some [] => some .directory
  | some names => tree.entries.lookup names

/-- The place that a name leads to from a directory. -/
def enter (place : Place) (name : String) : Place :=
  match place with
  | none => none
  | some names =>
    if name = "." then place
    else if name = ".." then (if names = [] then none else some names.dropLast)
    else some (names ++ [name])

/-- Whether a name leads nowhere but to a place that is there anyway. -/
def isDots (name : String) : Bool := name = "." || name = ".."

/-- The place that names lead to. All but the last must lead to directories. -/
def walk (tree : Tree) (place : Place) : List String → Except FileError Place
  | [] => .ok place
  | name :: rest =>
    match tree.entry? place with
    | none => .error .missing
    | some (.file _) => .error .notDirectory
    | some .directory =>
      if longestName < name.utf8ByteSize then .error .nameTooLong
      else if place = none ∧ !isDots name then .error .missing
      else tree.walk (enter place name) rest

def names (path : String) : List String :=
  ((path.splitOn "/").filter (· ≠ ""))

/-- Where the walk along a path starts. -/
def origin (path : String) : Place := if path.startsWith "/" then none else some []

/-- Whether a path can be walked at all. -/
def checkPath (path : String) : Except FileError Unit :=
  if path.contains (Char.ofNat 0) then .error .nulInName
  else if path = "" then .error .missing
  else if longestPath < path.utf8ByteSize then .error .nameTooLong
  else .ok ()

/-- What stands at the end of a path. A path that ends in a slash ends in a directory. -/
def lookup (tree : Tree) (path : String) : Except FileError Entry := do
  checkPath path
  let place ← tree.walk (origin path) (names path)
  match tree.entry? place with
  | none => throw .missing
  | some (.file bytes) => if path.endsWith "/" then throw .notDirectory else return .file bytes
  | some .directory => return .directory

def read (tree : Tree) : Files := fun path => do
  match ← tree.lookup path with
  | .file bytes => return bytes
  | .directory => throw .isDirectory

/-- The tree with an entry at a place, and with the directories on the way there. -/
def put (tree : Tree) (place : List String) (entry : Entry) : Tree :=
  let parents := (List.range place.length).map fun n => (place.take n, Entry.directory)
  let missing := parents.filter fun (names, _) => names ≠ [] && (tree.entries.lookup names).isNone
  { entries := (place, entry) :: missing ++ tree.entries.filter (·.1 ≠ place) }

/-- The place that a path leads to, whatever stands on the way. -/
def placeOf (path : String) : List String :=
  ((names path).foldl enter (some [])).getD []

/-- The tree with a file that holds some bytes. -/
def write (tree : Tree) (path : String) (bytes : List UInt8) : Tree :=
  tree.put (placeOf path) (.file bytes)

def makeDirectory (tree : Tree) (path : String) : Tree :=
  let place := placeOf path
  if (tree.entries.lookup place).isSome then tree else tree.put place .directory

def remove (tree : Tree) (path : String) : Tree :=
  { entries := tree.entries.filter (·.1 ≠ placeOf path) }

/-- Opens a file to write at its end. A missing file is made, where its directory is there. -/
def openToAppend (tree : Tree) (path : String) : Except FileError Tree := do
  checkPath path
  let names := names path
  let place ← tree.walk (origin path) names.dropLast
  match names.getLast? with
  | none => throw .isDirectory
  | some last =>
    match tree.entry? place with
    | none => throw .missing
    | some (.file _) => throw .notDirectory
    | some .directory =>
      if isDots last || path.endsWith "/" then throw .isDirectory
      else if longestName < last.utf8ByteSize then throw .nameTooLong
      else match place with
        | none => throw .missing
        | some names =>
          match tree.entries.lookup (names ++ [last]) with
          | some .directory => throw .isDirectory
          | some (.file _) => return tree
          | none => return tree.put (names ++ [last]) (.file [])

end Tree

end GuessingGame.Files
