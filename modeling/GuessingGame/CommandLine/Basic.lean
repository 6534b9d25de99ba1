/-!
# The command line

What a user may ask for: a command, and options before or behind it. An option
that takes a value takes the next word, unless it is given behind an equals sign;
a word that looks like an option is no value, and no value is empty. An option
may be given once on each side of the command, and then the later one counts. These
are the rules by which clap 4 is assumed to read the words of a command line.
-/

namespace GuessingGame.CommandLine

inductive Format where
  | yaml
  | json
  deriving DecidableEq, Repr

inductive Command where
  | run
  | play
  | screen
  | check
  | inspect (format : Format)
  deriving DecidableEq, Repr

structure Request where
  command : Command := .run
  script : Option String := none
  verbosity : Nat := 0
  deriving DecidableEq, Repr

/-- Why nothing is done with a script. -/
inductive Instead where
  | version
  | help
  | misuse
  deriving DecidableEq, Repr

def command? (name : String) : Option Command :=
  [("run", .run), ("play", .play), ("tui", .screen), ("gui", .screen), ("check", .check),
    ("inspect", .inspect .yaml)].lookup name

def format? (name : String) : Option Format := [("yaml", .yaml), ("json", .json)].lookup name

structure Options where
  script : Option String := none
  verbosity : Nat := 0
  format : Option Format := none
  deriving DecidableEq, Repr

/-- A word of the command line by its form. -/
inductive Word where
  | plain (word : String)
  | long (name : String) (value : Option String)
  | short (letters : List Char)
  | rest
  deriving DecidableEq, Repr

namespace Word

/-- The form of a word. A single dash is a plain word. -/
def ofString (word : String) : Word :=
  match word.toList with
  | '-' :: '-' :: [] => rest
  | '-' :: '-' :: name =>
    let key := String.ofList (name.takeWhile (· ≠ '='))
    match name.dropWhile (· ≠ '=') with
    | _ :: value => long key (some (String.ofList value))
    | [] => long key none
  | '-' :: c :: letters => short (c :: letters)
  | _ => plain word

/-- The value that a word is, if it can be one. -/
def value? : Word → Option String
  | plain "" => none
  | plain word => some word
  | _ => none

end Word

namespace Options

def withScript? (options : Options) (value : String) : Option Options :=
  if options.script.isSome || value = "" then none else some { options with script := some value }

def withFormat? (options : Options) (inspecting : Bool) (value : String) : Option Options :=
  if inspecting && options.format.isNone then
    (format? value).map fun format => { options with format := some format }
  else none

/-- The options with a value for one that needs it. -/
def withValue? (options : Options) (inspecting : Bool) (name value : String) : Option Options :=
  if name = "script" then options.withScript? value
  else if name = "format" then options.withFormat? inspecting value
  else none

def withLetters (options : Options) (outer : Bool) : List Char → Except Instead Options
  | [] => .ok options
  | c :: rest =>
    if c = 'v' then { options with verbosity := options.verbosity + 1 }.withLetters outer rest
    else if c = 'h' then .error .help
    else if c = 'V' ∧ outer then .error .version
    else .error .misuse

end Options

/-- Reads the options on one side of the command: before it, or behind it where
it is known whether a game is inspected. Gives them with what follows. -/
def readOptions (inspecting? : Option Bool) (options : Options) :
    List String → Except Instead (Options × List String)
  | [] => .ok (options, [])
  | word :: words =>
    match Word.ofString word with
    | .plain _ => .ok (options, word :: words)
    | .rest => if words = [] then .ok (options, []) else .error .misuse
    | .short letters =>
      match options.withLetters inspecting?.isNone letters with
      | .ok options => readOptions inspecting? options words
      | .error instead => .error instead
    | .long name (some value) =>
      match options.withValue? (inspecting?.getD false) name value with
      | some options => readOptions inspecting? options words
      | none => .error .misuse
    | .long name none =>
      if name = "verbose" then
        readOptions inspecting? { options with verbosity := options.verbosity + 1 } words
      else if name = "help" then .error .help
      else if name = "version" ∧ inspecting?.isNone then .error .version
      else match words with
        | [] => .error .misuse
        | value :: words =>
          match (Word.ofString value).value?.bind
              (options.withValue? (inspecting?.getD false) name) with
          | some options => readOptions inspecting? options words
          | none => .error .misuse

def helpOn : List String → Instead
  | [] => .help
  | [name] => if (command? name).isSome || name = "help" then .help else .misuse
  | _ => .misuse

/-- The request that a command makes with the options on both sides of it. -/
def request (command : Command) (before behind : Options) : Request where
  command := match command, behind.format with
    | .inspect _, some format => .inspect format
    | command, _ => command
  script := behind.script.or before.script
  verbosity := if behind.verbosity = 0 then before.verbosity else behind.verbosity

/-- What the words of a command line ask for. Without a command, the script is run. -/
def parse (words : List String) : Except Instead Request := do
  let (before, words) ← readOptions none {} words
  match words with
  | [] => return request .run before {}
  | name :: words =>
    if name = "help" then throw (helpOn words)
    match command? name with
    | none => throw .misuse
    | some command =>
      let inspecting := match command with
        | .inspect _ => true
        | _ => false
      let (behind, words) ← readOptions (some inspecting) {} words
      if words = [] then return request command before behind else throw .misuse

end GuessingGame.CommandLine
