import GuessingGame.Attempt
import GuessingGame.Console.Failure
import GuessingGame.Text.Utf8

/-!
# The console

A console is the input not yet read and the output written so far. The output
may be limited: then it takes the bytes that fit, in order, and fails at the
first that does not. The input is read line by line, each through its newline or
to the end; the bytes of a line are consumed even if they are no text.
-/

namespace GuessingGame.Console

open GuessingGame.Text

/-- The bytes written and, if there is a limit, how many more are taken. -/
structure Output where
  written : List UInt8 := []
  room : Option Nat := none
  deriving DecidableEq, Repr

namespace Output

/-- The output behind some bytes, of which as many are written as fit. -/
def append (output : Output) (bytes : List UInt8) : Output :=
  match output.room with
  | none => { output with written := output.written ++ bytes }
  | some room =>
    { written := output.written ++ bytes.take room, room := some (room - bytes.length) }

/-- Whether some bytes fit. -/
def fits (output : Output) (bytes : List UInt8) : Bool :=
  match output.room with
  | none => true
  | some room => bytes.length ≤ room

end Output

end Console

structure Console where
  input : List UInt8
  output : Console.Output := {}
  deriving DecidableEq, Repr

namespace Console

open GuessingGame.Text

/-- Computations at a console. What was read and written before a failure stays. -/
abbrev Talk := Attempt Failure Console

/-- The first line of some bytes, through its newline, and the bytes behind it. -/
def splitLine : List UInt8 → List UInt8 × List UInt8
  | [] => ([], [])
  | byte :: rest =>
    if byte = 10 then ([byte], rest)
    else ((byte :: (splitLine rest).1), (splitLine rest).2)

@[simp] theorem splitLine_append (bytes : List UInt8) :
    (splitLine bytes).1 ++ (splitLine bytes).2 = bytes := by
  induction bytes with
  | nil => rfl
  | cons byte rest ih =>
    unfold splitLine
    split <;> simp [ih]

theorem splitLine_eq_nil_iff (bytes : List UInt8) : (splitLine bytes).1 = [] ↔ bytes = [] := by
  cases bytes with
  | nil => simp [splitLine]
  | cons byte rest =>
    unfold splitLine
    split <;> simp

theorem length_splitLine (bytes : List UInt8) :
    (splitLine bytes).1.length + (splitLine bytes).2.length = bytes.length := by
  rw [← List.length_append, splitLine_append]

/-- A text without the line ends behind it. -/
def dropLineEnd (text : String) : String :=
  String.ofList (text.toList.reverse.dropWhile (fun c => c == '\r' || c == '\n')).reverse

/-- Writes a text, whole or as far as it fits. -/
def print (text : String) : Talk Unit := ⟨fun console =>
  let bytes := Utf8.encode text
  (if console.output.fits bytes then .ok () else .error .outputFull,
    { console with output := console.output.append bytes })⟩

def readLine : Talk String := ⟨fun console =>
  let (line, rest) := splitLine console.input
  (if line = [] then .error .inputClosed
    else match Utf8.decode? line with
      | none => .error .notText
      | some text => .ok (dropLineEnd text),
    { console with input := rest })⟩

def prompt : String := "Enter full country name: "

/-- Asks for a guess and reads it. -/
def askGuess : Talk String := do
  print prompt
  readLine

@[simp] theorem print_input (text : String) (console : Console) :
    ((print text).run console).2.input = console.input := rfl

/-- A line that was read is at least one byte long. -/
theorem length_readLine_lt {console after : Console} {line : String}
    (ok : readLine.run console = (.ok line, after)) :
    after.input.length < console.input.length := by
  have total := length_splitLine console.input
  simp only [readLine, Prod.mk.injEq] at ok
  obtain ⟨result, rfl⟩ := ok
  split at result
  · cases result
  · rename_i ne
    have : 0 < (splitLine console.input).1.length := List.length_pos_iff.mpr ne
    simp only
    omega

theorem length_askGuess_lt {console after : Console} {line : String}
    (ok : askGuess.run console = (.ok line, after)) :
    after.input.length < console.input.length := by
  unfold askGuess at ok
  rcases h : (print prompt).run console with ⟨failure | _, middle⟩
  · rw [Attempt.run_bind_of_error h] at ok
    cases ok
  · rw [Attempt.run_bind_of_ok h] at ok
    have same : middle.input = console.input := by
      rw [← print_input prompt console, h]
    have lt := length_readLine_lt ok
    rwa [same] at lt

end Console

end GuessingGame
