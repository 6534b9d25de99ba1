import GuessingGame.CommandLine.Perform

/-!
# The program

The files are read first: the settings in the home directory, and the script. The
input is then given to the game line by line, as far as it asks for it, and what
is written is printed as it comes.
-/

namespace GuessingGame.Main

/-- What is wrong with a file. The numbers are those by which the system tells a directory from
what is none. -/
def fileError : IO.Error → FileError
  | .noFileOrDirectory .. => .missing
  | .inappropriateType _ 20 _ => .notDirectory
  | .inappropriateType _ 21 _ => .isDirectory
  | .permissionDenied _ 13 _ => .other "Permission denied (os error 13)" true
  | error => .other (toString error) true

def readFile (path : String) : IO (Except FileError (List UInt8)) := do
  try
    let bytes ← IO.FS.readBinFile path
    return .ok bytes.data.toList
  catch error => return .error (fileError error)

/-- The files that a command line asks for. -/
def readFiles (words : List String) : IO Files := do
  let home := (← IO.getEnv "HOME").getD "."
  let settings ← readFile (home ++ "/" ++ Settings.path)
  let known : Files := fun path => if path = Settings.path then settings else .error .missing
  match CommandLine.parse words with
  | .error _ => return known
  | .ok request =>
    let path := request.script.getD ((Settings.load known).toOption.getD {}).scriptPath
    let script ← readFile path
    return fun asked => if asked = path then script else known asked

/-- Reads the bytes of a line. -/
partial def readLine (stream : IO.FS.Stream) (line : List UInt8) : IO (List UInt8) := do
  let next := (← stream.read 1).data.toList
  let line := line ++ next
  if next = [] || next = [10] then return line else readLine stream line

/-- What two lists have in common at their heads. -/
def commonStart : List UInt8 → List UInt8 → List UInt8
  | a :: as, b :: bs => if a = b then a :: commonStart as bs else []
  | _, _ => []

/-- Goes on with the input that was read so far. The game asks for another line
if it would take one; what it writes before it does so is what it writes whether
or not there is one. -/
partial def converse (files : Files) (words : List String) (input : List UInt8) (printed : Nat) :
    IO UInt32 := do
  let (code, console) := CommandLine.perform files words { input }
  let (_, ahead) := CommandLine.perform files words { input := input ++ [10] }
  let stdout ← IO.getStdout
  let print (bytes : List UInt8) : IO Unit := do
    stdout.write ⟨(bytes.drop printed).toArray⟩
    stdout.flush
  if ahead.input = [] then
    let sure := commonStart console.output.written ahead.output.written
    print sure
    let line ← readLine (← IO.getStdin) []
    if line ≠ [] then converse files words (input ++ line) sure.length
    else
      stdout.write ⟨(console.output.written.drop sure.length).toArray⟩
      return code.toUInt32
  else
    print console.output.written
    return code.toUInt32

end GuessingGame.Main

def main (words : List String) : IO UInt32 := do
  let files ← GuessingGame.Main.readFiles words
  GuessingGame.Main.converse files words [] 0
