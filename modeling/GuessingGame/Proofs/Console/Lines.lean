import GuessingGame.Console.Basic
import GuessingGame.Play
import GuessingGame.Proofs.Text.Folding

/-!
# Lines of input

The input of a console is a list of lines, each through its newline; only the last may lack
one. To read a line takes the first of them, whatever its bytes are.

What the player typed is the line without its end. Guesses are compared without the blanks
around them, and the characters of a line end are blank, so that a play cannot tell a line
from what was typed: `guess_dropLineEnd`.

No character but the newline has the byte of the newline in it. So texts without newlines,
each with one behind it, are read back one by one: `lines_typed`.
-/

namespace GuessingGame.Console

open GuessingGame.Text

/-- The lines of some bytes. -/
def lines : List UInt8 → List (List UInt8)
  | [] => []
  | byte :: rest =>
    if byte = 10 then [byte] :: lines rest
    else match lines rest with
      | [] => [[byte]]
      | line :: others => (byte :: line) :: others

theorem lines_of_ne_nil {bytes : List UInt8} (more : bytes ≠ []) :
    lines bytes = (splitLine bytes).1 :: lines (splitLine bytes).2 := by
  induction bytes with
  | nil => exact absurd rfl more
  | cons byte rest ih =>
      by_cases newline : byte = 10
      · simp [lines, splitLine, newline]
      · rcases rest with _ | ⟨next, rest⟩
        · simp [lines, splitLine, newline]
        · rw [lines, splitLine, if_neg newline, if_neg newline, ih (by simp)]

@[simp] theorem flatten_lines (bytes : List UInt8) : (lines bytes).flatten = bytes := by
  induction bytes with
  | nil => rfl
  | cons byte rest ih =>
      unfold lines
      split
      · simp [ih]
      · split
        · rename_i last
          simpa [last] using ih
        · rename_i line others more
          simpa [more] using ih

/-- The first line is split off, and the lines behind it are those of the bytes behind it. -/
theorem splitLine_of_lines {bytes line : List UInt8} {others : List (List UInt8)}
    (h : lines bytes = line :: others) :
    splitLine bytes = (line, others.flatten) ∧ lines others.flatten = others := by
  have more : bytes ≠ [] := by
    rintro rfl
    cases h
  rw [lines_of_ne_nil more, List.cons.injEq] at h
  obtain ⟨rfl, rfl⟩ := h
  simp

theorem lines_eq_nil_iff (bytes : List UInt8) : lines bytes = [] ↔ bytes = [] := by
  constructor
  · intro h
    rw [← flatten_lines bytes, h, List.flatten_nil]
  · rintro rfl
    rfl

/-- The last lines of some bytes are the lines of their own bytes. -/
theorem lines_flatten_of_isSuffix {input : List UInt8} {rest : List (List UInt8)}
    (h : rest <:+ lines input) : lines rest.flatten = rest := by
  induction ahead : lines input generalizing input with
  | nil =>
      rw [ahead, List.suffix_nil] at h
      rw [h]
      rfl
  | cons line others ih =>
      rw [ahead, List.suffix_cons_iff] at h
      have behind : lines others.flatten = others := (splitLine_of_lines ahead).2
      obtain whole | later := h
      · rw [whole, ← ahead, flatten_lines]
      · exact ih (by rwa [behind]) behind

theorem run_readLine_of_nil {console : Console} (h : lines console.input = []) :
    readLine.run console = (.error .inputClosed, console) := by
  rcases console with ⟨input, output⟩
  obtain rfl : input = [] := (lines_eq_nil_iff input).mp h
  rfl

/-- What is read from a line. -/
def lineText (line : List UInt8) : Except Failure String :=
  match Utf8.decode? line with
  | none => .error .notText
  | some text => .ok (dropLineEnd text)

theorem run_readLine_of_cons {console : Console} {line : List UInt8} {others : List (List UInt8)}
    (h : lines console.input = line :: others) :
    readLine.run console = (lineText line, { console with input := others.flatten }) := by
  obtain ⟨split, -⟩ := splitLine_of_lines h
  have more : line ≠ [] := by
    have first := splitLine_eq_nil_iff console.input
    rw [split] at first
    rintro rfl
    rw [first.mp rfl] at h
    cases h
  simp only [readLine, split, if_neg more]
  rfl

/-- What is dropped from the end of a line is blank. -/
theorem exists_lineEnd (text : String) :
    ∃ blanks, text.toList = (dropLineEnd text).toList ++ blanks ∧
      ∀ c ∈ blanks, Text.isBlank c = true := by
  refine ⟨(text.toList.reverse.takeWhile fun c => c == '\r' || c == '\n').reverse, ?_, ?_⟩
  · rw [dropLineEnd, String.toList_ofList, ← List.reverse_append, List.takeWhile_append_dropWhile,
      List.reverse_reverse]
  · intro c mem
    have ends := List.all_eq_true.mp List.all_takeWhile c (List.mem_reverse.mp mem)
    simp only [Bool.or_eq_true, beq_iff_eq] at ends
    rcases ends with rfl | rfl <;> rfl

@[simp] theorem trim_dropLineEnd (text : String) :
    trim (dropLineEnd text).toList = trim text.toList := by
  obtain ⟨blanks, split, blank⟩ := exists_lineEnd text
  rw [split, trim_append_of_blank _ blank]

theorem isBlank_dropLineEnd (text : String) :
    Answer.isBlank (dropLineEnd text) = Answer.isBlank text := by
  rw [Answer.isBlank, trim_dropLineEnd, Answer.isBlank]

theorem hits_dropLineEnd (text target : String) :
    Answer.hits (dropLineEnd text) target = Answer.hits text target := by
  have folded : Answer.folded (dropLineEnd text) = Answer.folded text := by
    rw [Answer.folded, trim_dropLineEnd, Answer.folded]
  rw [Answer.hits, folded, Answer.hits]

theorem guess_dropLineEnd (play : Play) (text : String) :
    play.guess (dropLineEnd text) = play.guess text := by
  rw [Play.guess, hits_dropLineEnd, Play.guess]

@[simp] theorem dropLineEnd_newline (text : String) :
    dropLineEnd (text ++ "\n") = dropLineEnd text := by
  simp [dropLineEnd]

def typedLine (text : String) : List UInt8 := Utf8.encode (text ++ "\n")

theorem typedLine_eq (text : String) : typedLine text = Utf8.encode text ++ [10] := by
  rw [typedLine, Utf8.encode_append]
  rfl

/-- A byte with its highest bit set is no newline. -/
theorem newline_ne_ofNat {n : Nat} (high : 128 ≤ n) (byte : n < 256) : 10 ≠ UInt8.ofNat n := by
  intro same
  have value : n = 10 := by
    rw [← UInt8.toNat_ofNat_of_lt' byte, ← same]
    rfl
  omega

/-- The newline is a byte of no character but itself: in a character beyond the first 128
every byte has its highest bit set. -/
theorem newline_of_mem_utf8EncodeChar {c : Char} (mem : 10 ∈ String.utf8EncodeChar c) :
    c = '\n' := by
  have small : c.val.toNat ≤ 127 := by
    apply Nat.le_of_not_lt
    intro large
    rw [String.utf8EncodeChar, if_neg (Nat.not_le_of_lt large)] at mem
    split at mem
    case' isFalse => split at mem
    all_goals
      simp (disch := omega) only [List.mem_cons, List.not_mem_nil, newline_ne_ofNat, or_false]
        at mem
  rw [String.utf8EncodeChar, if_pos small, List.mem_singleton] at mem
  have value := congrArg UInt8.toNat mem
  rw [UInt8.toNat_ofNat_of_lt' (Nat.lt_of_le_of_lt small (by decide))] at value
  exact Char.toNat_inj.mp value.symm

theorem newline_not_mem_encode {text : String} (single : '\n' ∉ text.toList) :
    10 ∉ Utf8.encode text := by
  intro mem
  rw [Utf8.encode, ← String.utf8Encode_toList, List.utf8Encode, List.data_toByteArray,
    List.mem_flatMap] at mem
  obtain ⟨c, inside, byte⟩ := mem
  exact single (newline_of_mem_utf8EncodeChar byte ▸ inside)

theorem lines_append_newline {bytes : List UInt8} (single : 10 ∉ bytes) (behind : List UInt8) :
    lines (bytes ++ 10 :: behind) = (bytes ++ [10]) :: lines behind := by
  induction bytes with
  | nil => simp [lines]
  | cons byte bytes ih =>
      rw [List.mem_cons, not_or] at single
      simp [lines, Ne.symm single.1, ih single.2]

/-- What was typed line by line is read line by line. -/
theorem lines_typed {texts : List String} (single : ∀ text ∈ texts, '\n' ∉ text.toList) :
    lines (texts.flatMap typedLine) = texts.map typedLine := by
  induction texts with
  | nil => rfl
  | cons text texts ih =>
      obtain ⟨first, others⟩ := List.forall_mem_cons.mp single
      rw [List.flatMap_cons, typedLine_eq, List.append_assoc, List.singleton_append,
        lines_append_newline (newline_not_mem_encode first), ih others, List.map_cons,
        typedLine_eq]

/-- Bytes without a newline go to the first line behind them. -/
theorem lines_append {bytes : List UInt8} (single : 10 ∉ bytes) (some : bytes ≠ [])
    (behind : List UInt8) : lines (bytes ++ behind) = match lines behind with
      | [] => [bytes]
      | line :: others => (bytes ++ line) :: others := by
  induction bytes with
  | nil => exact absurd rfl some
  | cons byte bytes ih =>
      obtain ⟨first, others⟩ : byte ≠ 10 ∧ 10 ∉ bytes := by
        rw [List.mem_cons, not_or] at single
        exact ⟨Ne.symm single.1, single.2⟩
      rw [List.cons_append, lines, if_neg first]
      by_cases last : bytes = []
      · rw [last, List.nil_append]
        cases lines behind <;> rfl
      · rw [ih others last]
        cases lines behind <;> rfl

theorem encode_singleton_ne_nil (c : Char) : Utf8.encode (String.ofList [c]) ≠ [] := by
  intro none
  have empty : String.ofList [c] = "" := Utf8.encode_inj none
  have chars := congrArg String.toList empty
  simp at chars

/-- The lines of a text are texts. -/
theorem exists_text_of_mem_lines {text : String} {line : List UInt8}
    (mem : line ∈ lines (Utf8.encode text)) : ∃ part, line = Utf8.encode part := by
  obtain ⟨cs, rfl⟩ : ∃ cs, text = String.ofList cs := ⟨text.toList, text.ofList_toList.symm⟩
  induction cs generalizing line with
  | nil => cases mem
  | cons c cs ih =>
      have split : Utf8.encode (String.ofList (c :: cs)) =
          Utf8.encode (String.ofList [c]) ++ Utf8.encode (String.ofList cs) := by
        rw [← Utf8.encode_append, ← String.ofList_append, List.singleton_append]
      rw [split] at mem
      by_cases newline : c = '\n'
      · have mem : line ∈ [10] :: lines (Utf8.encode (String.ofList cs)) := by
          rwa [newline] at mem
        cases mem with
        | head => exact ⟨"\n", rfl⟩
        | tail _ later => exact ih later
      · have single : 10 ∉ Utf8.encode (String.ofList [c]) := by
          apply newline_not_mem_encode
          simpa using Ne.symm newline
        rw [lines_append single (encode_singleton_ne_nil c)] at mem
        cases behind : lines (Utf8.encode (String.ofList cs)) with
        | nil =>
            rw [behind, List.mem_singleton] at mem
            exact ⟨_, mem⟩
        | cons first others =>
            rw [behind] at ih mem
            cases mem with
            | head =>
                obtain ⟨part, rfl⟩ := ih (List.mem_cons_self)
                exact ⟨_, (Utf8.encode_append _ _).symm⟩
            | tail _ later => exact ih (List.mem_cons_of_mem _ later)

end GuessingGame.Console
