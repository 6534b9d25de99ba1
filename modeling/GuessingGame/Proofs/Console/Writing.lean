import GuessingGame.Console.Table
import GuessingGame.Proofs.Console.Lines

/-!
# What is written, and where it stops

What an attempt writes does not depend on the output it writes to, except that an output
which is full ends it. So an attempt can be described once for all outputs: by the text that
it writes, its result and the state behind it, which are those wherever the text fits, and by
a condition on the states in which it can be stopped, wherever the text does not fit.

`Attempt.Writes` is this description, and the rules below build it along the attempt. The
condition has to hold only where something is written. Between reading a line and judging it
nothing is, so an attempt is never stopped there.
-/

namespace GuessingGame

namespace Console.Output

@[simp] theorem append_nil (output : Output) : output.append [] = output := by
  rcases output with ⟨written, _ | room⟩ <;> simp [append]

theorem append_append (output : Output) (first second : List UInt8) :
    (output.append first).append second = output.append (first ++ second) := by
  rcases output with ⟨written, _ | room⟩
  · simp [append]
  · simp [append, List.take_append, Nat.sub_sub]

@[simp] theorem fits_nil (output : Output) : output.fits [] = true := by
  rcases output with ⟨written, _ | room⟩ <;> simp [fits]

/-- Two texts fit if the second fits behind the first. -/
theorem fits_append (output : Output) (first second : List UInt8) :
    output.fits (first ++ second) = (output.fits first && (output.append first).fits second) := by
  rcases output with ⟨written, _ | room⟩
  · simp [fits, append]
  · simp only [fits, append, List.length_append, ← Bool.decide_and, decide_eq_decide]
    omega

/-- What stands behind a text that does not fit is not written. -/
theorem append_of_full {output : Output} {first : List UInt8} (full : output.fits first = false)
    (second : List UInt8) : output.append (first ++ second) = output.append first := by
  rcases output with ⟨written, _ | room⟩
  · cases full
  · have less : room < first.length := by simpa [fits] using full
    have none : room - (first.length + second.length) = room - first.length := by omega
    simp [append, List.take_append_of_le_length (Nat.le_of_lt less), none]

/-- Where something is to be written, it fits behind a text exactly if it fits together with
the text, even if the text alone does not. -/
theorem fits_append_of_ne_nil {second : List UInt8} (more : second ≠ [])
    (output : Output) (first : List UInt8) :
    (output.append first).fits second = output.fits (first ++ second) := by
  have positive := List.length_pos_iff.mpr more
  rcases output with ⟨written, _ | room⟩
  · rfl
  · simp only [fits, append, List.length_append, decide_eq_decide]
    omega

end Console.Output

namespace Attempt

open Console (Failure Output)

variable {σ ι α β : Type}

/-- `act.Writes seat start text result finish left` describes an attempt whose states are
`seat i output`, the output apart. From `start` it writes `text`, comes to `result` and leaves
`finish`, if the text fits; if not, it writes what fits and fails, and it leaves a state with
the property `left`. -/
structure Writes (seat : ι → Output → σ) (act : Attempt Failure σ α) (start : ι)
    (text : List UInt8) (result : Except Failure α) (finish : ι) (left : ι → Prop) : Prop where
  run_of_fits : ∀ output, output.fits text = true →
    act.run (seat start output) = (result, seat finish (output.append text))
  run_of_full : ∀ output, output.fits text = false → ∃ stop, left stop ∧
    act.run (seat start output) = (.error .outputFull, seat stop (output.append text))

namespace Writes

variable {seat : ι → Output → σ} {act : Attempt Failure σ α} {next : α → Attempt Failure σ β}
variable {start middle finish : ι} {first second : List UInt8} {left : ι → Prop}

/-- What writes nothing is never stopped. -/
theorem silent {result : Except Failure α}
    (run : ∀ output, act.run (seat start output) = (result, seat finish output)) :
    Writes seat act start [] result finish left where
  run_of_fits := by
    intro output _
    rw [run, Output.append_nil]
  run_of_full := by
    intro output full
    simp at full

theorem bind {a : α} {result : Except Failure β}
    (h : Writes seat act start first (.ok a) middle left)
    (k : Writes seat (next a) middle second result finish left) :
    Writes seat (act >>= next) start (first ++ second) result finish left where
  run_of_fits := by
    intro output fits
    rw [Output.fits_append, Bool.and_eq_true] at fits
    rw [run_bind_of_ok (h.run_of_fits output fits.1), k.run_of_fits _ fits.2,
      Output.append_append]
  run_of_full := by
    intro output full
    cases begun : output.fits first with
    | false =>
        obtain ⟨stop, holds, run⟩ := h.run_of_full output begun
        rw [run_bind_of_error run, Output.append_of_full begun]
        exact ⟨stop, holds, rfl⟩
    | true =>
        rw [Output.fits_append, begun, Bool.true_and] at full
        obtain ⟨stop, holds, run⟩ := k.run_of_full _ full
        rw [run_bind_of_ok (h.run_of_fits output begun), run, Output.append_append]
        exact ⟨stop, holds, rfl⟩

/-- What is done without writing may stand in front. -/
theorem bind_silent {a : α} {result : Except Failure β}
    (h : Writes seat act start [] (.ok a) middle left)
    (k : Writes seat (next a) middle second result finish left) :
    Writes seat (act >>= next) start second result finish left :=
  h.bind k

/-- What is done without writing may stand behind. -/
theorem then_silent {a : α} {result : Except Failure β}
    (h : Writes seat act start first (.ok a) middle left)
    (k : Writes seat (next a) middle [] result finish left) :
    Writes seat (act >>= next) start first result finish left := by
  have both := h.bind k
  rwa [List.append_nil] at both

theorem bind_of_error {failure : Failure}
    (h : Writes seat act start first (.error failure) finish left) :
    Writes seat (act >>= next) start first (.error failure) finish left where
  run_of_fits := by
    intro output fits
    exact run_bind_of_error (h.run_of_fits output fits)
  run_of_full := by
    intro output full
    obtain ⟨stop, holds, run⟩ := h.run_of_full output full
    exact ⟨stop, holds, run_bind_of_error run⟩

end Writes

end Attempt

namespace Console

open Attempt (Writes)
open GuessingGame.Text

section

variable {input : List UInt8} {left : List UInt8 → Prop}

theorem writes_print (text : String) (here : left input) :
    Writes Console.mk (print text) input (Utf8.encode text) (.ok ()) input left where
  run_of_fits := by
    intro output fits
    simp [print, fits]
  run_of_full := by
    intro output full
    exact ⟨input, here, by simp [print, full]⟩

theorem writes_askGuess_of_nil (closed : lines input = []) (here : left input) :
    Writes Console.mk askGuess input (Utf8.encode prompt) (.error .inputClosed) input left := by
  have read : Writes Console.mk readLine input [] (.error .inputClosed) input left :=
    .silent fun output => run_readLine_of_nil closed
  exact (writes_print prompt here).then_silent read

theorem writes_askGuess_of_cons {line : List UInt8} {others : List (List UInt8)}
    (more : lines input = line :: others) (here : left input) :
    Writes Console.mk askGuess input (Utf8.encode prompt) (lineText line) others.flatten left := by
  have read : Writes Console.mk readLine input [] (lineText line) others.flatten left :=
    .silent fun output => run_readLine_of_cons more
  exact (writes_print prompt here).then_silent read

end

/-- The table at which a play stands and some input is left, with an output. -/
def Table.seat (moment : Play × List UInt8) (output : Output) : Table :=
  ⟨moment.1, moment.2, output⟩

namespace Sitting

variable {α β : Type} {left : Play × List UInt8 → Prop}
variable {start middle finish : Play × List UInt8}

section Steps

variable {play : Play} {input rest : List UInt8}

theorem writes_talk {act : Talk α} {text : List UInt8} {result : Except Failure α}
    (h : Writes Console.mk act input text result rest fun stop => left (play, stop)) :
    Writes Table.seat (talk act) (play, input) text result (play, rest) left where
  run_of_fits := by
    intro output fits
    simp [talk, Table.seat, h.run_of_fits output fits]
  run_of_full := by
    intro output full
    obtain ⟨stop, holds, run⟩ := h.run_of_full output full
    exact ⟨(play, stop), holds, by simp [talk, Table.seat, run]⟩

theorem writes_print (text : String) (here : left (play, input)) :
    Writes Table.seat (print text) (play, input) (Utf8.encode text) (.ok ()) (play, input) left :=
  writes_talk (Console.writes_print text here)

theorem writes_askGuess_of_nil (closed : lines input = []) (here : left (play, input)) :
    Writes Table.seat askGuess (play, input) (Utf8.encode prompt) (.error .inputClosed)
      (play, input) left :=
  writes_talk (Console.writes_askGuess_of_nil closed here)

theorem writes_askGuess_of_cons {line : List UInt8} {others : List (List UInt8)}
    (more : lines input = line :: others) (here : left (play, input)) :
    Writes Table.seat askGuess (play, input) (Utf8.encode prompt) (lineText line)
      (play, others.flatten) left :=
  writes_talk (Console.writes_askGuess_of_cons more here)

theorem writes_play : Writes Table.seat Sitting.play (play, input) [] (.ok play) (play, input) left :=
  .silent fun _ => rfl

theorem writes_move (m : Play.Move) : Writes Table.seat (move m) (play, input) []
    (.ok (play.after m).outcome) (play.after m, input) left :=
  .silent fun _ => rfl

theorem writes_pure (a : α) : Writes Table.seat (pure a) start [] (.ok a) start left :=
  .silent fun _ => rfl

end Steps

section Rounds

variable {round : Sitting (Option α)} {progresses : round.Progresses} {text second : List UInt8}

/-- Rounds are a round, and behind it more rounds if it asks for them. -/
theorem untilDone_eq_bind (progresses : round.Progresses) :
    Attempt.mk (round.untilDone progresses) =
      round >>= fun
        | some value => pure value
        | none => ⟨round.untilDone progresses⟩ := by
  refine congrArg Attempt.mk (funext fun table => ?_)
  rcases run : round.run table with ⟨failure | none | value, after⟩
  · exact untilDone_of_error run
  · exact untilDone_of_none run
  · exact untilDone_of_some run

theorem writes_untilDone_of_some {value : α}
    (h : Writes Table.seat round start text (.ok (some value)) finish left) :
    Writes Table.seat ⟨round.untilDone progresses⟩ start text (.ok value) finish left := by
  rw [untilDone_eq_bind]
  exact h.then_silent (writes_pure value)

theorem writes_untilDone_of_error {failure : Failure}
    (h : Writes Table.seat round start text (.error failure) finish left) :
    Writes Table.seat ⟨round.untilDone progresses⟩ start text (.error failure) finish left := by
  rw [untilDone_eq_bind]
  exact h.bind_of_error

theorem writes_untilDone_of_none {result : Except Failure α}
    (h : Writes Table.seat round start text (.ok none) middle left)
    (k : Writes Table.seat ⟨round.untilDone progresses⟩ middle second result finish left) :
    Writes Table.seat ⟨round.untilDone progresses⟩ start (text ++ second) result finish left := by
  rw [untilDone_eq_bind]
  exact h.bind k

end Rounds

end Sitting

end Console

end GuessingGame
