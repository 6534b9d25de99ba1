import GuessingGame.Proofs.Console.PlayLines

/-!
# A playthrough that is stopped by a full output

An output that takes only so many bytes stops a playthrough somewhere. What was written by
then is the beginning of what would have been written, and the play and the input that are
left are a moment from which the playthrough goes on to the same end: `playthrough_limited`.

What carries this is that a playthrough is only ever stopped between two things that happen
to the game. `Resumes` says of a moment that the lines ahead of it come to the same end as
they did from the start. A line that is read and the guess that is made of it change play
and input one after the other, and between these two the property fails; but there nothing is
written. Everywhere else it holds, round after round.
-/

namespace GuessingGame.Console

open GuessingGame.Text

/-- The lines ahead of a moment come to the end to which those of `input` come from `play`. -/
structure Resumes (game : Game) (play : Play) (input : List UInt8)
    (moment : Play × List UInt8) : Prop where
  sound : Play.Sound game moment.1
  playLines_eq : playLines moment.1 (lines moment.2) = playLines play (lines input)

theorem Resumes.refl {game : Game} {play : Play} (sound : Play.Sound game play)
    (input : List UInt8) : Resumes game play input (play, input) :=
  ⟨sound, rfl⟩

theorem kept_resumes (game : Game) (play : Play) (input : List UInt8) :
    Kept (Resumes game play input) where
  settled := by
    rintro play' input' ⟨sound, same⟩
    refine ⟨?_, (playLines_settled play' (lines input')).trans same⟩
    rw [Play.settled_eq]
    exact sound.advance
  judged := by
    rintro play' input' line others text ⟨sound, same⟩ going more decoded
    have rest : lines others.flatten = others := (splitLine_of_lines more).2
    have settled : Play.Sound game play'.settled := by
      rw [Play.settled_eq]
      exact sound.advance
    constructor
    · dsimp only
      split
      · exact settled
      · exact settled.guess text
    · rw [← same, more, playLines_of_text going decoded, rest]

def limited (play : Play) (input written : List UInt8) (room : Nat) : Table :=
  { play, console := { input, output := { written, room := some room } } }

/-- From any moment of a play, a playthrough whose output takes so many bytes writes the first
bytes of what it would have written. If that is all, nothing else is different. If not, it fails
for want of room, and a playthrough from the play and the input that it leaves comes to the same
result, play and input as if the first had not been stopped: no guess is lost or made twice. -/
theorem playthrough_limited (game : Game) (moves : List Play.Move) (input written : List UInt8)
    (room : Nat) :
    let play := Play.ofMoves game moves
    let whole := playthrough.run (unlimited play input written)
    let part := playthrough.run (limited play input written room)
    ∃ text, whole.2.console.output = { written := written ++ text } ∧
      part.2.console.output.written = written ++ text.take room ∧
      (text.length ≤ room →
        part.1 = whole.1 ∧ part.2.play = whole.2.play ∧
          part.2.console.input = whole.2.console.input) ∧
      (room < text.length →
        part.1 = .error .outputFull ∧ ∀ behind : List UInt8,
          let again := playthrough.run (unlimited part.2.play part.2.console.input behind)
          again.1 = whole.1 ∧ again.2.play = whole.2.play ∧
            again.2.console.input = whole.2.console.input) := by
  intro play whole part
  have sound : Play.Sound game play := Play.sound_ofMoves game moves
  have writes := writes_playthrough sound (kept_resumes game play input) (.refl sound input)
  generalize Utf8.encode (playthroughText play (lines input)) = text at writes
  have ends : whole = _ := writes.run_of_fits { written } rfl
  refine ⟨text, by rw [ends]; rfl, ?_⟩
  by_cases fits : text.length ≤ room
  · have same : part = _ := writes.run_of_fits { written, room := some room }
      (by simpa [Output.fits] using fits)
    rw [same, ends]
    refine ⟨rfl, fun _ => ⟨rfl, rfl, rfl⟩, fun short => absurd fits (Nat.not_le_of_lt short)⟩
  · obtain ⟨stop, resumes, stopped⟩ :=
      writes.run_of_full { written, room := some room } (by simpa [Output.fits] using fits)
    have stopped : part = _ := stopped
    rw [stopped]
    refine ⟨rfl, fun all => absurd all fits, fun _ => ⟨rfl, fun behind => ?_⟩⟩
    -- the rest of the way is a playthrough of its own, and the lines ahead decide on its end
    obtain ⟨after, again⟩ := playthrough_unlimited resumes.sound stop.2 behind
    rw [resumes.playLines_eq] at again
    simp only [Table.seat]
    rw [again, ends]
    exact ⟨rfl, rfl, rfl⟩

end GuessingGame.Console
