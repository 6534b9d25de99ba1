import GuessingGame.Proofs.Console.Walk
import GuessingGame.Proofs.Script.Replay

/-!
# Playing a script where the output runs short

Where the output takes only so many bytes, a script that is played while it is read goes on as
long as all challenges can be shown. An announcement that does not fit is passed over. The
first challenge that does not fit fails, and the reading with it: `playScript_limited`.

What a console with room for some bytes has written is the beginning of what one without a
limit has written by then, so its states are those of the other, clipped. Announcements keep
this whether they fit or not, and a challenge keeps it if what was written up to its end fits.
Otherwise the challenge fails, even if nothing of it is left to be written: once the output is
full, the next challenge meets a failure at its first line.
-/

namespace GuessingGame.Console

open Attempt (Writes)
open Script
open GuessingGame.Text

/-- A console, as it is where there is room only for some of what was written. -/
def clip (room : Nat) (console : Console) : Console :=
  { console with output := ({ room := some room } : Output).append console.output.written }

theorem announce_clip (room : Nat) (notice : Notice) (input written : List UInt8) :
    host.announce notice (clip room (ample input written)) =
      clip room (host.announce notice (ample input written)) := by
  rw [announce_ample]
  simp only [clip, ample, ← Output.append_append]
  rfl

theorem run_print_of_full {text : String} (more : text ≠ "") (input : List UInt8) :
    (print text).run ⟨input, { room := some 0 }⟩ =
      (.error .outputFull, ⟨input, { room := some 0 }⟩) := by
  have full : ¬(Utf8.encode text).length ≤ 0 := by
    intro none
    exact more (Utf8.encode_inj (List.eq_nil_of_length_eq_zero (Nat.le_zero.mp none)))
  simp [print, Output.fits, Output.append, full]

theorem append_ne_empty {first : String} (more : first ≠ "") (second : String) :
    first ++ second ≠ "" := by
  intro none
  have chars := congrArg String.toList none
  rw [String.toList_append] at chars
  exact more (String.toList_inj.mp (List.append_eq_nil_iff.mp chars).1)

theorem challengeText_ne_empty (hint : String) (lives : Nat) : challengeText hint lives ≠ "" := by
  have first : "HINT: " ≠ "" := by decide
  exact append_ne_empty (append_ne_empty (append_ne_empty (append_ne_empty first _) _) _) _

theorem gameOverText_ne_empty (answer : String) : gameOverText answer ≠ "" := by
  have first : "GAME OVER. The answer was " ≠ "" := by decide
  exact append_ne_empty (append_ne_empty first _) _

/-- Whatever a challenge is, something is shown of it. -/
theorem playChallenge_of_full (challenge : Challenge) (input : List UInt8) :
    ((playChallenge challenge).run ⟨input, { room := some 0 }⟩).1 = .error .outputFull := by
  by_cases none : challenge.lives = 0
  · rw [playChallenge, if_pos none, Attempt.run_bind_of_error
      (run_print_of_full (gameOverText_ne_empty challenge.target) input)]
  · have round (play : Play) : (challengeRound challenge).run ⟨play, input, { room := some 0 }⟩ =
        (.error .outputFull, ⟨play, input, { room := some 0 }⟩) := by
      have shown := run_print_of_full (challengeText_ne_empty challenge.hint play.lives) input
      rw [challengeRound, Sitting.run_play_bind]
      exact Attempt.run_bind_of_error (by simp [Sitting.print, Sitting.talk, shown])
    have rounds (play : Play) : (challengeRounds challenge).run ⟨play, input, { room := some 0 }⟩ =
        (.error .outputFull, ⟨play, input, { room := some 0 }⟩) :=
      Sitting.untilDone_of_error (round play)
    rw [playChallenge, if_neg none]
    simp only [rounds]

theorem ne_nil_of_writes_playChallenge {challenge : Challenge} {input text : List UInt8}
    {rest : List UInt8}
    (writes : Writes Console.mk (playChallenge challenge) input text
      (tryLines challenge.target challenge.lives.toNat (lines input)).1 rest fun _ => True) :
    text ≠ [] := by
  rintro rfl
  have full := playChallenge_of_full challenge input
  rw [writes.run_of_fits { room := some 0 } rfl] at full
  exact (tries_tryLines challenge.target challenge.lives.toNat (lines input)).ne_outputFull full

/-- A challenge at a clipped console goes as at the other console if all of it fits, and fails
if not. -/
theorem solve_clip (challenge : Challenge) (input written : List UInt8) :
    ∃ answer left text,
      host.solve challenge (ample input written) = (answer, ample left (written ++ text)) ∧
      ∀ room,
        ((written ++ text).length ≤ room →
          host.solve challenge (clip room (ample input written)) =
            (answer, clip room (ample left (written ++ text)))) ∧
        (room < (written ++ text).length →
          ∃ stop, host.solve challenge (clip room (ample input written)) =
              (.error Failure.outputFull.message, stop) ∧
            stop.output = (clip room (ample left (written ++ text))).output) := by
  obtain ⟨text, writes⟩ := writes_playChallenge challenge input
  have more := ne_nil_of_writes_playChallenge writes
  refine ⟨_, _, text, solve_of_run (writes.run_of_fits { written } rfl), fun room => ⟨?_, ?_⟩⟩
  · intro le
    have fits : (({ room := some room } : Output).append written).fits text = true := by
      rw [Output.fits_append_of_ne_nil more]
      exact decide_eq_true le
    have run := solve_of_run (writes.run_of_fits _ fits)
    rw [Output.append_append] at run
    exact run
  · intro lt
    have full : (({ room := some room } : Output).append written).fits text = false := by
      rw [Output.fits_append_of_ne_nil more]
      exact decide_eq_false (Nat.not_le_of_lt lt)
    obtain ⟨stop, -, run⟩ := writes.run_of_full _ full
    rw [Output.append_append] at run
    exact ⟨_, solve_of_run run, rfl⟩

/-- A challenge whose end lies beyond the room that there is. Something is shown of every
challenge, so this is one that needs more room. -/
def Late (room : Nat) (scene : Exchange × Console) : Prop :=
  scene.1.isAsked = true ∧ room < scene.2.output.written.length

instance (room : Nat) (scene : Exchange × Console) : Decidable (Late room scene) :=
  inferInstanceAs (Decidable (_ ∧ _))

/-- What happens at a console that takes all output happens at a clipped one as well, until a
challenge comes too late. -/
theorem scenes_clip {console final : Console} {shown : List (Exchange × Console)}
    (h : Scenes host console shown final) {input written : List UInt8}
    (start : console = ample input written) :
    ∃ left text, final = ample left (written ++ text) ∧ ∀ room,
      (∀ scene ∈ shown, ¬Late room scene) →
        Scenes host (clip room console) (shown.map (Prod.map id (clip room)))
          (clip room final) := by
  induction h generalizing input written with
  | nil => exact ⟨input, [], by rw [start, List.append_nil], fun room _ => .nil⟩
  | @told _ _ notice _ _ ih =>
      subst start
      obtain ⟨left, text, finish, clipped⟩ := ih (announce_ample notice input written)
      refine ⟨left, Utf8.encode (noticeText notice) ++ text, by rw [finish, List.append_assoc],
        fun room early => ?_⟩
      have rest := clipped room fun scene mem => early scene (List.mem_cons_of_mem _ mem)
      rw [← announce_clip] at rest
      rw [List.map_cons, Prod.map_apply, ← announce_clip]
      exact .told rest
  | @asked _ _ _ challenge _ _ answered _ ih =>
      subst start
      obtain ⟨answer, left, shown, solved, at_clip⟩ := solve_clip challenge input written
      rw [solved] at answered
      cases answered
      obtain ⟨left, text, finish, clipped⟩ := ih rfl
      refine ⟨left, shown ++ text, by rw [finish, List.append_assoc], fun room early => ?_⟩
      obtain ⟨first, others⟩ := List.forall_mem_cons.mp early
      have fits : (written ++ shown).length ≤ room :=
        Nat.le_of_not_lt fun late => first ⟨rfl, late⟩
      exact .asked ((at_clip room).1 fits) (clipped room others)

theorem clip_start (room : Nat) (input : List UInt8) :
    clip room { input } = { input, output := { room := some room } } := by
  simp [clip]

theorem clip_written (room : Nat) (console : Console) :
    (clip room console).output.written = console.output.written.take room :=
  List.nil_append _

/-- A reading at a clipped console fails at the first challenge that comes too late. -/
theorem playScript_of_late {text : String} {input : List UInt8} {room : Nat}
    {front back : List (Exchange × Console)} {scene : Exchange × Console}
    (split : scenes host text { input } = front ++ scene :: back)
    (early : ∀ before ∈ front, ¬Late room before) (late : Late room scene) :
    ∃ place challenge stop, scene.1.call = .ask challenge ∧
      (calls [] (Cursor.ofText text).outline.statements)[front.length]? =
        some (place, .ask challenge) ∧
      playScript text { input, output := { room := some room } } =
        (.error ⟨.interrupted Failure.outputFull.message, place⟩, stop) ∧
      exchanges host text { input, output := { room := some room } } =
        front.map Prod.fst ++ [.asked challenge (.error Failure.outputFull.message)] ∧
      stop.output.written = (playScript text { input }).2.output.written.take room := by
  obtain ⟨happens, exchanged⟩ := scenes_happen host text ({ input } : Console)
  rw [split] at happens exchanged
  obtain ⟨middle, before, behind⟩ := happens.split
  obtain ⟨left, shown, rfl, clipped⟩ := scenes_clip before rfl
  obtain ⟨exchange, console⟩ := scene
  cases exchange with
  | told notice => cases late.1
  | asked challenge answer =>
      cases behind with
      | asked answered rest =>
          obtain ⟨_, left', more, solved, at_clip⟩ := solve_clip challenge left ([] ++ shown)
          rw [solved] at answered
          cases answered
          have lt : room < ([] ++ shown ++ more).length := late.2
          obtain ⟨stop, failed, stop_eq⟩ := (at_clip room).2 lt
          obtain ⟨_, others, finish, -⟩ := scenes_clip rest rfl
          -- the limited console makes the exchanges in front, and then fails
          have cut := (clipped room early).append (.asked failed .nil)
          have same : (front.map (Prod.map id (clip room)) ++
              [(Exchange.asked challenge (.error Failure.outputFull.message), stop)]).map Prod.fst =
                front.map Prod.fst ++
                  [.asked challenge (.error Failure.outputFull.message)] := by simp
          rw [List.map_append, List.map_cons] at exchanged
          obtain ⟨place, called, read, exchanges⟩ :=
            read_of_scenes_interrupted exchanged.symm cut same
          rw [clip_start] at read exchanges
          rw [List.length_map] at called
          refine ⟨place, challenge, stop, rfl, called, read, exchanges, ?_⟩
          rw [stop_eq, clip_written, playScript, finish]
          exact (List.take_append_of_le_length (Nat.le_of_lt lt)).symm

/-- A reading at a console with room for so many bytes beside one that takes all output.

The other shows its exchanges one after another, some of which are challenges, and what it has
written by the end of each of them. The one with limited room writes the first bytes of what the
other writes, as many as there is room for. If every challenge of the other ends within the
room, both have the same result, whatever becomes of the announcements. If not, it fails at the
statement of the first challenge that does not, whose failure is the last exchange with the host. -/
theorem playScript_limited (text : String) (input : List UInt8) (room : Nat) :
    let limited : Console := { input, output := { room := some room } }
    let whole := playScript text { input }
    let part := playScript text limited
    let shown := scenes host text { input }
    Scenes host { input } shown whole.2 ∧ shown.map Prod.fst = exchanges host text { input } ∧
    part.2.output.written = whole.2.output.written.take room ∧
    ((∀ scene ∈ shown, ¬Late room scene) → part.1 = whole.1) ∧
    ∃ complete behind, (Cursor.ofText text).Passes complete behind ∧ behind.Stops ∧
      ∀ front scene back, shown = front ++ scene :: back → (∀ before ∈ front, ¬Late room before) →
        Late room scene →
          ∃ place challenge, scene.1.call = .ask challenge ∧
            (calls [] (Cursor.performed complete behind))[front.length]? =
              some (place, .ask challenge) ∧
            part.1 = .error ⟨.interrupted Failure.outputFull.message, place⟩ ∧
            exchanges host text limited =
              front.map Prod.fst ++ [.asked challenge (.error Failure.outputFull.message)] := by
  intro limited whole part shown
  obtain ⟨complete, behind, passes, stops, statements⟩ := (Cursor.ofText text).statements_outline
  obtain ⟨happens, exchanged⟩ := scenes_happen host text ({ input } : Console)
  have unhindered (early : ∀ scene ∈ shown, ¬Late room scene) :
      part = (whole.1, clip room whole.2) := by
    obtain ⟨-, -, -, clipped⟩ := scenes_clip happens rfl
    have same : (shown.map (Prod.map id (clip room))).map Prod.fst =
        exchanges host text { input } := by
      rw [← exchanged]
      simp [shown]
    have read := read_of_scenes (clipped room early) same
    rwa [clip_start] at read
  refine ⟨happens, exchanged, ?_, fun early => by rw [unhindered early], complete, behind, passes,
    stops, ?_⟩
  · cases found : shown.find? (decide <| Late room ·) with
    | none =>
        have early : ∀ scene ∈ shown, ¬Late room scene := by simpa using found
        rw [unhindered early, clip_written]
    | some scene =>
        obtain ⟨late, front, back, split, early⟩ := List.find?_eq_some_iff_append.mp found
        obtain ⟨_, _, stop, -, -, stopped, -, written⟩ :=
          playScript_of_late split (by simpa using early) (of_decide_eq_true late)
        have part_eq : part = _ := stopped
        rw [part_eq, written]
  · intro front scene back split early late
    obtain ⟨place, challenge, stop, call, called, read, exchanged, -⟩ :=
      playScript_of_late split early late
    rw [statements] at called
    exact ⟨place, challenge, call, called, congrArg Prod.fst read, exchanged⟩

end GuessingGame.Console
