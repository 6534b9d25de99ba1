import GuessingGame.Console.Immediate
import GuessingGame.Proofs.Console.Writing
import GuessingGame.Proofs.Play.Blocks

/-!
# A challenge and the lines ahead of it

What becomes of a challenge can be told from the lines ahead of it. It is won by a hit among
the first of them, as many as there are lives; it is lost if there are so many and all of
them miss; and it fails where the lines end before that, or where one is no text. `Tries`
says so, and `tryLines` is the recursion that finds out.

A challenge is a game of one level. That the rounds at the console follow the recursion is
`writes_playChallenge`, for every output at once.
-/

namespace GuessingGame.Console

open Attempt (Writes)
open Script (Challenge Verdict)
open GuessingGame.Text

def Hits (target : String) (line : List UInt8) : Prop :=
  ∃ guess, lineText line = .ok guess ∧ Answer.hits guess target = true

def Misses (target : String) (line : List UInt8) : Prop :=
  ∃ guess, lineText line = .ok guess ∧ Answer.hits guess target = false

/-- `Tries target lives ahead result rest` says what becomes of a challenge with an answer
and so many lives where some lines are ahead, and which of them it leaves. -/
inductive Tries (target : String) (lives : Nat) :
    List (List UInt8) → Except Failure Verdict → List (List UInt8) → Prop
  | won {misses : List (List UInt8)} {hit : List UInt8} {rest : List (List UInt8)} :
      misses.length < lives → (∀ line ∈ misses, Misses target line) → Hits target hit →
      Tries target lives (misses ++ hit :: rest) (.ok .proceed) rest
  | lost {misses rest : List (List UInt8)} :
      misses.length = lives → (∀ line ∈ misses, Misses target line) →
      Tries target lives (misses ++ rest) (.ok .halt) rest
  | closed {misses : List (List UInt8)} :
      misses.length < lives → (∀ line ∈ misses, Misses target line) →
      Tries target lives misses (.error .inputClosed) []
  | garbled {misses : List (List UInt8)} {line : List UInt8} {rest : List (List UInt8)} :
      misses.length < lives → (∀ line ∈ misses, Misses target line) →
      Utf8.decode? line = none →
      Tries target lives (misses ++ line :: rest) (.error .notText) rest

/-- What becomes of a challenge with some lives left, and the lines that it leaves. -/
def tryLines (target : String) :
    Nat → List (List UInt8) → Except Failure Verdict × List (List UInt8)
  | 0, ahead => (.ok .halt, ahead)
  | _ + 1, [] => (.error .inputClosed, [])
  | lives + 1, line :: others =>
    match lineText line with
    | .error failure => (.error failure, others)
    | .ok guess =>
      if Answer.hits guess target then (.ok .proceed, others) else tryLines target lives others

section Lines

variable {target : String} {line guess : List UInt8}

theorem tryLines_of_hits (hit : Hits target line) (lives : Nat) (others : List (List UInt8)) :
    tryLines target (lives + 1) (line :: others) = (.ok .proceed, others) := by
  obtain ⟨guess, text, hits⟩ := hit
  simp only [tryLines, text, hits, if_true]

theorem tryLines_of_misses (miss : Misses target line) (lives : Nat)
    (others : List (List UInt8)) :
    tryLines target (lives + 1) (line :: others) = tryLines target lives others := by
  obtain ⟨guess, text, misses⟩ := miss
  simp only [tryLines, text, misses, Bool.false_eq_true, if_false]

theorem tryLines_of_garbled (garbled : Utf8.decode? line = none) (lives : Nat)
    (others : List (List UInt8)) :
    tryLines target (lives + 1) (line :: others) = (.error .notText, others) := by
  simp only [tryLines, lineText, garbled]

/-- Misses that leave a life cost one each. -/
theorem tryLines_append {misses : List (List UInt8)}
    (missed : ∀ line ∈ misses, Misses target line) (lives : Nat) (ahead : List (List UInt8)) :
    tryLines target (misses.length + lives) (misses ++ ahead) = tryLines target lives ahead := by
  induction misses with
  | nil => rw [List.length_nil, Nat.zero_add, List.nil_append]
  | cons line misses ih =>
      obtain ⟨first, others⟩ := List.forall_mem_cons.mp missed
      have lives_eq : (line :: misses).length + lives = misses.length + lives + 1 := by
        rw [List.length_cons]
        omega
      rw [lives_eq, List.cons_append, tryLines_of_misses first, ih others]

theorem Tries.miss {lives : Nat} {ahead rest : List (List UInt8)} {result : Except Failure Verdict}
    (h : Tries target lives ahead result rest) (miss : Misses target line) :
    Tries target (lives + 1) (line :: ahead) result rest := by
  cases h with
  | won few missed hit =>
      exact .won (Nat.succ_lt_succ few) (List.forall_mem_cons.mpr ⟨miss, missed⟩) hit
  | lost spent missed =>
      exact .lost (congrArg (· + 1) spent) (List.forall_mem_cons.mpr ⟨miss, missed⟩)
  | closed few missed =>
      exact .closed (Nat.succ_lt_succ few) (List.forall_mem_cons.mpr ⟨miss, missed⟩)
  | garbled few missed bad =>
      exact .garbled (Nat.succ_lt_succ few) (List.forall_mem_cons.mpr ⟨miss, missed⟩) bad

/-- The lines that a challenge leaves are the last ones. -/
theorem Tries.isSuffix {target : String} {lives : Nat} {ahead rest : List (List UInt8)}
    {result : Except Failure Verdict} (h : Tries target lives ahead result rest) :
    rest <:+ ahead := by
  cases h with
  | won | garbled => exact (List.suffix_cons _ _).trans (List.suffix_append _ _)
  | lost => exact List.suffix_append _ _
  | closed => exact List.nil_suffix

theorem Tries.ne_outputFull {target : String} {lives : Nat} {ahead rest : List (List UInt8)}
    {result : Except Failure Verdict} (h : Tries target lives ahead result rest) :
    result ≠ .error .outputFull := by
  cases h <;> nofun

theorem tries_tryLines (target : String) (lives : Nat) (ahead : List (List UInt8)) :
    Tries target lives ahead (tryLines target lives ahead).1 (tryLines target lives ahead).2 := by
  induction lives generalizing ahead with
  | zero => exact @Tries.lost target 0 [] ahead rfl nofun
  | succ lives ih =>
      cases ahead with
      | nil => exact .closed (Nat.succ_pos lives) nofun
      | cons line others =>
          cases decoded : Utf8.decode? line with
          | none =>
              rw [tryLines_of_garbled decoded]
              exact @Tries.garbled target _ [] line others (Nat.succ_pos lives) nofun decoded
          | some text =>
              have guess : lineText line = .ok (dropLineEnd text) := by rw [lineText, decoded]
              cases hits : Answer.hits (dropLineEnd text) target with
              | true =>
                  have hit : Hits target line := ⟨_, guess, hits⟩
                  rw [tryLines_of_hits hit]
                  exact @Tries.won target _ [] line others (Nat.succ_pos lives) nofun hit
              | false =>
                  have miss : Misses target line := ⟨_, guess, hits⟩
                  rw [tryLines_of_misses miss]
                  exact (ih others).miss miss

/-- The relation is what the recursion computes. -/
theorem tries_iff {lives : Nat} {ahead rest : List (List UInt8)}
    {result : Except Failure Verdict} :
    Tries target lives ahead result rest ↔ tryLines target lives ahead = (result, rest) := by
  constructor
  · intro h
    cases h with
    | won few missed hit =>
        obtain ⟨more, rfl⟩ := Nat.exists_eq_add_of_lt few
        rw [Nat.add_assoc, tryLines_append missed, tryLines_of_hits hit]
    | lost spent missed =>
        subst spent
        exact tryLines_append missed 0 rest
    | closed few missed =>
        obtain ⟨more, rfl⟩ := Nat.exists_eq_add_of_lt few
        have closed := tryLines_append missed (more + 1) []
        rwa [List.append_nil, ← Nat.add_assoc] at closed
    | garbled few missed bad =>
        obtain ⟨more, rfl⟩ := Nat.exists_eq_add_of_lt few
        rw [Nat.add_assoc, tryLines_append missed, tryLines_of_garbled bad]
  · intro h
    have tries := tries_tryLines target lives ahead
    rwa [h] at tries

/-- A challenge is tried on some lines in one way. -/
theorem Tries.unique {lives : Nat} {ahead rest left : List (List UInt8)}
    {result other : Except Failure Verdict} (h : Tries target lives ahead result rest)
    (k : Tries target lives ahead other left) : result = other ∧ rest = left := by
  rw [tries_iff] at h k
  exact Prod.mk.inj (h.symm.trans k)

end Lines

section Rounds

variable {challenge : Challenge} {play : Play} {input rest text : List UInt8} {guess : String}

theorem writes_challengeRound_of_error {failure : Failure} {finish : Play × List UInt8}
    (asked : Writes Table.seat Sitting.askGuess (play, input) text (.error failure) finish
      fun _ => True) :
    Writes Table.seat (challengeRound challenge) (play, input)
      (Utf8.encode (challengeText challenge.hint play.lives) ++ text) (.error failure) finish
      fun _ => True :=
  Sitting.writes_play.bind_silent ((Sitting.writes_print _ trivial).bind asked.bind_of_error)

theorem writes_challengeRound_of_guess
    (asked : Writes Table.seat Sitting.askGuess (play, input) text (.ok guess) (play, rest)
      fun _ => True) :
    Writes Table.seat (challengeRound challenge) (play, input)
      (Utf8.encode (challengeText challenge.hint play.lives) ++
        (text ++ Utf8.encode (verdictText challenge.target (play.guess guess).outcome)))
      (.ok (verdict? (play.guess guess).outcome)) (play.guess guess, rest) fun _ => True := by
  refine Sitting.writes_play.bind_silent ((Sitting.writes_print _ trivial).bind (asked.bind ?_))
  exact (Sitting.writes_move _).bind_silent
    ((Sitting.writes_print _ trivial).then_silent (Sitting.writes_pure _))

def attempting (challenge : Challenge) (lives : Nat) : Play :=
  Play.standing (challengeGame challenge) 0 lives

theorem attempting_hit (hit : Answer.hits guess challenge.target = true) (lives : Nat) :
    (attempting challenge lives).guess guess =
      { attempting challenge lives with outcome := .levelWon } :=
  Play.guess_of_hit rfl hit

theorem attempting_miss (miss : Answer.hits guess challenge.target = false) (lives : Nat) :
    (attempting challenge lives).guess guess =
      { attempting challenge (lives - 1) with
        outcome := if lives - 1 = 0 then .gameOver else .inProgress } :=
  Play.guess_of_miss rfl miss

/-- The rounds of a challenge that has lives left go as the lines ahead say. -/
theorem writes_challengeRounds (challenge : Challenge) (lives : Nat) (input : List UInt8) :
    ∃ text last, Writes Table.seat (challengeRounds challenge)
      (attempting challenge (lives + 1), input) text
      (tryLines challenge.target (lives + 1) (lines input)).1
      (last, (tryLines challenge.target (lives + 1) (lines input)).2.flatten)
      fun _ => True := by
  induction ahead : lines input generalizing lives input with
  | nil =>
      obtain rfl := (lines_eq_nil_iff input).mp ahead
      exact ⟨_, _, Sitting.writes_untilDone_of_error
        (writes_challengeRound_of_error (Sitting.writes_askGuess_of_nil ahead trivial))⟩
  | cons line others ih =>
      have rest : lines others.flatten = others := (splitLine_of_lines ahead).2
      have asked : Writes Table.seat Sitting.askGuess (attempting challenge (lives + 1), input)
          (Utf8.encode prompt) (lineText line) (attempting challenge (lives + 1), others.flatten)
          fun _ => True :=
        Sitting.writes_askGuess_of_cons ahead trivial
      cases text : lineText line with
      | error failure =>
          rw [text] at asked
          simp only [tryLines, text]
          exact ⟨_, _, Sitting.writes_untilDone_of_error (writes_challengeRound_of_error asked)⟩
      | ok guess =>
          rw [text] at asked
          have round : Writes Table.seat (challengeRound challenge) _ _ _ _ _ :=
            writes_challengeRound_of_guess asked
          cases hits : Answer.hits guess challenge.target with
          | true =>
              rw [attempting_hit hits] at round
              rw [tryLines_of_hits ⟨guess, text, hits⟩]
              exact ⟨_, _, Sitting.writes_untilDone_of_some round⟩
          | false =>
              rw [attempting_miss hits] at round
              rw [tryLines_of_misses ⟨guess, text, hits⟩]
              cases lives with
              | zero => exact ⟨_, _, Sitting.writes_untilDone_of_some round⟩
              | succ lives =>
                  obtain ⟨text, last, later⟩ := ih lives others.flatten rest
                  exact ⟨_, last, Sitting.writes_untilDone_of_none round later⟩

theorem start_challengeGame {lives : Nat} (count : challenge.lives.toNat = lives + 1) :
    Play.start (challengeGame challenge) = attempting challenge (lives + 1) := by
  have budget : (challengeGame challenge).livesBudget = lives + 1 := by
    show max challenge.lives.toNat 1 = lives + 1
    omega
  rw [attempting, ← budget]
  exact (Play.opened_start _).1 Nat.zero_lt_one

end Rounds

/-- A sitting at a table that is laid for it is a talk. -/
theorem writes_seated {α : Type} {act : Sitting α} {play last : Play} {input rest : List UInt8}
    {text : List UInt8} {result : Except Failure α}
    (h : Writes Table.seat act (play, input) text result (last, rest) fun _ => True) :
    Writes Console.mk
      ⟨fun console => ((act.run ⟨play, console⟩).1, (act.run ⟨play, console⟩).2.console)⟩
      input text result rest fun _ => True where
  run_of_fits := by
    intro output fits
    have run : act.run ⟨play, input, output⟩ = _ := h.run_of_fits output fits
    simp only [run, Table.seat]
  run_of_full := by
    intro output full
    obtain ⟨stop, -, stopped⟩ := h.run_of_full output full
    have run : act.run ⟨play, input, output⟩ = _ := stopped
    exact ⟨stop.2, trivial, by simp only [run, Table.seat]⟩

/-- What becomes of a challenge at the console is what its lines say, whatever the output. -/
theorem writes_playChallenge (challenge : Challenge) (input : List UInt8) :
    ∃ text, Writes Console.mk (playChallenge challenge) input text
      (tryLines challenge.target challenge.lives.toNat (lines input)).1
      (tryLines challenge.target challenge.lives.toNat (lines input)).2.flatten
      fun _ => True := by
  cases count : challenge.lives.toNat with
  | zero =>
      have none : challenge.lives = 0 := UInt64.toNat_inj.mp count
      have shown : Writes Console.mk (print (gameOverText challenge.target)) input _ _ _
          fun _ => True := writes_print _ trivial
      rw [playChallenge, if_pos none, tryLines, flatten_lines]
      exact ⟨_, shown.bind (.silent fun _ => rfl)⟩
  | succ lives =>
      have some : challenge.lives ≠ 0 := by
        intro none
        rw [none] at count
        cases count
      obtain ⟨text, last, writes⟩ := writes_challengeRounds challenge lives input
      rw [playChallenge, if_neg some, start_challengeGame count]
      exact ⟨text, writes_seated writes⟩

end GuessingGame.Console
