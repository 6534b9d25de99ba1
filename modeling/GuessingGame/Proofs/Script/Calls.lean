import GuessingGame.Proofs.Script.Content
import GuessingGame.Proofs.Script.Exchange

/-!
# The calls that a script makes

The statements of a script say which calls a host receives: it is told of titles, lives
and levels, and asked to play a level at every `SOLVE`. Answers and hints make no call.
What is to be played are the values written last, whatever chapter they stand in, while
the described game keeps them chapter by chapter.

A host can only cut the list of calls short. The exchanges of a reading are the calls of
the performed statements up to the first answer that does not let the reading go on.
-/

namespace GuessingGame.Script

inductive Call where
  | tell (notice : Notice)
  | ask (challenge : Challenge)
  deriving DecidableEq, Repr

def Exchange.call : Exchange → Call
  | told notice => .tell notice
  | asked challenge _ => .ask challenge

/-- What is to be played behind some statements. -/
def challengeAfter (statements : List Statement) : Challenge where
  target := (latest Statement.target? statements).getD ""
  hint := (latest Statement.hint? statements).getD ""
  lives := (latest Statement.lives? statements).getD 1

/-- The call that a statement makes when it stands behind others. -/
def Statement.call? (before : List Statement) : Statement → Option Call
  | .game title => some (.tell (.title title))
  | .maxLives lives => some (.tell (.maxLives lives))
  | .level number => some (.tell (.level number))
  | .target _ | .hint _ => none
  | .solve => some (.ask (challengeAfter before))

/-- The calls of a list of statements that stands behind others. -/
def calls (before : List Statement) : List (Place × Statement) → List (Place × Call)
  | [] => []
  | (place, statement) :: rest =>
    ((statement.call? before).map (place, ·)).toList ++ calls (before ++ [statement]) rest

/-- `Cut due made` says that the exchanges `made` are the calls `due` with an answer to
each, up to the first answer after which the reading does not go on. -/
inductive Cut : List (Place × Call) → List (Place × Exchange) → Prop
  | nil : Cut [] []
  | proceed {place : Place} {exchange : Exchange} {due : List (Place × Call)}
      {made : List (Place × Exchange)} : exchange.Proceeds → Cut due made →
      Cut ((place, exchange.call) :: due) ((place, exchange) :: made)
  | stop {place : Place} {exchange : Exchange} {due : List (Place × Call)} :
      ¬exchange.Proceeds → Cut ((place, exchange.call) :: due) [(place, exchange)]

theorem call?_of_notice? {statement : Statement} {notice : Notice}
    (h : statement.notice? = some notice) (before : List Statement) :
    statement.call? before = some (.tell notice) := by
  cases statement <;> cases h <;> rfl

theorem call?_of_quiet {statement : Statement} (ne : statement ≠ .solve)
    (h : statement.notice? = none) (before : List Statement) :
    statement.call? before = none := by
  cases statement with
  | solve => exact absurd rfl ne
  | target | hint => rfl
  | _ => cases h

theorem calls_of_some {statement : Statement} {before : List Statement} {call : Call}
    (h : statement.call? before = some call) (place : Place) (rest : List (Place × Statement)) :
    calls before ((place, statement) :: rest) =
      (place, call) :: calls (before ++ [statement]) rest := by
  rw [calls, h]
  rfl

theorem calls_of_none {statement : Statement} {before : List Statement}
    (h : statement.call? before = none) (place : Place) (rest : List (Place × Statement)) :
    calls before ((place, statement) :: rest) = calls (before ++ [statement]) rest := by
  rw [calls, h]
  rfl

/-- A level is to be played with what the draft holds. -/
theorem calls_of_solve {draft : Draft} {before : List Statement} (built : draft.Describes before)
    (place : Place) (rest : List (Place × Statement)) :
    calls before ((place, .solve) :: rest) =
      (place, .ask draft.challenge) :: calls (before ++ [.solve]) rest := by
  apply calls_of_some
  rw [built.challenge]
  rfl

namespace Reader.Follows

variable {σ : Type} {host : Host σ} {statements : List (Place × Statement)}
variable {reader after : Reader} {state state' : σ} {made : List (Place × Exchange)}
variable {ending : Ending}

/-- The exchanges of a run are the calls of its statements, cut at the first answer
after which it does not go on. -/
theorem cut (h : Follows host statements reader state made ending after state')
    {before : List Statement} (built : reader.draft.Describes before) :
    Cut (calls before statements) made := by
  induction h generalizing before with
  | nil => exact .nil
  | @quiet _ statement _ _ _ _ _ _ _ ne heard _ ih =>
      rw [calls_of_none (call?_of_quiet ne heard before)]
      exact ih (built.apply statement)
  | @told _ statement _ _ _ _ _ _ _ _ heard _ ih =>
      rw [calls_of_some (call?_of_notice? heard before)]
      exact .proceed (show Exchange.Proceeds (.told _) from trivial) (ih (built.apply statement))
  | @proceed _ _ reader _ _ _ _ _ _ _ _ ih =>
      have proceeds : Exchange.Proceeds (.asked reader.draft.challenge (.ok .proceed)) := rfl
      rw [calls_of_solve built]
      exact .proceed proceeds (ih (built.apply .solve))
  | @halt _ _ reader _ _ _ =>
      have stops : ¬Exchange.Proceeds (.asked reader.draft.challenge (.ok .halt)) := nofun
      rw [calls_of_solve built]
      exact .stop stops
  | @fail _ reason _ reader _ _ _ =>
      have stops : ¬Exchange.Proceeds (.asked reader.draft.challenge (.error reason)) := nofun
      rw [calls_of_solve built]
      exact .stop stops

/-- A level that could not be played ends the run there. -/
theorem ending_of_failed (h : Follows host statements reader state made ending after state')
    {place : Place} {challenge : Challenge} {reason : String}
    (failed : (place, .asked challenge (.error reason)) ∈ made) :
    ending = .failed place reason := by
  induction h with
  | nil => cases failed
  | quiet _ _ _ ih => exact ih failed
  | told _ _ ih => exact ih (by simpa using failed)
  | proceed _ _ ih => exact ih (by simpa using failed)
  | halt _ => simp at failed
  | fail _ =>
      simp only [List.mem_singleton, Prod.mk.injEq, Exchange.asked.injEq,
        Except.error.injEq] at failed
      rw [failed.1, failed.2.2]

/-- A run that finds no fault counts the levels that were asked for. -/
theorem solvesRun (h : Follows host statements reader state made ending after state')
    {fault? : Option Fault} (ok : ending.result fault? = .ok ()) :
    after.solvesRun = reader.solvesRun + (made.map Prod.snd).countP Exchange.isAsked := by
  induction h with
  | nil => rfl
  | quiet _ _ _ ih => exact ih ok
  | told _ _ ih => exact ih ok
  | proceed _ _ ih =>
      rw [ih ok, List.map_cons, List.countP_cons_of_pos rfl]
      simp only [countSolve]
      omega
  | halt _ => rfl
  | fail _ => cases ok

end Reader.Follows

/-- The exchanges of any reading with any host: they are the calls of the complete
statements in front of the first fault or the end of the script, cut at the first answer
after which the reading does not go on. Where the text behind the last semicolon is no
token, the last statement makes no call. -/
theorem exchanges_of_reading {σ : Type} (host : Host σ) (text : String) (state : σ) :
    ∃ complete behind made,
      (Cursor.ofText text).Passes complete behind ∧ behind.Stops ∧
      exchanges host text state = made.map Prod.snd ∧
      Cut (calls [] (Cursor.performed complete behind)) made ∧
      (∀ place challenge reason, (place, .asked challenge (.error reason)) ∈ made →
        (read (some host) text state).1 = .error ⟨.interrupted reason, place⟩) ∧
      (∀ report, (read (some host) text state).1 = .ok report →
        report.solvesRun = (exchanges host text state).countP Exchange.isAsked) ∧
      ∀ log, read (some host.recorded) text (log, state) =
        ((read (some host) text state).1, log ++ exchanges host text state,
          (read (some host) text state).2) := by
  obtain ⟨made, ending, after, state', follows, run, recorded⟩ := read_follows host text state
  obtain ⟨complete, behind, passes, stops, statements⟩ := (Cursor.ofText text).statements_outline
  refine ⟨complete, behind, made, passes, stops, recorded, ?_, ?_, ?_,
    read_recorded host text state⟩
  · rw [← statements]
    exact follows.cut Draft.describes_nil
  · intro place challenge reason failed
    rw [run, follows.ending_of_failed failed]
    rfl
  · intro report ok
    rw [run] at ok
    cases result : ending.result (Cursor.ofText text).outline.fault? with
    | error fault =>
        rw [result] at ok
        cases ok
    | ok _ =>
        rw [result] at ok
        cases ok
        rw [recorded]
        exact (follows.solvesRun result).trans (Nat.zero_add _)

private def willing : Host Unit := ⟨fun _ state => state, fun _ state => (.ok .proceed, state)⟩

-- The level is complete, but what stands behind its semicolon is no token.
example : exchanges willing "SOLVE; LEVEL 2; #" () = [.asked ⟨"", "", 1⟩ (.ok .proceed)] := by cbv

end GuessingGame.Script
