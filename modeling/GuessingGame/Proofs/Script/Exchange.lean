import GuessingGame.Proofs.Script.Performing

/-!
# What a host takes part in

All that passes between a reading and its host is a list of exchanges: the host is
told something, or it is asked to play a level and gives an answer. `Host.recorded`
is the same host with these exchanges written down beside its own state.

`Follows` is the performing of statements as a relation that shows the exchanges and
the way in which it ends. Its two main facts are that every performing is of this form,
and that a recorded host behaves like the host itself.
-/

namespace GuessingGame.Script

/-- One contact with a host. -/
inductive Exchange where
  /-- The host was told of a statement. -/
  | told (notice : Notice)
  /-- The host was asked to play a level, and gave its answer. -/
  | asked (challenge : Challenge) (answer : Except String Verdict)

namespace Exchange

def Proceeds : Exchange → Prop
  | told _ => True
  | asked _ answer => answer = .ok .proceed

def isAsked : Exchange → Bool
  | told _ => false
  | asked _ _ => true

end Exchange

/-- A host that writes down its exchanges. -/
def Host.recorded {σ : Type} (host : Host σ) : Host (List Exchange × σ) where
  announce notice state := (state.1 ++ [.told notice], host.announce notice state.2)
  solve challenge state :=
    let (answer, after) := host.solve challenge state.2
    (answer, (state.1 ++ [.asked challenge answer], after))

/-- The exchanges of a whole reading. -/
def exchanges {σ : Type} (host : Host σ) (text : String) (state : σ) : List Exchange :=
  (read (some host.recorded) text ([], state)).2.1

/-- How the performing of statements ends: behind the last of them, or at a level whose
host halts the reading or could not play it. -/
inductive Ending where
  | finished
  | halted
  | failed (place : Place) (reason : String)

/-- The result of an ending. The fault behind the last statement is found only there. -/
def Ending.result (fault? : Option Fault) : Ending → Except Fault Unit
  | finished => fault?.elim (.ok ()) .error
  | halted => .ok ()
  | failed place reason => .error ⟨.interrupted reason, place⟩

namespace Reader

variable {σ : Type}

def write (reader : Reader) (statement : Statement) : Reader :=
  { reader with draft := reader.draft.apply statement }

def countSolve (reader : Reader) : Reader := { reader with solvesRun := reader.solvesRun + 1 }

def halt (reader : Reader) : Reader := { reader with halted := true }

/-- `Follows host statements reader state made ending after state'` says that a host and
a reader come from their first states to their last ones by performing the statements,
with the exchanges `made`, each at the place of its statement. -/
inductive Follows (host : Host σ) : List (Place × Statement) → Reader → σ →
    List (Place × Exchange) → Ending → Reader → σ → Prop
  | nil {reader : Reader} {state : σ} : Follows host [] reader state [] .finished reader state
  | quiet {place : Place} {statement : Statement} {rest : List (Place × Statement)}
      {reader after : Reader} {state state' : σ} {made : List (Place × Exchange)}
      {ending : Ending} : statement ≠ .solve → statement.notice? = none →
      Follows host rest (reader.write statement) state made ending after state' →
      Follows host ((place, statement) :: rest) reader state made ending after state'
  | told {place : Place} {statement : Statement} {notice : Notice}
      {rest : List (Place × Statement)} {reader after : Reader} {state state' : σ}
      {made : List (Place × Exchange)} {ending : Ending} : statement.notice? = some notice →
      Follows host rest (reader.write statement) (host.announce notice state) made ending after
        state' →
      Follows host ((place, statement) :: rest) reader state ((place, .told notice) :: made)
        ending after state'
  | proceed {place : Place} {rest : List (Place × Statement)} {reader after : Reader}
      {state middle state' : σ} {made : List (Place × Exchange)} {ending : Ending} :
      host.solve reader.draft.challenge state = (.ok .proceed, middle) →
      Follows host rest reader.countSolve middle made ending after state' →
      Follows host ((place, .solve) :: rest) reader state
        ((place, .asked reader.draft.challenge (.ok .proceed)) :: made) ending after state'
  | halt {place : Place} {rest : List (Place × Statement)} {reader : Reader}
      {state state' : σ} :
      host.solve reader.draft.challenge state = (.ok .halt, state') →
      Follows host ((place, .solve) :: rest) reader state
        [(place, .asked reader.draft.challenge (.ok .halt))] .halted reader.countSolve.halt state'
  | fail {place : Place} {reason : String} {rest : List (Place × Statement)} {reader : Reader}
      {state state' : σ} :
      host.solve reader.draft.challenge state = (.error reason, state') →
      Follows host ((place, .solve) :: rest) reader state
        [(place, .asked reader.draft.challenge (.error reason))] (.failed place reason) reader
        state'

/-- Statements can always be performed. -/
theorem exists_follows (host : Host σ) (statements : List (Place × Statement))
    (reader : Reader) (state : σ) :
    ∃ made ending after state', Follows host statements reader state made ending after state' := by
  induction statements generalizing reader state with
  | nil => exact ⟨_, _, _, _, .nil⟩
  | cons first rest ih =>
      obtain ⟨place, statement⟩ := first
      by_cases plays : statement = .solve
      · subst plays
        rcases answer : host.solve reader.draft.challenge state with ⟨reason | _ | _, middle⟩
        · exact ⟨_, _, _, _, .fail answer⟩
        · obtain ⟨made, ending, after, state', follows⟩ := ih reader.countSolve middle
          exact ⟨_, _, _, _, .proceed answer follows⟩
        · exact ⟨_, _, _, _, .halt answer⟩
      · cases heard : statement.notice? with
        | none =>
            obtain ⟨made, ending, after, state', follows⟩ := ih (reader.write statement) state
            exact ⟨_, _, _, _, .quiet plays heard follows⟩
        | some notice =>
            obtain ⟨made, ending, after, state', follows⟩ :=
              ih (reader.write statement) (host.announce notice state)
            exact ⟨_, _, _, _, .told heard follows⟩

theorem ne_solve_of_notice? {statement : Statement} {notice : Notice}
    (h : statement.notice? = some notice) : statement ≠ .solve := by
  rintro rfl
  cases h

theorem perform_heard (host : Host σ) (place : Place) {statement : Statement}
    (ne : statement ≠ .solve) (reader : Reader) (state : σ) :
    perform (some host) place statement reader state =
      (.ok (), reader.write statement, host.hear statement state) := by
  cases statement with
  | solve => exact absurd rfl ne
  | _ => rfl

section

variable {host : Host σ} {reader : Reader} {state after : σ} (place : Place)

theorem perform_proceed
    (answer : host.solve reader.draft.challenge state = (.ok .proceed, after)) :
    perform (some host) place .solve reader state = (.ok (), reader.countSolve, after) := by
  simp [perform, challenge, answer, countSolve]

theorem perform_halt (answer : host.solve reader.draft.challenge state = (.ok .halt, after)) :
    perform (some host) place .solve reader state = (.ok (), reader.countSolve.halt, after) := by
  simp [perform, challenge, answer, countSolve, halt]

theorem perform_fail {reason : String}
    (answer : host.solve reader.draft.challenge state = (.error reason, after)) :
    perform (some host) place .solve reader state =
      (.error ⟨.interrupted reason, place⟩, reader, after) := by
  simp [perform, challenge, answer]

end

theorem hear_of_none {host : Host σ} {statement : Statement} (h : statement.notice? = none)
    (state : σ) : host.hear statement state = state := by
  rw [Host.hear, h]

theorem hear_of_some {host : Host σ} {statement : Statement} {notice : Notice}
    (h : statement.notice? = some notice) (state : σ) :
    host.hear statement state = host.announce notice state := by
  rw [Host.hear, h]

namespace Follows

variable {host : Host σ} {statements : List (Place × Statement)} {reader after : Reader}
variable {state state' : σ} {made : List (Place × Exchange)} {ending : Ending}

/-- The relation is what `follow` computes. -/
theorem run (h : Follows host statements reader state made ending after state')
    (going : reader.halted = false) (fault? : Option Fault) :
    follow (some host) statements fault? reader state =
      (ending.result fault?, after, state') := by
  induction h with
  | nil => cases fault? <;> rfl
  | @quiet place statement _ reader _ state _ _ _ ne heard _ ih =>
      have performed := perform_heard host place ne reader state
      rw [hear_of_none heard] at performed
      rw [follow_of_going performed going, ih going]
  | @told place statement _ _ reader _ state _ _ _ heard _ ih =>
      have performed := perform_heard host place (ne_solve_of_notice? heard) reader state
      rw [hear_of_some heard] at performed
      rw [follow_of_going performed going, ih going]
  | proceed answer _ ih => rw [follow_of_going (perform_proceed _ answer) going, ih going]
  | halt answer => rw [follow_of_halted (perform_halt _ answer) rfl, Ending.result]
  | fail answer => rw [follow_of_error (perform_fail _ answer), Ending.result]

/-- A recorded host makes the same exchanges and writes them down. -/
theorem recorded (h : Follows host statements reader state made ending after state')
    (log : List Exchange) :
    Follows host.recorded statements reader (log, state) made ending after
      (log ++ made.map Prod.snd, state') := by
  induction h generalizing log with
  | nil => simpa using Follows.nil
  | quiet ne heard _ ih => exact .quiet ne heard (ih log)
  | @told _ _ notice _ _ _ _ _ _ _ heard _ ih =>
      have more := ih (log ++ [.told notice])
      rw [List.append_assoc] at more
      exact .told heard more
  | @proceed _ _ reader _ _ _ _ _ _ answer _ ih =>
      have more := ih (log ++ [.asked reader.draft.challenge (.ok .proceed)])
      rw [List.append_assoc] at more
      exact .proceed (by simp only [Host.recorded, answer]) more
  | halt answer => exact .halt (by simp only [Host.recorded, answer]; rfl)
  | fail answer => exact .fail (by simp only [Host.recorded, answer]; rfl)

end Follows

end Reader

section

variable {σ : Type} (host : Host σ) (text : String) (state : σ)

/-- A reading with a host follows the outline of its text, and so does its record. -/
theorem read_follows :
    ∃ made ending after state',
      Reader.Follows host (Cursor.ofText text).outline.statements .fresh state made ending after
        state' ∧
      read (some host) text state =
        ((ending.result (Cursor.ofText text).outline.fault?).map fun _ => after.report, state') ∧
      exchanges host text state = made.map Prod.snd := by
  obtain ⟨made, ending, after, state', follows⟩ :=
    Reader.exists_follows host (Cursor.ofText text).outline.statements .fresh state
  refine ⟨made, ending, after, state', follows, ?_, ?_⟩
  · rw [read_eq_follow]
    dsimp only
    rw [follows.run rfl]
  · rw [exchanges, read_eq_follow]
    dsimp only
    rw [(follows.recorded []).run rfl]
    rfl

/-- To write the exchanges down changes neither the result nor what the host does. -/
theorem read_recorded (log : List Exchange) :
    read (some host.recorded) text (log, state) =
      ((read (some host) text state).1, log ++ exchanges host text state,
        (read (some host) text state).2) := by
  obtain ⟨made, ending, after, state', follows, run, recorded⟩ := read_follows host text state
  rw [run, recorded, read_eq_follow]
  dsimp only
  rw [(follows.recorded log).run rfl]

end

end GuessingGame.Script
