import GuessingGame.Proofs.Script.Outline

/-!
# Performing an outline

Reading a script and performing its outline come to the same: the statements are
performed one after another until one of them fails or the host halts the reading,
and if none does, the fault behind them is the result. The tokens that a reader
holds play no part in that, so an outline is performed by recursion on the list of
its statements.
-/

namespace GuessingGame.Script

namespace Reader

variable {σ : Type} {host? : Option (Host σ)}

/-- A reader that has nothing behind it and looks at nothing. -/
def fresh : Reader := { ahead := ⟨⟨.endOfInput, .start⟩, ⟨[], .start⟩⟩ }

/-- Performs statements in order, then finds the fault behind them. -/
def follow (host? : Option (Host σ)) : List (Place × Statement) → Option Fault → Reader → σ →
    Except Fault Unit × Reader × σ
  | [], none, reader, state => (.ok (), reader, state)
  | [], some fault, reader, state => (.error fault, reader, state)
  | (place, statement) :: rest, fault?, reader, state =>
    match perform host? place statement reader state with
    | (.error fault, reader, state) => (.error fault, reader, state)
    | (.ok (), reader, state) =>
      if reader.halted then (.ok (), reader, state)
      else follow host? rest fault? reader state

section

variable {place : Place} {statement : Statement} {rest : List (Place × Statement)}
variable {fault? : Option Fault} {reader after : Reader} {state state' : σ}

theorem follow_of_error {fault : Fault}
    (performed : perform host? place statement reader state = (.error fault, after, state')) :
    follow host? ((place, statement) :: rest) fault? reader state =
      (.error fault, after, state') := by
  rw [follow, performed]

theorem follow_of_halted
    (performed : perform host? place statement reader state = (.ok (), after, state'))
    (halted : after.halted = true) :
    follow host? ((place, statement) :: rest) fault? reader state = (.ok (), after, state') := by
  rw [follow, performed]
  exact if_pos halted

theorem follow_of_going
    (performed : perform host? place statement reader state = (.ok (), after, state'))
    (going : after.halted = false) :
    follow host? ((place, statement) :: rest) fault? reader state =
      follow host? rest fault? after state' := by
  rw [follow, performed]
  exact if_neg (by simp [going])

end

/-- The outcome of performing, with another lookahead in the reader. -/
def moved (ahead : Lookahead) (run : Except Fault Unit × Reader × σ) :
    Except Fault Unit × Reader × σ :=
  (run.1, { run.2.1 with ahead }, run.2.2)

theorem perform_moved (host? : Option (Host σ)) (place : Place) (statement : Statement)
    (reader : Reader) (ahead : Lookahead) (state : σ) :
    perform host? place statement { reader with ahead } state =
      moved ahead (perform host? place statement reader state) := by
  cases host? with
  | none => cases statement <;> rfl
  | some host =>
      cases statement with
      | solve =>
          simp only [perform, challenge]
          rcases host.solve reader.draft.challenge state with ⟨_ | _, _⟩ <;> rfl
      | _ => rfl

theorem follow_moved (host? : Option (Host σ)) (statements : List (Place × Statement))
    (fault? : Option Fault) (reader : Reader) (ahead : Lookahead) (state : σ) :
    follow host? statements fault? { reader with ahead } state =
      moved ahead (follow host? statements fault? reader state) := by
  induction statements generalizing reader state with
  | nil => cases fault? <;> rfl
  | cons first rest ih =>
      obtain ⟨place, statement⟩ := first
      simp only [follow, perform_moved]
      rcases perform host? place statement reader state with ⟨_ | _, after, state⟩
      · rfl
      · simp only [moved]
        split
        · rfl
        · exact ih after state

theorem step_of_error {reader : Reader} {fault : Fault} {left : Lookahead} (state : σ)
    (read : Reading.statement.run reader.ahead = (.error fault, left)) :
    reader.step host? state = (.error fault, { reader with ahead := left }, state) := by
  rw [step, read]

theorem step_of_ok {reader : Reader} {statement : Statement} {following : Lookahead} (state : σ)
    (read : Reading.statement.run reader.ahead = (.ok statement, following)) :
    reader.step host? state = perform host? reader.ahead.current.place statement
      { reader with ahead := following } state := by
  rw [step, read]

theorem readAll_of_finished {reader : Reader} (finished : reader.isFinished = true) (state : σ) :
    reader.readAll host? state = (.ok (), reader, state) := by
  rw [readAll, if_pos finished]

theorem readAll_of_step_error {reader after : Reader} {state state' : σ} {fault : Fault}
    (going : reader.isFinished = false)
    (stepped : reader.step host? state = (.error fault, after, state')) :
    reader.readAll host? state = (.error fault, after, state') := by
  rw [readAll, if_neg (by simp [going])]
  split
  · rename_i found
    rw [stepped] at found
    cases found
    rfl
  · rename_i found
    rw [stepped] at found
    cases found

theorem readAll_of_step_ok {reader after : Reader} {state state' : σ}
    (going : reader.isFinished = false)
    (stepped : reader.step host? state = (.ok (), after, state')) :
    reader.readAll host? state = after.readAll host? state' := by
  rw [readAll, if_neg (by simp [going])]
  split
  · rename_i found
    rw [stepped] at found
    cases found
  · rename_i found
    rw [stepped] at found
    cases found
    rfl

/-- Reading to the end performs the outline of what is ahead. -/
theorem readAll_eq_follow (host? : Option (Host σ)) (reader : Reader) (state : σ)
    (going : reader.halted = false) :
    ∃ left, reader.readAll host? state = moved left
      (follow host? reader.ahead.outline.statements reader.ahead.outline.fault? reader state) := by
  induction weight : reader.ahead.weight using Nat.strongRecOn generalizing reader state with
  | _ n ih =>
      subst weight
      by_cases last : reader.ahead.current.lexeme = .endOfInput
      · rw [Lookahead.outline_of_end last, readAll_of_finished (by simp [isFinished, last])]
        exact ⟨reader.ahead, rfl⟩
      · have unfinished : reader.isFinished = false := by simp [isFinished, going, last]
        rcases read : Reading.statement.run reader.ahead with ⟨fault | statement, following⟩
        · rw [Lookahead.outline_of_error last read,
            readAll_of_step_error unfinished (step_of_error state read)]
          exact ⟨following, rfl⟩
        · have lt := Reading.weight_statement_lt read
          have stepped : reader.step host? state = _ := step_of_ok state read
          rw [perform_moved] at stepped
          rw [Lookahead.outline_of_ok last read]
          rcases performed : perform host? reader.ahead.current.place statement reader state with
            ⟨fault | _, after, state'⟩ <;> rw [performed] at stepped
          · rw [readAll_of_step_error unfinished stepped, follow_of_error performed]
            exact ⟨following, rfl⟩
          · rw [readAll_of_step_ok unfinished stepped]
            cases halted : after.halted with
            | true =>
                rw [readAll_of_finished (by simp [isFinished, halted]),
                  follow_of_halted performed halted]
                exact ⟨following, rfl⟩
            | false =>
                obtain ⟨left, rest⟩ := ih following.weight lt { after with ahead := following }
                  state' halted rfl
                rw [rest, follow_moved, follow_of_going performed halted]
                exact ⟨left, rfl⟩

/-- Without a host every statement is applied, whatever fault waits behind the last. -/
theorem follow_none (statements : List (Place × Statement)) (fault? : Option Fault)
    (reader : Reader) (state : σ) (going : reader.halted = false) :
    follow none statements fault? reader state =
      (fault?.elim (.ok ()) .error,
        { reader with draft := (statements.map Prod.snd).foldl Draft.apply reader.draft },
        state) := by
  induction statements generalizing reader with
  | nil => cases fault? <;> rfl
  | cons first rest ih =>
      obtain ⟨place, statement⟩ := first
      have performed : perform none place statement reader state =
          (.ok (), { reader with draft := reader.draft.apply statement }, state) := rfl
      rw [follow_of_going performed going]
      exact ih { reader with draft := reader.draft.apply statement } going

end Reader

/-- A whole reading performs the outline of its text. -/
theorem read_eq_follow {σ : Type} (host? : Option (Host σ)) (text : String) (state : σ) :
    read host? text state =
      let outline := (Cursor.ofText text).outline
      let run := Reader.follow host? outline.statements outline.fault? .fresh state
      (run.1.map fun _ => run.2.1.report, run.2.2) := by
  have start : Lookahead.ofText text = (Cursor.ofText text).ahead := rfl
  rw [read, Reader.ofText, start]
  cases h : (Cursor.ofText text).ahead with
  | error fault =>
      rw [Cursor.outline_of_fault h]
      rfl
  | ok ahead =>
      rw [Cursor.outline_of_ahead h]
      obtain ⟨left, all⟩ := Reader.readAll_eq_follow host? { ahead } state rfl
      have moved := Reader.follow_moved host? ahead.outline.statements
        ahead.outline.fault? .fresh ahead state
      change Reader.follow host? _ _ { ahead } state = _ at moved
      simp only [Except.map]
      rw [all, moved]
      rfl

/-- The game of a script is built from its outline, unless a fault waits there. -/
theorem readGame_eq (text : String) :
    readGame text = match (Cursor.ofText text).outline.fault? with
      | some fault => .error fault
      | none =>
        .ok (Draft.ofStatements ((Cursor.ofText text).outline.statements.map Prod.snd)).game := by
  rw [readGame, read_eq_follow]
  dsimp only
  rw [Reader.follow_none _ _ _ _ rfl]
  cases (Cursor.ofText text).outline.fault? <;> rfl

theorem readGame_eq_error_iff {text : String} {fault : Fault} :
    readGame text = .error fault ↔ (Cursor.ofText text).outline.fault? = some fault := by
  rw [readGame_eq]
  cases (Cursor.ofText text).outline.fault? <;> simp

end GuessingGame.Script
