import GuessingGame.Attempt
import GuessingGame.Script.Cursor
import GuessingGame.Script.Host

/-!
# Reading statements

A reader holds one token of lookahead. To read a statement it takes the keyword,
the value that belongs to it and the semicolon, and the token behind the
semicolon is read before the statement has any effect: a fault in that token
keeps the statement from being applied.

The reading ends at the end of the script or when a host halts it. Reading may
be taken up again after a fault; the lookahead stays where it was, while the
cursor is behind what was read.
-/

namespace GuessingGame.Script

/-- A token that was read ahead, and the cursor behind it. -/
structure Lookahead where
  current : Token
  cursor : Cursor
  deriving DecidableEq, Repr

/-- Computations that take tokens and may find a fault. What was taken before a
fault stays taken. -/
abbrev Reading := Attempt Fault Lookahead

namespace Lookahead

/-- The lookahead at the head of a script. -/
def ofText (text : String) : Except Fault Lookahead :=
  match (Cursor.ofText text).next with
  | (.ok token, cursor) => .ok ⟨token, cursor⟩
  | (.error fault, _) => .error fault

/-- An upper bound of the tokens still to be taken, the end not counted. -/
def weight (ahead : Lookahead) : Nat :=
  ahead.cursor.rest.length + if ahead.current.lexeme = .endOfInput then 0 else 1

end Lookahead

namespace Reading

/-- Takes the current token; the next one becomes current. -/
def take : Reading Unit := ⟨fun ahead =>
  match ahead.cursor.next with
  | (.ok token, cursor) => (.ok (), ⟨token, cursor⟩)
  | (.error fault, cursor) => (.error fault, { ahead with cursor })⟩

/-- Finds fault with the current token, where one of `expected` was required. -/
def refuse {α : Type} (expected : List TokenKind) : Reading α := ⟨fun ahead =>
  (.error ⟨.unexpected expected ahead.current.kind, ahead.current.place⟩, ahead)⟩

def quoted : Reading String := do
  match (← Attempt.state).current.lexeme with
  | .string text => take; return text
  | _ => refuse [.string]

def number : Reading UInt64 := do
  match (← Attempt.state).current.lexeme with
  | .integer value => take; return value
  | _ => refuse [.integer]

def semicolon : Reading Unit := do
  match (← Attempt.state).current.lexeme with
  | .semicolon => take
  | _ => refuse [.semicolon]

def argument : Keyword → Reading Statement
  | .game => return .game (← quoted)
  | .maxLives => return .maxLives (← number)
  | .level => return .level (← number)
  | .target => return .target (← quoted)
  | .hint => return .hint (← quoted)
  | .solve => return .solve

/-- Takes a statement, through its semicolon. -/
def statement : Reading Statement := do
  match (← Attempt.state).current.lexeme with
  | .keyword k =>
    take
    let found ← argument k
    semicolon
    return found
  | _ => refuse TokenKind.statementStarts

theorem run_take_of_ok {ahead : Lookahead} {token : Token} {cursor : Cursor}
    (h : ahead.cursor.next = (.ok token, cursor)) :
    take.run ahead = (.ok (), ⟨token, cursor⟩) := by
  simp only [take, h]

theorem run_take_of_error {ahead : Lookahead} {fault : Fault} {cursor : Cursor}
    (h : ahead.cursor.next = (.error fault, cursor)) :
    take.run ahead = (.error fault, { ahead with cursor }) := by
  simp only [take, h]

/-- Taking never leaves more to take; the end of input is found again and again. -/
theorem weight_take_le (ahead : Lookahead) : (take.run ahead).2.weight ≤ ahead.weight := by
  have le := ahead.cursor.length_next_le
  rcases h : ahead.cursor.next with ⟨fault | token, cursor⟩ <;> rw [h] at le
  · rw [run_take_of_error h]
    simp only [Lookahead.weight] at le ⊢
    omega
  · rw [run_take_of_ok h]
    by_cases last : token.lexeme = .endOfInput
    · simp only [Lookahead.weight, last, if_true] at le ⊢
      omega
    · have lt := Cursor.length_next_lt h last
      simp only [Lookahead.weight, last, if_false] at lt ⊢
      omega

/-- Taking a token other than the end leaves fewer to take. -/
theorem weight_take_lt {ahead following : Lookahead} (ne : ahead.current.lexeme ≠ .endOfInput)
    (ok : take.run ahead = (.ok (), following)) : following.weight < ahead.weight := by
  have le := ahead.cursor.length_next_le
  rcases h : ahead.cursor.next with ⟨fault | token, cursor⟩ <;> rw [h] at le
  · rw [run_take_of_error h] at ok
    cases ok
  · rw [run_take_of_ok h] at ok
    cases ok
    by_cases last : token.lexeme = .endOfInput
    · simp only [Lookahead.weight, last, ne, if_true, if_false] at le ⊢
      omega
    · have lt := Cursor.length_next_lt h last
      simp only [Lookahead.weight, last, ne, if_false] at lt ⊢
      omega

/-- A computation after which there is no more to take than before. -/
private def Shrinks {α : Type} (m : Reading α) : Prop :=
  ∀ ahead, (m.run ahead).2.weight ≤ ahead.weight

private theorem Shrinks.bind {α β : Type} {m : Reading α} {f : α → Reading β}
    (hm : Shrinks m) (hf : ∀ a, Shrinks (f a)) : Shrinks (m >>= f) :=
  Attempt.run_bind_rel (fun (a b : Lookahead) => b.weight ≤ a.weight)
    (fun h k => Nat.le_trans k h) hm hf

private theorem shrinks_pure {α : Type} (a : α) : Shrinks (pure a) := fun _ => Nat.le_refl _

private theorem shrinks_state : Shrinks Attempt.state := fun _ => Nat.le_refl _

private theorem shrinks_refuse {α : Type} (expected : List TokenKind) :
    Shrinks (refuse expected : Reading α) := fun _ => Nat.le_refl _

private theorem shrinks_take : Shrinks take := weight_take_le

private theorem shrinks_quoted : Shrinks quoted :=
  shrinks_state.bind fun s => by
    split
    · exact shrinks_take.bind fun _ => shrinks_pure _
    · exact shrinks_refuse _

private theorem shrinks_number : Shrinks number :=
  shrinks_state.bind fun s => by
    split
    · exact shrinks_take.bind fun _ => shrinks_pure _
    · exact shrinks_refuse _

private theorem shrinks_semicolon : Shrinks semicolon :=
  shrinks_state.bind fun s => by
    split
    · exact shrinks_take
    · exact shrinks_refuse _

private theorem shrinks_argument : ∀ k, Shrinks (argument k)
  | .game => shrinks_quoted.bind fun _ => shrinks_pure _
  | .maxLives => shrinks_number.bind fun _ => shrinks_pure _
  | .level => shrinks_number.bind fun _ => shrinks_pure _
  | .target => shrinks_quoted.bind fun _ => shrinks_pure _
  | .hint => shrinks_quoted.bind fun _ => shrinks_pure _
  | .solve => shrinks_pure _

/-- A complete statement leaves fewer tokens to take. -/
theorem weight_statement_lt {ahead following : Lookahead} {found : Statement}
    (ok : statement.run ahead = (.ok found, following)) : following.weight < ahead.weight := by
  simp only [statement, Attempt.run_state_bind] at ok
  cases h : ahead.current.lexeme with
  | keyword k =>
    rw [h] at ok
    rcases ht : take.run ahead with ⟨fault | _, middle⟩
    · rw [Attempt.run_bind_of_error ht] at ok
      cases ok
    · rw [Attempt.run_bind_of_ok ht] at ok
      have rest : Shrinks (do let found ← argument k; semicolon; return found) :=
        (shrinks_argument k).bind fun _ => shrinks_semicolon.bind fun _ => shrinks_pure _
      have le := rest middle
      rw [ok] at le
      exact Nat.lt_of_le_of_lt le (weight_take_lt (by rw [h]; simp) ht)
  | _ =>
    rw [h] at ok
    cases ok

end Reading

/-- The outcome of a reading: the game, the levels that a host was given, and
whether it halted the reading. -/
structure Report where
  game : Game
  solvesRun : Nat
  halted : Bool
  deriving DecidableEq, Repr

structure Reader where
  ahead : Lookahead
  draft : Draft := {}
  solvesRun : Nat := 0
  halted : Bool := false
  deriving DecidableEq, Repr

namespace Reader

variable {σ : Type}

/-- The reader at the head of a script, unless its first token is at fault. -/
def ofText (text : String) : Except Fault Reader := (Lookahead.ofText text).map ({ ahead := · })

def isFinished (reader : Reader) : Bool :=
  reader.halted || reader.ahead.current.lexeme = .endOfInput

/-- What has been read, also after a fault. -/
def report (reader : Reader) : Report := ⟨reader.draft.game, reader.solvesRun, reader.halted⟩

/-- Plays the level that a statement at `place` asks for. -/
def challenge (host : Host σ) (place : Place) (reader : Reader) (state : σ) :
    Except Fault Unit × Reader × σ :=
  match host.solve reader.draft.challenge state with
  | (.error reason, state) => (.error ⟨.interrupted reason, place⟩, reader, state)
  | (.ok verdict, state) =>
    (.ok (), { reader with
      solvesRun := reader.solvesRun + 1
      halted := reader.halted || verdict = .halt }, state)

/-- The effect of a complete statement that began at `place`. Without a host,
levels are not played. -/
def perform (host? : Option (Host σ)) (place : Place) (statement : Statement)
    (reader : Reader) (state : σ) : Except Fault Unit × Reader × σ :=
  match host?, statement with
  | some host, .solve => reader.challenge host place state
  | some host, statement =>
    (.ok (), { reader with draft := reader.draft.apply statement }, host.hear statement state)
  | none, statement => (.ok (), { reader with draft := reader.draft.apply statement }, state)

/-- Reads one statement and applies it. -/
def step (host? : Option (Host σ)) (reader : Reader) (state : σ) :
    Except Fault Unit × Reader × σ :=
  match Reading.statement.run reader.ahead with
  | (.error fault, ahead) => (.error fault, { reader with ahead }, state)
  | (.ok statement, ahead) =>
    perform host? reader.ahead.current.place statement { reader with ahead } state

theorem perform_ahead (host? : Option (Host σ)) (place : Place) (statement : Statement)
    (reader : Reader) (state : σ) :
    (perform host? place statement reader state).2.1.ahead = reader.ahead := by
  unfold perform
  split
  · unfold challenge
    split <;> rfl
  · rfl
  · rfl

/-- A statement that was read leaves fewer tokens to take. -/
theorem weight_step_lt {host? : Option (Host σ)} {reader following : Reader} {state after : σ}
    (ok : step host? reader state = (.ok (), following, after)) :
    following.ahead.weight < reader.ahead.weight := by
  unfold step at ok
  rcases h : Reading.statement.run reader.ahead with ⟨fault | found, ahead⟩
  · rw [h] at ok
    cases ok
  · rw [h] at ok
    dsimp only at ok
    have kept := perform_ahead host? reader.ahead.current.place found { reader with ahead } state
    rw [ok] at kept
    rw [kept]
    exact Reading.weight_statement_lt h

/-- Reads statements until there is nothing left or a fault is found. -/
def readAll (host? : Option (Host σ)) (reader : Reader) (state : σ) :
    Except Fault Unit × Reader × σ :=
  if reader.isFinished then (.ok (), reader, state)
  else
    match _stepped : reader.step host? state with
    | (.error fault, following, after) => (.error fault, following, after)
    | (.ok (), following, after) => following.readAll host? after
termination_by reader.ahead.weight
decreasing_by exact weight_step_lt _stepped

end Reader

/-- Reads a whole script, with or without a host. -/
def read {σ : Type} (host? : Option (Host σ)) (text : String) (state : σ) :
    Except Fault Report × σ :=
  match Reader.ofText text with
  | .error fault => (.error fault, state)
  | .ok reader =>
    let (result, reader, state) := reader.readAll host? state
    (result.map fun _ => reader.report, state)

/-- Reads the game that a script describes, without playing anything. -/
def readGame (text : String) : Except Fault Game :=
  (read (none : Option (Host Unit)) text ()).1.map (·.game)

end GuessingGame.Script
