import GuessingGame.Proofs.Script.Outline

/-!
# A script further down

Reading depends on the text alone, and places are counted along with it. So a text that
begins some lines further down comes to the same tokens, the same statements and the same
fault, each that many lines further down and in the same column.

To begin further down commutes with every function of the reading. For the functions that
take tokens this is `Reading.Relocates`: it holds of a single step and is kept where steps
are put together, since what is handed from one to the next has no place in it.
-/

namespace GuessingGame.Script

variable (lines : Nat)

/-- The place some lines below. -/
def Place.below (place : Place) : Place := ⟨place.line + lines, place.column⟩

def Token.below (token : Token) : Token := ⟨token.lexeme, token.place.below lines⟩

def Fault.below (fault : Fault) : Fault := ⟨fault.cause, fault.place.below lines⟩

def Cursor.below (cursor : Cursor) : Cursor := ⟨cursor.rest, cursor.place.below lines⟩

def Lookahead.below (ahead : Lookahead) : Lookahead :=
  ⟨ahead.current.below lines, ahead.cursor.below lines⟩

def Outline.below (outline : Outline) : Outline where
  statements := outline.statements.map (Prod.map (Place.below lines) id)
  fault? := outline.fault?.map (Fault.below lines)

variable {lines}

theorem Place.afterAll_below (place : Place) (text : List Char) :
    (place.below lines).afterAll text = (place.afterAll text).below lines := by
  induction text generalizing place with
  | nil => rfl
  | cons c text ih =>
      have first : (place.below lines).after c = (place.after c).below lines := by
        unfold after below
        split
        · simp [Nat.add_right_comm]
        · rfl
      rw [afterAll_cons, first, ih, afterAll_cons]

@[simp] theorem Outline.map_snd_below (outline : Outline) :
    (outline.below lines).statements.map Prod.snd = outline.statements.map Prod.snd := by
  simp [below]

namespace Cursor

variable {cursor following : Cursor}

theorem behind_below (cursor : Cursor) (taken : List Char) :
    (cursor.below lines).behind taken = (cursor.behind taken).below lines := by
  rw [behind, below, Place.afterAll_below]
  rfl

/-- The next token is the same, some lines below. -/
theorem next_below (cursor : Cursor) : (cursor.below lines).next =
    ((cursor.next.1.map (Token.below lines)).mapError (Fault.below lines),
      cursor.next.2.below lines) := by
  have skipped : (cursor.below lines).skipTrivia = cursor.skipTrivia.below lines :=
    behind_below cursor (trivia false cursor.rest)
  have rest : (cursor.skipTrivia.below lines).rest = cursor.skipTrivia.rest := rfl
  simp only [next, skipped, behind_below, rest]
  rcases lexemeAt cursor.skipTrivia.rest with ⟨cause | lexeme, taken⟩
  · rfl
  · rfl

theorem next_below_of_ok {token : Token} (found : cursor.next = (.ok token, following)) :
    (cursor.below lines).next = (.ok (token.below lines), following.below lines) := by
  rw [next_below, found]
  rfl

theorem next_below_of_error {fault : Fault} (found : cursor.next = (.error fault, following)) :
    (cursor.below lines).next = (.error (fault.below lines), following.below lines) := by
  rw [next_below, found]
  rfl

end Cursor

namespace Reading

variable {α β : Type}

/-- A computation relocates if it comes to the same some lines below. -/
def Relocates (lines : Nat) (m : Reading α) : Prop :=
  ∀ ahead, m.run (ahead.below lines) =
    ((m.run ahead).1.mapError (Fault.below lines), (m.run ahead).2.below lines)

theorem Relocates.bind {m : Reading α} {f : α → Reading β} (hm : m.Relocates lines)
    (hf : ∀ a, (f a).Relocates lines) : (m >>= f).Relocates lines := by
  intro ahead
  have first := hm ahead
  rcases run : m.run ahead with ⟨fault | a, following⟩ <;> rw [run] at first
  · rw [Attempt.run_bind_of_error first, Attempt.run_bind_of_error run]
    rfl
  · rw [Attempt.run_bind_of_ok first, Attempt.run_bind_of_ok run]
    exact hf a following

/-- Of the state only what has no place in it may be looked at. -/
theorem relocates_state_bind {f : Lookahead → Reading α}
    (same : ∀ ahead : Lookahead, f (ahead.below lines) = f ahead)
    (hf : ∀ ahead, (f ahead).Relocates lines) : Relocates lines (Attempt.state >>= f) := by
  intro ahead
  rw [Attempt.run_state_bind, Attempt.run_state_bind, same]
  exact hf ahead ahead

theorem relocates_pure (a : α) : (pure a : Reading α).Relocates lines := fun _ => rfl

theorem relocates_refuse (expected : List TokenKind) :
    (refuse expected : Reading α).Relocates lines := fun _ => rfl

theorem relocates_take : take.Relocates lines := by
  intro ahead
  rcases found : ahead.cursor.next with ⟨fault | token, following⟩
  · rw [run_take_of_error found, run_take_of_error (Cursor.next_below_of_error found)]
    rfl
  · rw [run_take_of_ok found, run_take_of_ok (Cursor.next_below_of_ok found)]
    rfl

theorem relocates_quoted : quoted.Relocates lines := by
  apply relocates_state_bind (fun _ => rfl)
  intro ahead
  split
  · exact relocates_take.bind fun _ => relocates_pure _
  · exact relocates_refuse _

theorem relocates_number : number.Relocates lines := by
  apply relocates_state_bind (fun _ => rfl)
  intro ahead
  split
  · exact relocates_take.bind fun _ => relocates_pure _
  · exact relocates_refuse _

theorem relocates_semicolon : semicolon.Relocates lines := by
  apply relocates_state_bind (fun _ => rfl)
  intro ahead
  split
  · exact relocates_take
  · exact relocates_refuse _

theorem relocates_argument (k : Keyword) : (argument k).Relocates lines := by
  cases k with
  | game | target | hint => exact relocates_quoted.bind fun _ => relocates_pure _
  | maxLives | level => exact relocates_number.bind fun _ => relocates_pure _
  | solve => exact relocates_pure _

theorem relocates_statement : statement.Relocates lines := by
  apply relocates_state_bind (fun _ => rfl)
  intro ahead
  split
  · refine relocates_take.bind fun _ => (relocates_argument _).bind fun _ => ?_
    exact relocates_semicolon.bind fun _ => relocates_pure _
  · exact relocates_refuse _

end Reading

/-- The outline of a lookahead some lines below. -/
theorem Lookahead.outline_below (ahead : Lookahead) :
    (ahead.below lines).outline = ahead.outline.below lines := by
  induction weight : ahead.weight using Nat.strongRecOn generalizing ahead with
  | ind _ ih =>
      subst weight
      by_cases last : ahead.current.lexeme = .endOfInput
      · have last' : (ahead.below lines).current.lexeme = .endOfInput := last
        rw [outline_of_end last, outline_of_end last']
        rfl
      · have going : (ahead.below lines).current.lexeme ≠ .endOfInput := last
        have moved := @Reading.relocates_statement lines ahead
        rcases read : Reading.statement.run ahead with ⟨fault | statement, following⟩ <;>
          rw [read] at moved
        · rw [outline_of_error last read, outline_of_error going moved]
          rfl
        · rw [outline_of_ok last read, outline_of_ok going moved,
            ih _ (Reading.weight_statement_lt read) following rfl]
          rfl

/-- The outline of a script some lines below is the same, some lines below. -/
theorem Cursor.outline_below (cursor : Cursor) :
    (cursor.below lines).outline = cursor.outline.below lines := by
  rcases found : cursor.next with ⟨fault | token, following⟩
  · have moved : (cursor.below lines).ahead = .error (fault.below lines) := by
      rw [ahead, next_below_of_error found]
    rw [outline_of_fault moved, outline_of_fault (by rw [ahead, found])]
    rfl
  · rw [outline_of_ahead (ahead_of_next (next_below_of_ok found)),
      outline_of_ahead (ahead_of_next found)]
    exact Lookahead.outline_below ⟨token, following⟩

end GuessingGame.Script
