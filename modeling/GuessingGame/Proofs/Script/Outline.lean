import GuessingGame.Proofs.Script.Grammar

/-!
# The outline of a script

Which statements a reading finds does not depend on the host that takes part in
it: a host can only end the reading early. The outline of a script is what there
is to perform, in order, and the fault that waits behind it.

Its statements are the complete ones at the head of the script, up to its end or to
its first fault. A statement is performed only once the token behind it has been
read, so where that token is at fault the last complete statement is missing from
the outline.
-/

namespace GuessingGame.Script

/-- The statements that a reading comes to, each with the place of its keyword, and
the fault behind the last of them, if the script does not end there. -/
structure Outline where
  statements : List (Place × Statement)
  fault? : Option Fault
  deriving DecidableEq, Repr

def Lookahead.outline (ahead : Lookahead) : Outline :=
  if ahead.current.lexeme = .endOfInput then ⟨[], none⟩
  else
    match _read : Reading.statement.run ahead with
    | (.error fault, _) => ⟨[], some fault⟩
    | (.ok statement, following) =>
      let rest := following.outline
      ⟨(ahead.current.place, statement) :: rest.statements, rest.fault?⟩
termination_by ahead.weight
decreasing_by exact Reading.weight_statement_lt _read

namespace Lookahead

theorem outline_of_end {ahead : Lookahead} (last : ahead.current.lexeme = .endOfInput) :
    ahead.outline = ⟨[], none⟩ := by
  rw [outline, if_pos last]

theorem outline_of_error {ahead left : Lookahead} {fault : Fault}
    (going : ahead.current.lexeme ≠ .endOfInput)
    (read : Reading.statement.run ahead = (.error fault, left)) :
    ahead.outline = ⟨[], some fault⟩ := by
  rw [outline, if_neg going]
  split
  · rename_i found
    rw [read] at found
    cases found
    rfl
  · rename_i found
    rw [read] at found
    cases found

theorem outline_of_ok {ahead following : Lookahead} {statement : Statement}
    (going : ahead.current.lexeme ≠ .endOfInput)
    (read : Reading.statement.run ahead = (.ok statement, following)) :
    ahead.outline = ⟨(ahead.current.place, statement) :: following.outline.statements,
      following.outline.fault?⟩ := by
  rw [outline, if_neg going]
  split
  · rename_i found
    rw [read] at found
    cases found
  · rename_i found
    rw [read] at found
    cases found
    rfl

end Lookahead

namespace Cursor

/-- The outline of the script behind a cursor. -/
def outline (cursor : Cursor) : Outline :=
  match cursor.ahead with
  | .error fault => ⟨[], some fault⟩
  | .ok ahead => ahead.outline

theorem outline_of_ahead {cursor : Cursor} {ahead : Lookahead} (h : cursor.ahead = .ok ahead) :
    cursor.outline = ahead.outline := by
  rw [outline, h]

theorem outline_of_fault {cursor : Cursor} {fault : Fault} (h : cursor.ahead = .error fault) :
    cursor.outline = ⟨[], some fault⟩ := by
  rw [outline, h]

/-- `cursor.Passes statements behind` says that complete statements stand there one
after another, up to the cursor `behind` the last semicolon. -/
inductive Passes : Cursor → List (Place × Statement) → Cursor → Prop
  | nil {cursor : Cursor} : Passes cursor [] cursor
  | cons {cursor middle behind : Cursor} {statement : Statement} {token : Token}
      {tokens : List Token} {rest : List (Place × Statement)} :
      cursor.Holds statement (token :: tokens) middle → Passes middle rest behind →
      Passes cursor ((token.place, statement) :: rest) behind

/-- No complete statement stands at a cursor. -/
def Stops (cursor : Cursor) : Prop :=
  ∀ statement tokens behind, ¬cursor.Holds statement tokens behind

/-- The first token of a statement is what stands at the cursor. -/
theorem Holds.ahead {cursor behind : Cursor} {statement : Statement} {token : Token}
    {tokens : List Token} (h : cursor.Holds statement (token :: tokens) behind) :
    ∃ following, cursor.ahead = .ok ⟨token, following⟩ ∧ token.lexeme ≠ .endOfInput := by
  obtain ⟨reads, -⟩ := h
  cases reads with
  | cons found ne _ => exact ⟨_, ahead_of_next found, ne⟩

/-- There is at least one token in a statement. -/
theorem Holds.tokens_cons {cursor behind : Cursor} {statement : Statement} {tokens : List Token}
    (h : cursor.Holds statement tokens behind) : ∃ token rest, tokens = token :: rest := by
  cases tokens with
  | nil => exact absurd h.2.symm statement.lexemes_ne_nil
  | cons token rest => exact ⟨token, rest, rfl⟩

theorem stops_of_fault {cursor : Cursor} {fault : Fault} (h : cursor.ahead = .error fault) :
    cursor.Stops := by
  intro statement tokens behind holds
  obtain ⟨token, rest, rfl⟩ := holds.tokens_cons
  obtain ⟨following, found, -⟩ := holds.ahead
  rw [h] at found
  cases found

theorem stops_of_end {cursor : Cursor} {ahead : Lookahead} (h : cursor.ahead = .ok ahead)
    (last : ahead.current.lexeme = .endOfInput) : cursor.Stops := by
  intro statement tokens behind holds
  obtain ⟨token, rest, rfl⟩ := holds.tokens_cons
  obtain ⟨following, found, ne⟩ := holds.ahead
  rw [h] at found
  cases found
  exact ne last

/-- Before a place where a token stands, and after complete statements, stands a token. -/
theorem Passes.ahead_ok {cursor behind : Cursor} {statements : List (Place × Statement)}
    (h : cursor.Passes statements behind) {last : Lookahead} (found : behind.ahead = .ok last) :
    ∃ ahead, cursor.ahead = .ok ahead := by
  cases h with
  | nil => exact ⟨last, found⟩
  | cons holds _ =>
      obtain ⟨following, first, -⟩ := holds.ahead
      exact ⟨_, first⟩

/-- Complete statements stand at the head of the outline, if a token follows them. -/
theorem Passes.outline {cursor behind : Cursor} {statements : List (Place × Statement)}
    (h : cursor.Passes statements behind) {last : Lookahead} (found : behind.ahead = .ok last) :
    cursor.outline = ⟨statements ++ last.outline.statements, last.outline.fault?⟩ := by
  induction h with
  | nil => exact outline_of_ahead found
  | cons holds passes ih =>
      obtain ⟨rest, first, going⟩ := holds.ahead
      obtain ⟨next, following⟩ := passes.ahead_ok found
      have inner := ih found
      rw [outline_of_ahead following] at inner
      rcases holds.run first with ⟨_, following', read⟩ | ⟨_, _, fault, -⟩
      · rw [following] at following'
        cases following'
        rw [outline_of_ahead first, Lookahead.outline_of_ok going read, inner]
        rfl
      · rw [following] at fault
        cases fault

/-- How a script can go on and end, and its outline in each case. -/
inductive Outlined (cursor : Cursor) : Outline → Prop
  /-- The script ends behind its last statement. -/
  | finished {complete : List (Place × Statement)} {behind : Cursor} {last : Lookahead} :
      cursor.Passes complete behind → behind.ahead = .ok last →
      last.current.lexeme = .endOfInput → Outlined cursor ⟨complete, none⟩
  /-- Right behind a statement, or at the head of the script, there is no token. -/
  | late {complete : List (Place × Statement)} {behind : Cursor} {fault : Fault} :
      cursor.Passes complete behind → behind.ahead = .error fault →
      Outlined cursor ⟨complete.dropLast, some fault⟩
  /-- A statement breaks off. -/
  | broken {complete : List (Place × Statement)} {behind : Cursor} {next : Lookahead}
      {fault : Fault} : cursor.Passes complete behind → behind.ahead = .ok next →
      behind.Breaks fault → Outlined cursor ⟨complete, some fault⟩

/-- One more statement in front. -/
theorem Outlined.cons {cursor middle : Cursor} {statement : Statement} {token : Token}
    {tokens : List Token} {following : Lookahead} {outline : Outline}
    (holds : cursor.Holds statement (token :: tokens) middle)
    (found : middle.ahead = .ok following) (h : middle.Outlined outline) :
    cursor.Outlined ⟨(token.place, statement) :: outline.statements, outline.fault?⟩ := by
  cases h with
  | finished passes last ended => exact .finished (.cons holds passes) last ended
  | broken passes next breaks => exact .broken (.cons holds passes) next breaks
  | @late complete behind fault passes late =>
      have ne : complete ≠ [] := by
        rintro rfl
        cases passes
        rw [found] at late
        cases late
      have := Outlined.late (.cons holds passes) late
      rwa [List.dropLast_cons_of_ne_nil ne] at this

theorem outlined_ahead {cursor : Cursor} {ahead : Lookahead} (h : cursor.ahead = .ok ahead) :
    cursor.Outlined ahead.outline := by
  induction weight : ahead.weight using Nat.strongRecOn generalizing cursor ahead with
  | _ n ih =>
      subst weight
      by_cases last : ahead.current.lexeme = .endOfInput
      · rw [Lookahead.outline_of_end last]
        exact .finished .nil h last
      · have outcome := Reading.outcome_statement h
        rcases read : Reading.statement.run ahead with ⟨fault | statement, following⟩
        · rw [read] at outcome
          rw [Lookahead.outline_of_error last read]
          cases outcome with
          | late holds fault =>
              obtain ⟨token, tokens, rfl⟩ := holds.tokens_cons
              exact .late (.cons holds .nil) fault
          | broken breaks => exact .broken .nil h breaks
        · rw [read] at outcome
          cases outcome with
          | complete holds found =>
              obtain ⟨token, tokens, rfl⟩ := holds.tokens_cons
              obtain ⟨rest, first, -⟩ := holds.ahead
              rw [h] at first
              cases first
              rw [Lookahead.outline_of_ok last read]
              exact .cons holds found (ih _ (Reading.weight_statement_lt read) found rfl)

/-- What the outline of a script is, whatever the script. -/
theorem outlined (cursor : Cursor) : cursor.Outlined cursor.outline := by
  cases h : cursor.ahead with
  | error fault =>
      rw [outline_of_fault h]
      exact .late .nil h
  | ok ahead =>
      rw [outline_of_ahead h]
      exact outlined_ahead h

/-- The statements that are performed of the complete ones in front of a cursor: all of
them, unless the text there is no token. -/
def performed (complete : List (Place × Statement)) (behind : Cursor) : List (Place × Statement) :=
  match behind.ahead with
  | .ok _ => complete
  | .error _ => complete.dropLast

/-- The statements of an outline are the complete ones that are performed. -/
theorem statements_outline (cursor : Cursor) :
    ∃ complete behind, cursor.Passes complete behind ∧ behind.Stops ∧
      cursor.outline.statements = performed complete behind := by
  have outlined := cursor.outlined
  generalize cursor.outline = outline at outlined
  cases outlined with
  | finished passes found ended =>
      exact ⟨_, _, passes, stops_of_end found ended, by rw [performed, found]⟩
  | late passes found => exact ⟨_, _, passes, stops_of_fault found, by rw [performed, found]⟩
  | broken passes found breaks =>
      exact ⟨_, _, passes, fun _ _ _ => breaks.not_holds, by rw [performed, found]⟩

end Cursor

end GuessingGame.Script
