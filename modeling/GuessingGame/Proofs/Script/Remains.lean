import Mathlib.Data.List.Basic
import GuessingGame.Proofs.Script.Misspelling
import GuessingGame.Proofs.Script.Modes

/-!
# What remains of a failed reading

A reading that fails keeps what it has built. It has built what the complete statements in
front of the fault say, and nothing of the statement that the fault breaks off.

There is one exception. A statement is applied once the token behind its semicolon has been
read ahead, so where the text right behind a semicolon is no token, the statement in front of
it is complete and yet not applied. `game_of_failed_reading` tells the two apart by what stands
behind the complete statements, whatever host takes part in the reading.
-/

namespace GuessingGame.Script

/-- The host could not play a level that a statement at `place` asked for, and its reason is
the fault. -/
def Interrupts {σ : Type} (host? : Option (Host σ)) (challenge : Challenge) (place : Place)
    (fault : Fault) (state' : σ) : Prop :=
  ∃ host ∈ host?, ∃ reason state, host.solve challenge state = (.error reason, state') ∧
    fault = ⟨.interrupted reason, place⟩

namespace Reader

variable {σ : Type}

/-- A statement is applied, or it asks for a level that cannot be played. -/
theorem perform_cases (host? : Option (Host σ)) (place : Place) (statement : Statement)
    (reader : Reader) (state : σ) :
    let run := perform host? place statement reader state
    (run.1 = .ok () ∧ run.2.1.draft = reader.draft.apply statement) ∨
      ∃ fault, run.1 = .error fault ∧ statement = .solve ∧ run.2.1.draft = reader.draft ∧
        Interrupts host? reader.draft.challenge place fault run.2.2 := by
  intro run
  cases host? with
  | none => exact .inl ⟨rfl, rfl⟩
  | some host =>
      by_cases plays : statement = .solve
      · subst plays
        rcases answer : host.solve reader.draft.challenge state with ⟨reason | verdict, state'⟩
        · have failed : run = _ := perform_fail place answer
          rw [failed]
          exact .inr ⟨_, rfl, rfl, rfl, host, rfl, reason, state, answer, rfl⟩
        · left
          simp only [run, perform, challenge, answer]
          exact ⟨trivial, rfl⟩
      · have heard : run = _ := perform_heard host place plays reader state
        rw [heard]
        exact .inl ⟨rfl, rfl⟩

/-- To perform statements fails behind the last of them, with all of them applied, or at a
level that cannot be played, with those in front of it applied. -/
theorem follow_error_cases {host? : Option (Host σ)} {statements : List (Place × Statement)}
    {fault? : Option Fault} {reader after : Reader} {state state' : σ} {fault : Fault}
    (failed : follow host? statements fault? reader state = (.error fault, after, state')) :
    (fault? = some fault ∧
        after.draft = (statements.map Prod.snd).foldl Draft.apply reader.draft) ∨
      ∃ front place back, statements = front ++ (place, .solve) :: back ∧
        after.draft = (front.map Prod.snd).foldl Draft.apply reader.draft ∧
        Interrupts host? after.draft.challenge place fault state' := by
  induction statements generalizing reader state with
  | nil =>
      cases fault? with
      | none => cases failed
      | some waiting =>
          cases failed
          exact .inl ⟨rfl, rfl⟩
  | cons first rest ih =>
      obtain ⟨place, statement⟩ := first
      have performed := perform_cases host? place statement reader state
      rw [follow] at failed
      rcases run : perform host? place statement reader state with ⟨_ | _, middle, state₁⟩ <;>
        simp only [run] at failed performed
      · cases failed
        rcases performed with ⟨ok, -⟩ | ⟨_, same, rfl, draft, interrupted⟩
        · cases ok
        · cases same
          refine .inr ⟨[], place, rest, rfl, draft, ?_⟩
          rwa [draft]
      · rcases performed with ⟨-, draft⟩ | ⟨_, error, -⟩
        · cases halted : middle.halted with
          | true =>
              rw [if_pos halted] at failed
              cases failed
          | false =>
              rw [if_neg (by simp [halted])] at failed
              rw [List.map_cons, List.foldl_cons, ← draft]
              rcases ih failed with behind | ⟨front, solved, back, rfl, built, interrupted⟩
              · exact .inl behind
              · refine .inr ⟨(place, statement) :: front, solved, back, rfl, ?_, interrupted⟩
                rw [built, draft]
                rfl
        · cases error

end Reader

namespace Cursor

theorem Passes.holds {cursor behind : Cursor} {front back : List (Place × Statement)}
    {place : Place} {statement : Statement}
    (h : cursor.Passes (front ++ (place, statement) :: back) behind) :
    ∃ middle token tokens next, cursor.Passes front middle ∧
      middle.Holds statement (token :: tokens) next ∧ token.place = place := by
  obtain ⟨middle, before, after⟩ := h.split
  cases after with
  | cons holds _ => exact ⟨middle, _, _, _, before, holds, rfl⟩

/-- A statement of an outline stands behind those in front of it. -/
theorem holds_of_outline {cursor : Cursor} {front back : List (Place × Statement)}
    {place : Place} {statement : Statement}
    (h : cursor.outline.statements = front ++ (place, statement) :: back) :
    ∃ middle token tokens next, cursor.Passes front middle ∧
      middle.Holds statement (token :: tokens) next ∧ token.place = place := by
  have outlined := cursor.outlined
  generalize cursor.outline = outline at h outlined
  cases outlined with
  | finished passes _ _ | broken passes _ _ =>
      subst h
      exact passes.holds
  | @late complete behind fault passes _ =>
      -- the last complete statement is not in the outline, but it was passed
      have some : complete ≠ [] := by
        rintro rfl
        simp_all
      have whole : complete = front ++ (place, statement) :: (back ++ [complete.getLast some]) := by
        have shorter : complete.dropLast = front ++ (place, statement) :: back := h
        rw [← List.cons_append, ← List.append_assoc, ← shorter, List.dropLast_concat_getLast]
      rw [whole] at passes
      exact passes.holds

/-- A text that is no token is misspelt. -/
theorem isLexical_of_ahead {cursor : Cursor} {fault : Fault} (h : cursor.ahead = .error fault) :
    fault.cause.isLexical = true := by
  obtain ⟨gap, word, rest, -, -, spelt, -⟩ := fault_cases (next_of_ahead_error h)
  exact spelt.isLexical

/-- Where the text is no token, no statement goes on. -/
theorem breaks_of_ahead {cursor : Cursor} {fault : Fault} (h : cursor.ahead = .error fault) :
    cursor.Breaks fault :=
  ⟨[], cursor, .nil, by decide, .inl h⟩

end Cursor

/-- A reader that was opened at the head of a text performs the outline of the text. -/
theorem Reader.readAll_ofText {σ : Type} (host? : Option (Host σ)) {text : String} {begun : Reader}
    (opened : Reader.ofText text = .ok begun) (state : σ) :
    (Cursor.ofText text).ahead = .ok begun.ahead ∧ ∃ last, begun.readAll host? state =
      moved last (follow host? (Cursor.ofText text).outline.statements
        (Cursor.ofText text).outline.fault? .fresh state) := by
  cases first : (Cursor.ofText text).ahead with
  | error fault =>
      rw [ofText, show Lookahead.ofText text = _ from first] at opened
      cases opened
  | ok ahead =>
      rw [ofText, show Lookahead.ofText text = _ from first] at opened
      cases opened
      obtain ⟨last, all⟩ := readAll_eq_follow host? { ahead } state rfl
      have moved_eq : follow host? ahead.outline.statements ahead.outline.fault? { ahead } state =
          _ := follow_moved host? ahead.outline.statements ahead.outline.fault? .fresh ahead state
      rw [moved_eq] at all
      rw [Cursor.outline_of_ahead first]
      exact ⟨rfl, last, all⟩

/-- A reading fails where a statement breaks off, or at a level that its host could not play.
It has then built what the complete statements in front of this place say. Only if the text
right behind the last of them is no token, that one is left out. -/
theorem game_of_failed_reading {σ : Type} (host? : Option (Host σ)) (text : String) (state : σ)
    (begun : Reader) (fault : Fault) (opened : Reader.ofText text = .ok begun)
    (failed : (begun.readAll host? state).1 = .error fault) :
    let left := (begun.readAll host? state).2
    ∃ complete behind, (Cursor.ofText text).Passes complete behind ∧
      (behind.Breaks fault ∨ ∃ token tokens next,
        behind.Holds .solve (token :: tokens) next ∧
        Interrupts host? left.1.draft.challenge token.place fault left.2) ∧
      (behind.ahead ≠ .error fault →
        left.1.report.game = (Draft.ofStatements (complete.map Prod.snd)).game) ∧
      (behind.ahead = .error fault → fault.cause.isLexical = true ∧ complete ≠ [] ∧
        left.1.report.game = (Draft.ofStatements (complete.dropLast.map Prod.snd)).game) := by
  intro left
  obtain ⟨first, last, all⟩ := Reader.readAll_ofText host? opened state
  rcases run : Reader.follow host? (Cursor.ofText text).outline.statements
    (Cursor.ofText text).outline.fault? .fresh state with ⟨result, after, state'⟩
  rw [run] at all
  have left_eq : left = ({ after with ahead := last }, state') := congrArg Prod.snd all
  obtain rfl : result = .error fault := (congrArg Prod.fst all).symm.trans failed
  rw [left_eq]
  rcases Reader.follow_error_cases run with
    ⟨waiting, built⟩ | ⟨front, place, back, outline, built, interrupted⟩
  · have outlined := (Cursor.ofText text).outlined
    generalize (Cursor.ofText text).outline = outline at waiting built outlined
    cases outlined with
    | finished passes found _ => cases waiting
    | @late complete behind fault passes found =>
        cases waiting
        have some : complete ≠ [] := by
          rintro rfl
          cases passes
          rw [first] at found
          cases found
        exact ⟨complete, behind, passes, .inl (Cursor.breaks_of_ahead found),
          fun ne => absurd found ne,
          fun _ => ⟨Cursor.isLexical_of_ahead found, some, congrArg Draft.game built⟩⟩
    | @broken complete behind next fault passes found breaks =>
        cases waiting
        refine ⟨complete, behind, passes, .inl breaks, fun _ => congrArg Draft.game built, ?_⟩
        intro late
        rw [found] at late
        cases late
  · -- a level that could not be played stands behind the statements that were performed
    obtain ⟨behind, token, tokens, next, passes, holds, rfl⟩ := Cursor.holds_of_outline outline
    refine ⟨front, behind, passes, .inr ⟨token, tokens, next, holds, interrupted⟩,
      fun _ => congrArg Draft.game built, ?_⟩
    intro late
    obtain ⟨following, found, -⟩ := holds.ahead
    rw [found] at late
    cases late

/-- Where a character that begins no token stands right behind a level, the level is complete
and not built. -/
theorem game_of_failed_reading_hash :
    let text := "GAME \"A\"; LEVEL 1; #"
    let begun : Reader :=
      { ahead := ⟨⟨.keyword .game, ⟨1, 1⟩⟩, ⟨" \"A\"; LEVEL 1; #".toList, ⟨1, 5⟩⟩⟩ }
    let fault : Fault := ⟨.illegalCharacter '#', ⟨1, 20⟩⟩
    let left := (begun.readAll (none : Option (Host Unit)) ()).2
    Reader.ofText text = .ok begun ∧
      (begun.readAll (none : Option (Host Unit)) ()).1 = .error fault ∧
      left.1.report.game = { title := "A" } ∧
      ∃ complete behind, (Cursor.ofText text).Passes complete behind ∧
        (behind.ahead ≠ .error fault →
          left.1.report.game = (Draft.ofStatements (complete.map Prod.snd)).game) ∧
        (behind.ahead = .error fault → complete ≠ [] ∧
          left.1.report.game = (Draft.ofStatements (complete.dropLast.map Prod.snd)).game) := by
  intro text begun fault left
  have opened : Reader.ofText text = .ok begun := by decide +kernel
  have failed : (begun.readAll (none : Option (Host Unit)) ()).1 = .error fault := by
    decide +kernel
  have game : left.1.report.game = { title := "A" } := by decide +kernel
  obtain ⟨complete, behind, passes, -, all, late⟩ :=
    game_of_failed_reading none text () begun fault opened failed
  exact ⟨opened, failed, game, complete, behind, passes, all, fun found => (late found).2⟩

end GuessingGame.Script
