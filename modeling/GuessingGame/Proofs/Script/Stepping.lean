import Mathlib.Logic.Function.Iterate
import GuessingGame.Proofs.Script.Content
import GuessingGame.Proofs.Script.Remains

/-!
# Statement by statement

A reader can be asked for one statement after another, also after faults, at the end of the
script and after a halt. A lexical fault moves the cursor and leaves the token that is looked
at where it was. So the next call may go on in the middle of a statement, and put a statement
together from tokens that do not follow one another in the script.

Therefore nothing is said here of the script: `Lookahead.Takes` is about the tokens that a call
takes, wherever they come from. `Reader.Steps` is all that a call can come to. Either it takes
the tokens of one statement and performs it, or it leaves all but the lookahead as it was.
-/

namespace GuessingGame.Script

/-- A fault that is found in the text of a script, and not by a host. -/
def Fault.InScript (fault : Fault) : Prop :=
  fault.cause.isLexical = true ∨ fault.cause.isSyntactic = true

namespace Lookahead

/-- Lexemes are taken one after another, the current one first, and `following` is looked at
behind the last of them. -/
inductive Takes : Lookahead → List Lexeme → Lookahead → Prop
  | nil {ahead : Lookahead} : Takes ahead [] ahead
  | cons {ahead next following : Lookahead} {lexemes : List Lexeme} :
      ahead.cursor.ahead = .ok next → Takes next lexemes following →
      Takes ahead (ahead.current.lexeme :: lexemes) following

theorem Takes.append {ahead middle following : Lookahead} {first second : List Lexeme}
    (h : Takes ahead first middle) (k : Takes middle second following) :
    Takes ahead (first ++ second) following := by
  induction h with
  | nil => exact k
  | cons found _ ih => exact .cons found (ih k)

theorem Takes.single {ahead following : Lookahead} {lexeme : Lexeme}
    (here : ahead.current.lexeme = lexeme) (found : ahead.cursor.ahead = .ok following) :
    Takes ahead [lexeme] following := by
  subst here
  exact .cons found .nil

end Lookahead

namespace Reading

open Lookahead (Takes)

variable {α β : Type} {ahead : Lookahead}

/-- From a lookahead, a reading finds what is described, or a fault in the script. -/
def Finds (m : Reading α) (ahead : Lookahead) (post : α → Lookahead → Prop) : Prop :=
  match m.run ahead with
  | (.ok a, following) => post a following
  | (.error fault, _) => fault.InScript

theorem Finds.bind {m : Reading α} {f : α → Reading β} {middle : α → Lookahead → Prop}
    {post : β → Lookahead → Prop} (hm : m.Finds ahead middle)
    (hf : ∀ a next, middle a next → (f a).Finds next post) : (m >>= f).Finds ahead post := by
  unfold Finds at hm
  split at hm
  · rename_i a next run
    have rest := hf a next hm
    rwa [Finds, Attempt.run_bind_of_ok run]
  · rename_i fault left run
    rwa [Finds, Attempt.run_bind_of_error run]

/-- What is found may be described by less. -/
theorem Finds.mono {m : Reading α} {post weaker : α → Lookahead → Prop} (h : m.Finds ahead post)
    (le : ∀ a next, post a next → weaker a next) : m.Finds ahead weaker := by
  unfold Finds at h ⊢
  split at h
  · exact le _ _ h
  · exact h

theorem finds_pure {post : α → Lookahead → Prop} {a : α} (h : post a ahead) :
    (pure a : Reading α).Finds ahead post := h

theorem finds_refuse {post : α → Lookahead → Prop} (expected : List TokenKind) :
    (refuse expected : Reading α).Finds ahead post := .inr rfl

/-- To look at the current token takes nothing. -/
theorem Finds.look {f : Lookahead → Reading β} {post : β → Lookahead → Prop}
    (h : (f ahead).Finds ahead post) : Finds (Attempt.state >>= f) ahead post := h

theorem finds_take : take.Finds ahead fun _ next => ahead.cursor.ahead = .ok next := by
  cases found : ahead.cursor.ahead with
  | ok next => rw [Finds, run_take_ok found]
  | error fault =>
      rw [Finds, run_take_error found]
      exact .inl (Cursor.isLexical_of_ahead found)

theorem finds_quoted :
    quoted.Finds ahead fun text next => ahead.Takes [.string text] next := by
  apply Finds.look
  split
  · rename_i text here
    exact finds_take.bind fun _ next found => finds_pure (.single here found)
  · exact finds_refuse _

theorem finds_number :
    number.Finds ahead fun value next => ahead.Takes [.integer value] next := by
  apply Finds.look
  split
  · rename_i value here
    exact finds_take.bind fun _ next found => finds_pure (.single here found)
  · exact finds_refuse _

theorem finds_semicolon : semicolon.Finds ahead fun _ next => ahead.Takes [.semicolon] next := by
  apply Finds.look
  split
  · rename_i here
    exact finds_take.mono fun _ _ found => .single here found
  · exact finds_refuse _

/-- Behind a keyword stands what makes it a statement, up to the semicolon. -/
theorem finds_argument (k : Keyword) : (argument k).Finds ahead fun statement next =>
    ∃ lexemes, statement.lexemes = .keyword k :: (lexemes ++ [.semicolon]) ∧
      ahead.Takes lexemes next := by
  cases k with
  | game | target | hint =>
      exact finds_quoted.bind fun text next takes => finds_pure ⟨_, rfl, takes⟩
  | maxLives | level =>
      exact finds_number.bind fun value next takes => finds_pure ⟨_, rfl, takes⟩
  | solve => exact finds_pure ⟨[], rfl, .nil⟩

/-- A statement that is read is made of the lexemes that are taken. -/
theorem finds_statement (ahead : Lookahead) :
    statement.Finds ahead fun statement next => ahead.Takes statement.lexemes next := by
  apply Finds.look
  split
  · rename_i k here
    refine finds_take.bind fun _ second found => (finds_argument k).bind ?_
    rintro statement third ⟨lexemes, form, takes⟩
    refine finds_semicolon.bind fun _ following ends => finds_pure ?_
    rw [form, ← here]
    exact .cons found (takes.append ends)
  · exact finds_refuse _

/-- Where no keyword is looked at, no statement begins, and nothing is taken. -/
theorem run_statement_of_not_mem {ahead : Lookahead}
    (h : ahead.current.kind ∉ TokenKind.statementStarts) :
    statement.run ahead =
      (.error ⟨.unexpected TokenKind.statementStarts ahead.current.kind, ahead.current.place⟩,
        ahead) := by
  rw [statement, Attempt.run_state_bind]
  split
  · rename_i k here
    exact absurd (List.mem_map.mpr ⟨k, k.mem_all, by rw [Token.kind, here, Lexeme.kind]⟩) h
  · rfl

end Reading

namespace Reader

variable {σ : Type}

/-- `Steps host? reader state result after state' made` says what it comes to to ask a reader
for a statement: the result, the reader and the state of the host behind it, and the exchanges
with the host. -/
inductive Steps (host? : Option (Host σ)) (reader : Reader) (state : σ) :
    Except Fault Unit → Reader → σ → List Exchange → Prop
  /-- No statement is read. What is looked at may be other than before, and nothing else. -/
  | faulty {fault : Fault} {ahead : Lookahead} : fault.InScript →
      Steps host? reader state (.error fault) { reader with ahead } state []
  /-- A statement is read of which no host is told. -/
  | quiet {statement : Statement} {ahead : Lookahead} :
      reader.ahead.Takes statement.lexemes ahead →
      (host? = none ∨ statement ≠ .solve ∧ statement.notice? = none) →
      Steps host? reader state (.ok ()) ({ reader with ahead }.write statement) state []
  /-- A statement is read, and the host is told of it. -/
  | told {statement : Statement} {ahead : Lookahead} {host : Host σ} {notice : Notice} :
      reader.ahead.Takes statement.lexemes ahead → host? = some host →
      statement.notice? = some notice →
      Steps host? reader state (.ok ()) ({ reader with ahead }.write statement)
        (host.announce notice state) [.told notice]
  /-- The host plays a level. -/
  | played {ahead : Lookahead} {host : Host σ} {verdict : Verdict} {state' : σ} :
      reader.ahead.Takes Statement.solve.lexemes ahead → host? = some host →
      host.solve reader.draft.challenge state = (.ok verdict, state') →
      Steps host? reader state (.ok ())
        { reader with
          ahead
          solvesRun := reader.solvesRun + 1
          halted := reader.halted || verdict = .halt }
        state' [.asked reader.draft.challenge (.ok verdict)]
  /-- The host could not play a level. -/
  | interrupted {ahead : Lookahead} {host : Host σ} {reason : String} {state' : σ} :
      reader.ahead.Takes Statement.solve.lexemes ahead → host? = some host →
      host.solve reader.draft.challenge state = (.error reason, state') →
      Steps host? reader state (.error ⟨.interrupted reason, reader.ahead.current.place⟩)
        { reader with ahead } state' [.asked reader.draft.challenge (.error reason)]

/-- What is read is performed, and that is one of the steps. The exchanges are those that a
record shows. -/
theorem exists_steps_perform (host? : Option (Host σ)) {reader : Reader} {statement : Statement}
    {ahead : Lookahead} (takes : reader.ahead.Takes statement.lexemes ahead) (state : σ) :
    let place := reader.ahead.current.place
    let run := perform host? place statement { reader with ahead } state
    ∃ made, Steps host? reader state run.1 run.2.1 run.2.2 made ∧
      ∀ log, perform (host?.map Host.recorded) place statement { reader with ahead } (log, state) =
        (run.1, run.2.1, log ++ made, run.2.2) := by
  intro place run
  cases host? with
  | none =>
      refine ⟨[], .quiet takes (.inl rfl), fun log => ?_⟩
      rw [List.append_nil]
      rfl
  | some host =>
      by_cases plays : statement = .solve
      · subst plays
        rcases answer : host.solve reader.draft.challenge state with ⟨reason | verdict, state'⟩
        · have failed : run = _ := perform_fail place answer
          rw [failed]
          refine ⟨_, .interrupted takes rfl answer, fun log => perform_fail place ?_⟩
          simp only [Host.recorded, answer]
        · simp only [run, perform, challenge, answer, Option.map, Host.recorded]
          exact ⟨_, .played takes rfl answer, fun log => rfl⟩
      · have heard : run = _ := perform_heard host place plays _ state
        rw [heard]
        cases notice : statement.notice? with
        | none =>
            rw [hear_of_none notice]
            refine ⟨[], .quiet takes (.inr ⟨plays, notice⟩), fun log => ?_⟩
            rw [Option.map_some, perform_heard _ place plays, hear_of_none notice, List.append_nil]
        | some told =>
            rw [hear_of_some notice]
            refine ⟨[.told told], .told takes rfl notice, fun log => ?_⟩
            rw [Option.map_some, perform_heard _ place plays, hear_of_some notice]
            rfl

/-- Every call comes to one of these. -/
theorem exists_steps (host? : Option (Host σ)) (reader : Reader) (state : σ) :
    let run := reader.step host? state
    ∃ made, Steps host? reader state run.1 run.2.1 run.2.2 made ∧
      ∀ log, reader.step (host?.map Host.recorded) (log, state) =
        (run.1, run.2.1, log ++ made, run.2.2) := by
  intro run
  have found := Reading.finds_statement reader.ahead
  rcases read : Reading.statement.run reader.ahead with ⟨fault | statement, ahead⟩ <;>
    rw [Reading.Finds, read] at found
  · have stepped : run = _ := step_of_error state read
    rw [stepped]
    refine ⟨[], .faulty found, fun log => ?_⟩
    rw [step_of_error _ read, List.append_nil]
  · have stepped : run = _ := step_of_ok state read
    rw [stepped]
    obtain ⟨made, steps, recorded⟩ := exists_steps_perform host? found state
    refine ⟨made, steps, fun log => ?_⟩
    rw [step_of_ok _ read, recorded]

section

variable {host? : Option (Host σ)} {reader after : Reader} {state state' : σ}
variable {made : List Exchange}

/-- A call that fails changes nothing but what is looked at. The host has no part in it, or
it was asked for one level and could not play that. -/
theorem Steps.of_error {fault : Fault}
    (h : Steps host? reader state (.error fault) after state' made) :
    after = { reader with ahead := after.ahead } ∧
      (fault.InScript ∧ made = [] ∧ state' = state ∨
        ∃ reason, fault = ⟨.interrupted reason, reader.ahead.current.place⟩ ∧
          made = [.asked reader.draft.challenge (.error reason)]) := by
  cases h with
  | faulty found => exact ⟨rfl, .inl ⟨found, rfl, rfl⟩⟩
  | interrupted _ _ _ => exact ⟨rfl, .inr ⟨_, rfl, rfl⟩⟩

/-- A call that succeeds takes the tokens of one statement and applies that. -/
theorem Steps.of_ok (h : Steps host? reader state (.ok ()) after state' made) :
    ∃ statement, reader.ahead.Takes statement.lexemes after.ahead ∧
      after.draft = reader.draft.apply statement ∧
      after.solvesRun = reader.solvesRun + made.countP Exchange.isAsked := by
  cases h with
  | quiet takes _ | told takes _ _ => exact ⟨_, takes, rfl, rfl⟩
  | played takes _ _ => exact ⟨.solve, takes, rfl, rfl⟩

/-- Where no statement begins, a call finds the same fault again. -/
theorem step_of_not_mem (h : reader.ahead.current.kind ∉ TokenKind.statementStarts) :
    reader.step host? state =
      (.error ⟨.unexpected TokenKind.statementStarts reader.ahead.current.kind,
        reader.ahead.current.place⟩, reader, state) :=
  step_of_error state (Reading.run_statement_of_not_mem h)

end

/-- The reader and the host behind some calls for a statement, whatever came of them. -/
def onward (host? : Option (Host σ)) (reader : Reader) (state : σ) (calls : Nat) : Reader × σ :=
  (fun moment => (moment.1.step host? moment.2).2)^[calls] (reader, state)

section

variable (host? : Option (Host σ)) (reader : Reader) (state : σ)

theorem onward_succ (calls : Nat) : reader.onward host? state (calls + 1) =
    ((reader.onward host? state calls).1.step host? (reader.onward host? state calls).2).2 :=
  Function.iterate_succ_apply' _ _ _

/-- Every number of calls comes to a state of the reading. -/
theorem reached_onward {text : String} {begun : Reader} (opened : ofText text = .ok begun)
    (calls : Nat) :
    Reached host? text state (begun.onward host? state calls).1
      (begun.onward host? state calls).2 := by
  induction calls with
  | zero => exact .start opened
  | succ calls ih =>
      rw [onward_succ]
      exact .step ih rfl

/-- Where no statement begins, all later calls leave everything as it is. -/
theorem onward_of_not_mem {calls : Nat}
    (stuck : (reader.onward host? state calls).1.ahead.current.kind ∉ TokenKind.statementStarts)
    {later : Nat} (le : calls ≤ later) :
    reader.onward host? state later = reader.onward host? state calls := by
  obtain ⟨more, rfl⟩ := Nat.exists_eq_add_of_le le
  clear le
  induction more with
  | zero => rfl
  | succ more ih => rw [← Nat.add_assoc, onward_succ, ih, step_of_not_mem stuck]

end

end Reader

namespace Draft

/-- A statement leaves the levels alone, adds one, or writes to the open one. -/
theorem levels_apply (draft : Draft) (statement : Statement) :
    let levels := (draft.apply statement).game.levels
    levels = draft.game.levels ∨ (∃ level, levels = draft.game.levels ++ [level]) ∨
      ∃ last write, draft.openLevel = some last ∧ levels = draft.game.levels.modify last write := by
  cases statement with
  | game | maxLives | solve => exact .inl rfl
  | level number => exact .inr (.inl ⟨_, rfl⟩)
  | target text =>
      cases opened : draft.openLevel with
      | none => simp [Draft.apply, writeTarget, opened]
      | some last =>
          refine .inr (.inr ⟨last, ({ · with target := some text }), rfl, ?_⟩)
          simp only [Draft.apply, writeTarget, opened]
  | hint text =>
      cases opened : draft.openLevel with
      | none => simp [Draft.apply, writeHint, opened]
      | some last =>
          refine .inr (.inr ⟨last, ({ · with hint := some text }), rfl, ?_⟩)
          simp only [Draft.apply, writeHint, opened]

/-- What a draft keeps of another that was there before it. No level is taken away, and all but
the last are the same as before. Behind a level, nothing was written loosely. -/
structure Keeps (before after : Draft) : Prop where
  length_le : before.game.levels.length ≤ after.game.levels.length
  level : ∀ i, i + 1 < after.game.levels.length →
    after.game.levels[i]? = before.game.levels[i]?
  loose : before.game.levels ≠ [] →
    after.game.looseTarget = before.game.looseTarget ∧
      after.game.looseHint = before.game.looseHint

theorem keeps_refl (draft : Draft) : draft.Keeps draft :=
  ⟨Nat.le_refl _, fun _ _ => rfl, fun _ => ⟨rfl, rfl⟩⟩

/-- One statement adds a level or writes to the last one, if there is one. -/
theorem OpensLast.keeps_apply {draft : Draft} (h : draft.OpensLast) (statement : Statement) :
    draft.Keeps (draft.apply statement) := by
  have loose (some : draft.game.levels ≠ []) :
      (draft.apply statement).game.looseTarget = draft.game.looseTarget ∧
        (draft.apply statement).game.looseHint = draft.game.looseHint := by
    have opened : draft.openLevel = _ := h
    rw [if_neg some] at opened
    cases statement <;> simp [Draft.apply, addLevel, writeTarget, writeHint, opened]
  rcases draft.levels_apply statement with same | ⟨level, added⟩ | ⟨last, write, opened, written⟩
  · refine ⟨Nat.le_of_eq (congrArg List.length same.symm), fun i _ => ?_, loose⟩
    rw [same]
  · refine ⟨?_, fun i lt => ?_, loose⟩
    · rw [added, List.length_append]
      exact Nat.le_add_right _ _
    · rw [added, List.length_append] at lt
      rw [added]
      exact List.getElem?_append_left (Nat.lt_of_succ_lt_succ lt)
  · -- the open level is the last one, so a write to it is no write to another
    have last_eq : last + 1 = draft.game.levels.length := by
      have below := h.lt_length opened
      rw [show draft.openLevel = _ from h] at opened
      split at opened <;> cases opened
      omega
    have same_length : (draft.apply statement).game.levels.length = draft.game.levels.length := by
      rw [written, List.length_modify]
    refine ⟨Nat.le_of_eq same_length.symm, fun i lt => ?_, loose⟩
    rw [same_length] at lt
    rw [written]
    exact List.getElem?_modify_ne _ _ (by omega)

end Draft

/-- All that can be said of the calls for a statement, which go on whatever came of those
before. A call applies one statement, or it changes nothing but what is looked at; a host is
told of nothing then, and was asked for a level only if it could not play that. At all times
the open level is the last one. Of the levels only the last is changed, and behind a level
nothing is written loosely. A token that begins no statement stops the reading for ever. -/
theorem moments_of_calls {σ : Type} (host? : Option (Host σ)) (text : String) (start : σ)
    (begun : Reader) (opened : Reader.ofText text = .ok begun) (calls : Nat) :
    let here := begun.onward host? start calls
    let reader := here.1
    let run := reader.step host? here.2
    let after := run.2.1
    (∃ made,
      (∀ log, reader.step (host?.map Host.recorded) (log, here.2) =
        (run.1, after, log ++ made, run.2.2)) ∧
      reader.Steps host? here.2 run.1 after run.2.2 made ∧
      (∀ fault, run.1 = .error fault →
        after = { reader with ahead := after.ahead } ∧
          (fault.InScript ∧ made = [] ∧ run.2.2 = here.2 ∨
            ∃ reason, fault = ⟨.interrupted reason, reader.ahead.current.place⟩ ∧
              made = [.asked reader.draft.challenge (.error reason)])) ∧
      (run.1 = .ok () →
        ∃ statement, reader.ahead.Takes statement.lexemes after.ahead ∧
          after.draft = reader.draft.apply statement ∧
          after.solvesRun = reader.solvesRun + made.countP Exchange.isAsked)) ∧
    reader.draft.openLevel =
      (if reader.draft.game.levels = [] then none
        else some (reader.draft.game.levels.length - 1)) ∧
    reader.draft.Keeps after.draft ∧
    (reader.ahead.current.kind ∉ TokenKind.statementStarts →
      run = (.error ⟨.unexpected TokenKind.statementStarts reader.ahead.current.kind,
        reader.ahead.current.place⟩, here) ∧
      ∀ later, calls ≤ later → begun.onward host? start later = here) := by
  intro here reader run after
  have opensLast : reader.draft.OpensLast :=
    (Reader.reached_onward host? start opened calls).opensLast
  obtain ⟨made, steps, recorded⟩ := Reader.exists_steps host? reader here.2
  refine ⟨⟨made, recorded, steps, ?_, ?_⟩, opensLast, ?_, ?_⟩
  · intro fault failed
    exact Reader.Steps.of_error (failed ▸ steps)
  · intro applied
    exact Reader.Steps.of_ok (applied ▸ steps)
  · rcases Reader.draft_step host? reader here.2 with same | ⟨statement, applied⟩
    · rw [show after.draft = _ from same]
      exact reader.draft.keeps_refl
    · rw [show after.draft = _ from applied]
      exact opensLast.keeps_apply statement
  · intro stuck
    exact ⟨Reader.step_of_not_mem stuck, fun _ => Reader.onward_of_not_mem host? begun start stuck⟩

/-- A number that is too large in front of an answer is passed over: the next call takes up the
keyword in front of it and the answer behind it, and makes one statement of the two. -/
theorem moments_of_calls_resumed :
    let text := "TARGET 99999999999999999999 \"a\";"
    let begun : Reader :=
      { ahead := ⟨⟨.keyword .target, ⟨1, 1⟩⟩, ⟨" 99999999999999999999 \"a\";".toList, ⟨1, 7⟩⟩⟩ }
    let host? : Option (Host Unit) := none
    let here := begun.onward host? () 1
    let run := here.1.step host? here.2
    Reader.ofText text = .ok begun ∧
      (begun.step host? ()).1 = .error ⟨.invalidInteger "99999999999999999999", ⟨1, 8⟩⟩ ∧
      here.1.draft = {} ∧ run.1 = .ok () ∧ run.2.1.draft.game.looseTarget = some "a" ∧
      ∃ statement, here.1.ahead.Takes statement.lexemes run.2.1.ahead ∧
        run.2.1.draft = here.1.draft.apply statement := by
  intro text begun host? here run
  have opened : Reader.ofText text = .ok begun := by decide +kernel
  have ok : run.1 = .ok () := by decide +kernel
  have first : (begun.step host? ()).1 = .error ⟨.invalidInteger "99999999999999999999", ⟨1, 8⟩⟩ := by
    decide +kernel
  have loose : run.2.1.draft.game.looseTarget = some "a" := by decide +kernel
  obtain ⟨⟨made, -, -, -, applied⟩, -⟩ := moments_of_calls host? text () begun opened 1
  obtain ⟨statement, takes, built, -⟩ := applied ok
  -- what is applied here need not be computed, so nothing is unfolded to compare the two
  with_reducible exact ⟨opened, first, by decide +kernel, ok, loose, statement, takes, built⟩

end GuessingGame.Script
