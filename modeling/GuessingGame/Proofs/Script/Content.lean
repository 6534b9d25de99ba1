import GuessingGame.Proofs.Script.Acceptance

/-!
# What a script describes

A draft is built by writing one statement after another. What it holds in the end
can be said without the order of the writes: a script is a preamble and a list of
chapters, each of which begins with a level, and in every place stands the last
value that was written in the part of the script that belongs to the place.

The invariant that carries this is `Draft.Describes`. It holds of the empty draft
and of no statements, and one more statement keeps it, because a write reaches the
open level only and the open level is the last one.
-/

namespace GuessingGame.Script

namespace Statement

@[simp] def title? : Statement → Option String
  | .game title => some title
  | _ => none

@[simp] def lives? : Statement → Option UInt64
  | .maxLives lives => some lives
  | _ => none

@[simp] def level? : Statement → Option UInt64
  | .level number => some number
  | _ => none

@[simp] def target? : Statement → Option String
  | .target text => some text
  | _ => none

@[simp] def hint? : Statement → Option String
  | .hint text => some text
  | _ => none

end Statement

/-- The last value that some statements give. -/
def latest {α : Type} (value? : Statement → Option α) (statements : List Statement) : Option α :=
  (statements.filterMap value?).getLast?

@[simp] theorem latest_nil {α : Type} (value? : Statement → Option α) :
    latest value? [] = none := rfl

/-- The last value of two parts is that of the second, if it has one. -/
theorem latest_append {α : Type} (value? : Statement → Option α)
    (first second : List Statement) :
    latest value? (first ++ second) = (latest value? second).or (latest value? first) := by
  simp [latest, List.getLast?_append]

theorem latest_singleton {α : Type} (value? : Statement → Option α) (statement : Statement) :
    latest value? [statement] = value? statement := by
  cases h : value? statement <;> simp [latest, h]

/-- The number of a level, and the statements between it and the next level. -/
structure Chapter where
  number : UInt64
  body : List Statement
  deriving DecidableEq, Repr

def preamble (statements : List Statement) : List Statement :=
  statements.takeWhile (·.level?.isNone)

/-- The chapters of a script, one for every level. -/
def chapters : List Statement → List Chapter
  | [] => []
  | .level number :: rest => ⟨number, preamble rest⟩ :: chapters rest
  | _ :: rest => chapters rest

/-- A script is its preamble and its chapters; the levels stand at the heads of these. -/
theorem preamble_append_chapters (statements : List Statement) :
    preamble statements ++
      (chapters statements).flatMap (fun chapter => .level chapter.number :: chapter.body) =
        statements := by
  induction statements with
  | nil => rfl
  | cons statement rest ih =>
      cases statement with
      | level number =>
          have none : preamble (.level number :: rest) = [] := rfl
          rw [none, chapters, List.flatMap_cons, List.nil_append, List.cons_append, ih]
      | _ => exact congrArg (List.cons _) ih

/-- What more statements do to the parts of a script: up to their first level they go
to the last chapter, or to the preamble of a script that has none. -/
theorem chapters_append (first second : List Statement) :
    (chapters first = [] ∧ preamble (first ++ second) = preamble first ++ preamble second ∧
        chapters (first ++ second) = chapters second) ∨
      ∃ before number body, chapters first = before ++ [⟨number, body⟩] ∧
        preamble (first ++ second) = preamble first ∧
        chapters (first ++ second) =
          before ++ ⟨number, body ++ preamble second⟩ :: chapters second := by
  induction first with
  | nil => exact .inl ⟨rfl, rfl, rfl⟩
  | cons statement first ih =>
      cases statement with
      | level n =>
          refine .inr ?_
          rcases ih with ⟨none, loose, others⟩ | ⟨before, number, body, split, loose, others⟩
          · refine ⟨[], n, preamble first, ?_, rfl, ?_⟩
            · rw [chapters, none, List.nil_append]
            · rw [List.cons_append, chapters, loose, others, List.nil_append]
          · refine ⟨⟨n, preamble first⟩ :: before, number, body, ?_, rfl, ?_⟩
            · rw [chapters, split, List.cons_append]
            · rw [List.cons_append, chapters, loose, others, List.cons_append]
      | _ =>
          rcases ih with ⟨none, loose, others⟩ | ⟨before, number, body, split, loose, others⟩
          · exact .inl ⟨none, congrArg (List.cons _) loose, others⟩
          · exact .inr ⟨before, number, body, split, congrArg (List.cons _) loose, others⟩

def Chapter.toLevel (chapter : Chapter) : Level where
  number := chapter.number
  target := latest Statement.target? chapter.body
  hint := latest Statement.hint? chapter.body

/-- The game that a list of statements describes. -/
def described (statements : List Statement) : Game where
  title := (latest Statement.title? statements).getD ""
  maxLives := (latest Statement.lives? statements).getD 1
  levels := (chapters statements).map Chapter.toLevel
  looseTarget := latest Statement.target? (preamble statements)
  looseHint := latest Statement.hint? (preamble statements)

namespace Draft

/-- The open level is the last one, and there is one as soon as there are levels. -/
def OpensLast (draft : Draft) : Prop :=
  draft.openLevel =
    if draft.game.levels = [] then none else some (draft.game.levels.length - 1)

theorem OpensLast.lt_length {draft : Draft} (h : draft.OpensLast) {i : Nat}
    (opened : draft.openLevel = some i) : i < draft.game.levels.length := by
  rw [h] at opened
  split at opened
  · cases opened
  · rename_i some
    cases opened
    have := List.length_pos_iff.mpr some
    omega

theorem OpensLast.apply {draft : Draft} (h : draft.OpensLast) (statement : Statement) :
    (draft.apply statement).OpensLast := by
  unfold OpensLast at h ⊢
  cases statement with
  | level number => simp [Draft.apply, addLevel]
  | target text =>
      cases opened : draft.openLevel <;> simpa [Draft.apply, writeTarget, opened] using h
  | hint text =>
      cases opened : draft.openLevel <;> simpa [Draft.apply, writeHint, opened] using h
  | _ => exact h

/-- A draft holds what some statements describe, and the answer and the hint that were
written last. -/
structure Describes (draft : Draft) (statements : List Statement) : Prop where
  game : draft.game = described statements
  opensLast : draft.OpensLast
  lastTarget : draft.lastTarget = (latest Statement.target? statements).getD ""
  lastHint : draft.lastHint = (latest Statement.hint? statements).getD ""

theorem describes_nil : Describes {} [] := ⟨rfl, rfl, rfl, rfl⟩

/-- A write to the last of several levels. -/
theorem modify_last {α : Type} {before : List α} {i : Nat} (h : i = before.length) (last : α)
    (f : α → α) : (before ++ [last]).modify i f = before ++ [f last] := by
  subst h
  induction before with
  | nil => rfl
  | cons first before ih => exact congrArg (List.cons first) ih

/-- One more statement. -/
theorem Describes.apply {draft : Draft} {statements : List Statement}
    (h : draft.Describes statements) (statement : Statement) :
    (draft.apply statement).Describes (statements ++ [statement]) where
  game := by
    have opened : draft.openLevel = _ := h.opensLast
    rw [h.game] at opened
    rcases chapters_append statements [statement] with
      ⟨none, loose, others⟩ | ⟨before, number, body, split, loose, others⟩
    · have levels : (described statements).levels = [] := by rw [described, none]; rfl
      rw [if_pos levels] at opened
      rw [described, loose, others]
      cases statement <;>
        simp [Draft.apply, addLevel, writeTarget, writeHint, opened, h.game, described, none,
          latest_append, latest_singleton, preamble, chapters, Chapter.toLevel]
    · have levels : (described statements).levels =
          before.map Chapter.toLevel ++ [Chapter.toLevel ⟨number, body⟩] := by
        rw [described, split, List.map_append]
        rfl
      have last : draft.openLevel = some (before.map Chapter.toLevel).length := by
        rw [opened, levels]
        simp
      rw [described, loose, others]
      cases statement <;>
        simp [Draft.apply, addLevel, writeTarget, writeHint, last, h.game, described, split,
          modify_last, latest_append, latest_singleton, preamble, chapters, Chapter.toLevel]
  opensLast := h.opensLast.apply statement
  lastTarget := by
    rw [latest_append, latest_singleton]
    cases statement <;> simp [Draft.apply, addLevel, writeTarget, writeHint, h.lastTarget]
  lastHint := by
    rw [latest_append, latest_singleton]
    cases statement <;> simp [Draft.apply, addLevel, writeTarget, writeHint, h.lastHint]

/-- Any number of further statements. -/
theorem Describes.foldl_apply {draft : Draft} {statements : List Statement}
    (h : draft.Describes statements) (more : List Statement) :
    (more.foldl Draft.apply draft).Describes (statements ++ more) := by
  induction more generalizing draft statements with
  | nil => simpa using h
  | cons statement more ih => simpa using ih (h.apply statement)

theorem describes_ofStatements (statements : List Statement) :
    (ofStatements statements).Describes statements := by
  have built := describes_nil.foldl_apply statements
  rwa [List.nil_append] at built

/-- What is asked of a host at a statement depends on the latest values before it, in
whichever chapter they stand. -/
theorem Describes.challenge {draft : Draft} {statements : List Statement}
    (h : draft.Describes statements) : draft.challenge =
      ⟨(latest Statement.target? statements).getD "", (latest Statement.hint? statements).getD "",
        (latest Statement.lives? statements).getD 1⟩ := by
  rw [Draft.challenge, h.lastTarget, h.lastHint, h.game]
  rfl

end Draft

namespace Reader

variable {σ : Type} {host? : Option (Host σ)}

/-- The readers that reading one statement after another can come to, with the state of
the host. The reading may go on after faults, at the end of input and after a halt. -/
inductive Reached (host? : Option (Host σ)) (text : String) (state : σ) : Reader → σ → Prop
  | start {reader : Reader} : ofText text = .ok reader → Reached host? text state reader state
  | step {reader after : Reader} {state₁ state₂ : σ} {result : Except Fault Unit} :
      Reached host? text state reader state₁ →
      reader.step host? state₁ = (result, after, state₂) → Reached host? text state after state₂

/-- What a statement builds does not depend on the host, nor on its answer. -/
theorem draft_perform (host? : Option (Host σ)) (place : Place) (statement : Statement)
    (reader : Reader) (state : σ) :
    (perform host? place statement reader state).2.1.draft = reader.draft.apply statement := by
  cases host? with
  | none => rfl
  | some host =>
      cases statement with
      | solve =>
          simp only [perform, challenge]
          split <;> rfl
      | _ => rfl

/-- A step applies one statement to the draft, or leaves the draft alone. -/
theorem draft_step (host? : Option (Host σ)) (reader : Reader) (state : σ) :
    (reader.step host? state).2.1.draft = reader.draft ∨
      ∃ statement, (reader.step host? state).2.1.draft = reader.draft.apply statement := by
  rcases read : Reading.statement.run reader.ahead with ⟨fault | statement, following⟩
  · rw [step_of_error state read]
    exact .inl rfl
  · rw [step_of_ok state read, draft_perform]
    exact .inr ⟨statement, rfl⟩

theorem Reached.opensLast {text : String} {state state' : σ} {reader : Reader}
    (h : Reached host? text state reader state') : reader.draft.OpensLast := by
  induction h with
  | start started =>
      rw [ofText] at started
      cases ahead : Lookahead.ofText text with
      | error fault =>
          rw [ahead] at started
          cases started
      | ok ahead' =>
          rw [ahead] at started
          cases started
          rfl
  | @step reader after state₁ state₂ result _ stepped ih =>
      rcases draft_step host? reader state₁ with same | ⟨statement, applied⟩
      · rw [stepped] at same
        rwa [same]
      · rw [stepped] at applied
        rw [applied]
        exact ih.apply statement

end Reader

/-- An accepted script gives the game that its statements describe, and no state of any
reading holds an open level that does not exist. -/
theorem content_of_script (text : String) :
    (∀ game, readGame text = .ok game ↔
      ∃ statements : List Statement, Renders (statements.flatMap Statement.lexemes) text.toList ∧
        game = described statements) ∧
    ∀ (σ : Type) (host? : Option (Host σ)) (state state' : σ) (reader : Reader),
      Reader.Reached host? text state reader state' →
        ∀ i, reader.draft.openLevel = some i → i < reader.draft.game.levels.length := by
  constructor
  · intro game
    have content (statements : List Statement) :
        (Draft.ofStatements statements).game = described statements :=
      (Draft.describes_ofStatements statements).game
    simp only [readGame_eq_ok_iff, content]
  · intro σ host? state state' reader reached i opened
    exact reached.opensLast.lt_length opened

end GuessingGame.Script
