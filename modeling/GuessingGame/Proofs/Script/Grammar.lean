import GuessingGame.Proofs.Script.Reads

/-!
# Statements and their tokens

A statement is a keyword, the value that belongs to it and a semicolon. This
module says all that an attempt to read one can come to: the statement stands
there and a token follows it; it stands there, but the text behind its semicolon
is no token; or its tokens break off before the semicolon, and the fault names the
kinds that would have carried on.

No statement begins with another one, so which of the three it is depends on the
text alone.
-/

namespace GuessingGame.Script

/-- The lexemes of a statement, through its semicolon. -/
def Statement.lexemes : Statement → List Lexeme
  | .game title => [.keyword .game, .string title, .semicolon]
  | .maxLives lives => [.keyword .maxLives, .integer lives, .semicolon]
  | .level number => [.keyword .level, .integer number, .semicolon]
  | .target text => [.keyword .target, .string text, .semicolon]
  | .hint text => [.keyword .hint, .string text, .semicolon]
  | .solve => [.keyword .solve, .semicolon]

def Keyword.valueKind? : Keyword → Option TokenKind
  | .game | .target | .hint => some .string
  | .maxLives | .level => some .integer
  | .solve => none

/-- The kinds of the tokens of a statement that begins with a keyword. -/
def Keyword.form (k : Keyword) : List TokenKind :=
  .keyword k :: (k.valueKind?.toList ++ [.semicolon])

def Statement.kinds (statement : Statement) : List TokenKind := statement.lexemes.map Lexeme.kind

/-- The kinds that carry on a statement which begins with tokens of the given kinds.
There are none once it is complete. -/
def awaited : List TokenKind → List TokenKind
  | [] => TokenKind.statementStarts
  | [.keyword k] => [k.valueKind?.getD .semicolon]
  | [.keyword k, kind] => if k.valueKind? = some kind then [.semicolon] else []
  | _ => []

/-- A complete form is not carried on. -/
theorem awaited_form_append (k : Keyword) (rest : List TokenKind) :
    awaited (k.form ++ rest) = [] := by
  cases k with
  | solve => cases rest <;> rfl
  | _ => rfl

namespace Statement

theorem lexemes_ne_nil (statement : Statement) : statement.lexemes ≠ [] := by
  cases statement <;> exact List.cons_ne_nil _ _

theorem getLast?_lexemes (statement : Statement) :
    statement.lexemes.getLast? = some .semicolon := by
  cases statement <;> rfl

theorem endOfInput_not_mem_lexemes (statement : Statement) :
    Lexeme.endOfInput ∉ statement.lexemes := by
  cases statement <;> simp [lexemes]

/-- A statement is carried on by the kinds of its own lexemes. -/
theorem mem_awaited {statement : Statement} {before after : List Lexeme} {next : Lexeme}
    (h : statement.lexemes = before ++ next :: after) :
    next.kind ∈ awaited (before.map Lexeme.kind) := by
  rcases before with _ | ⟨first, _ | ⟨second, _ | ⟨third, before⟩⟩⟩
  · cases statement <;> cases h <;> decide
  · cases statement <;> cases h <;> simp [awaited, Lexeme.kind, Keyword.valueKind?]
  · cases statement <;> cases h <;> simp [awaited, Lexeme.kind, Keyword.valueKind?]
  · cases statement <;> simp [lexemes] at h

/-- Before its semicolon a statement awaits nothing else. -/
theorem awaited_before_semicolon {statement : Statement} {before : List Lexeme}
    (h : statement.lexemes = before ++ [.semicolon]) :
    awaited (before.map Lexeme.kind) = [.semicolon] := by
  have before_eq : before = statement.lexemes.dropLast := by simp [h]
  subst before_eq
  cases statement <;> rfl

/-- Every statement has the form of a keyword. -/
theorem exists_form (statement : Statement) : ∃ k : Keyword, statement.kinds = k.form := by
  cases statement with
  | game _ => exact ⟨.game, rfl⟩
  | maxLives _ => exact ⟨.maxLives, rfl⟩
  | level _ => exact ⟨.level, rfl⟩
  | target _ => exact ⟨.target, rfl⟩
  | hint _ => exact ⟨.hint, rfl⟩
  | solve => exact ⟨.solve, rfl⟩

/-- A complete statement is not carried on. -/
theorem awaited_lexemes_append (statement : Statement) (after : List Lexeme) :
    awaited ((statement.lexemes ++ after).map Lexeme.kind) = [] := by
  obtain ⟨k, form⟩ := statement.exists_form
  rw [List.map_append, ← kinds, form, awaited_form_append]

/-- No statement begins with another one. -/
theorem eq_of_lexemes_append {first second : Statement} {after : List Lexeme}
    (h : second.lexemes = first.lexemes ++ after) : first = second ∧ after = [] := by
  cases first <;> cases second <;> simp_all [lexemes]

end Statement

namespace Cursor

/-- What stands at a cursor is not wanted: the text there is no token, or it is a
token of a kind that is not among `wanted`. -/
def Blocks (cursor : Cursor) (wanted : List TokenKind) (fault : Fault) : Prop :=
  cursor.ahead = .error fault ∨
    ∃ ahead, cursor.ahead = .ok ahead ∧ ahead.current.kind ∉ wanted ∧
      fault = ⟨.unexpected wanted ahead.current.kind, ahead.current.place⟩

theorem next_of_ahead {cursor : Cursor} {ahead : Lookahead} (h : cursor.ahead = .ok ahead) :
    cursor.next = (.ok ahead.current, ahead.cursor) := by
  unfold Cursor.ahead at h
  split at h
  · cases h
    assumption
  · cases h

theorem ahead_of_next {cursor following : Cursor} {token : Token}
    (h : cursor.next = (.ok token, following)) : cursor.ahead = .ok ⟨token, following⟩ := by
  rw [Cursor.ahead, h]

theorem next_of_ahead_error {cursor : Cursor} {fault : Fault}
    (h : cursor.ahead = .error fault) : cursor.next = (.error fault, cursor.next.2) := by
  unfold Cursor.ahead at h
  split at h
  · cases h
  · rename_i found
    cases h
    rw [found]

/-- A complete statement stands at a cursor: its tokens, and the cursor behind its
semicolon. What follows the semicolon plays no part. -/
def Holds (cursor : Cursor) (statement : Statement) (tokens : List Token)
    (behind : Cursor) : Prop :=
  cursor.Reads tokens behind ∧ tokens.map Token.lexeme = statement.lexemes

/-- The first tokens of a statement stand at a cursor, and what follows them does not
carry it on. -/
def Breaks (cursor : Cursor) (fault : Fault) : Prop :=
  ∃ tokens behind, cursor.Reads tokens behind ∧ awaited (tokens.map Token.kind) ≠ [] ∧
    behind.Blocks (awaited (tokens.map Token.kind)) fault

/-- What an attempt to read a statement can come to. -/
inductive Outcome (cursor : Cursor) : Except Fault Statement × Lookahead → Prop
  /-- The statement stands there, and a token follows it. -/
  | complete {statement : Statement} {tokens : List Token} {behind : Cursor}
      {following : Lookahead} : cursor.Holds statement tokens behind →
      behind.ahead = .ok following → Outcome cursor (.ok statement, following)
  /-- The statement stands there, but the text behind it is no token. -/
  | late {statement : Statement} {tokens : List Token} {behind : Cursor} {fault : Fault}
      {left : Lookahead} : cursor.Holds statement tokens behind →
      behind.ahead = .error fault → Outcome cursor (.error fault, left)
  /-- A statement breaks off. -/
  | broken {fault : Fault} {left : Lookahead} :
      cursor.Breaks fault → Outcome cursor (.error fault, left)

end Cursor

namespace Reading

open Cursor

theorem run_take_ok {ahead following : Lookahead} (h : ahead.cursor.ahead = .ok following) :
    take.run ahead = (.ok (), following) :=
  run_take_of_ok (next_of_ahead h)

theorem run_take_error {ahead : Lookahead} {fault : Fault}
    (h : ahead.cursor.ahead = .error fault) :
    take.run ahead = (.error fault, { ahead with cursor := ahead.cursor.next.2 }) :=
  run_take_of_error (next_of_ahead_error h)

theorem run_quoted (f : String → Statement) (ahead : Lookahead) :
    (∃ text, ahead.current.lexeme = .string text ∧
        (quoted >>= fun text => pure (f text)).run ahead =
          (take >>= fun _ => pure (f text)).run ahead) ∨
      ahead.current.kind ≠ .string ∧ (quoted >>= fun text => pure (f text)).run ahead =
        (.error ⟨.unexpected [.string] ahead.current.kind, ahead.current.place⟩, ahead) := by
  obtain ⟨⟨lexeme, place⟩, cursor⟩ := ahead
  cases lexeme with
  | string text =>
      refine .inl ⟨text, rfl, ?_⟩
      simp only [quoted, Attempt.run_bind, Attempt.run_state]
      rcases take.run _ with ⟨_ | _, _⟩ <;> rfl
  | _ => exact .inr ⟨by simp [Token.kind, Lexeme.kind], rfl⟩

theorem run_number (f : UInt64 → Statement) (ahead : Lookahead) :
    (∃ value, ahead.current.lexeme = .integer value ∧
        (number >>= fun value => pure (f value)).run ahead =
          (take >>= fun _ => pure (f value)).run ahead) ∨
      ahead.current.kind ≠ .integer ∧ (number >>= fun value => pure (f value)).run ahead =
        (.error ⟨.unexpected [.integer] ahead.current.kind, ahead.current.place⟩, ahead) := by
  obtain ⟨⟨lexeme, place⟩, cursor⟩ := ahead
  cases lexeme with
  | integer value =>
      refine .inl ⟨value, rfl, ?_⟩
      simp only [number, Attempt.run_bind, Attempt.run_state]
      rcases take.run _ with ⟨_ | _, _⟩ <;> rfl
  | _ => exact .inr ⟨by simp [Token.kind, Lexeme.kind], rfl⟩

/-- What a keyword does with the token behind it: the two make a statement, and the
token is taken, or it is refused. -/
theorem run_argument {k : Keyword} {kind : TokenKind} (h : k.valueKind? = some kind)
    (ahead : Lookahead) :
    (∃ statement : Statement,
        statement.lexemes = [.keyword k, ahead.current.lexeme, .semicolon] ∧
        (argument k).run ahead = (take >>= fun _ => pure statement).run ahead) ∨
      ahead.current.kind ≠ kind ∧ (argument k).run ahead =
        (.error ⟨.unexpected [kind] ahead.current.kind, ahead.current.place⟩, ahead) := by
  cases k <;> cases h
  case game =>
      exact (run_quoted .game ahead).imp_left fun ⟨text, found, run⟩ =>
        ⟨.game text, by rw [found]; rfl, run⟩
  case maxLives =>
      exact (run_number .maxLives ahead).imp_left fun ⟨value, found, run⟩ =>
        ⟨.maxLives value, by rw [found]; rfl, run⟩
  case level =>
      exact (run_number .level ahead).imp_left fun ⟨value, found, run⟩ =>
        ⟨.level value, by rw [found]; rfl, run⟩
  case target =>
      exact (run_quoted .target ahead).imp_left fun ⟨text, found, run⟩ =>
        ⟨.target text, by rw [found]; rfl, run⟩
  case hint =>
      exact (run_quoted .hint ahead).imp_left fun ⟨text, found, run⟩ =>
        ⟨.hint text, by rw [found]; rfl, run⟩

theorem outcome_semicolon {cursor middle : Cursor} {tokens : List Token} {found : Statement}
    {ahead : Lookahead} (reads : cursor.Reads tokens middle)
    (form : found.lexemes = tokens.map Token.lexeme ++ [.semicolon])
    (h : middle.ahead = .ok ahead) :
    Cursor.Outcome cursor ((semicolon >>= fun _ => pure found).run ahead) := by
  have wanted : awaited (tokens.map Token.kind) = [.semicolon] := by
    have := Statement.awaited_before_semicolon form
    rwa [List.map_map] at this
  by_cases ends : ahead.current.lexeme = .semicolon
  · have run : semicolon.run ahead = take.run ahead := by
      simp only [semicolon, Attempt.run_state_bind, ends]
    have whole : cursor.Reads (tokens ++ [ahead.current]) ahead.cursor :=
      reads.append (.cons (next_of_ahead h) (by simp [ends]) .nil)
    have form' : (tokens ++ [ahead.current]).map Token.lexeme = found.lexemes := by
      simp [form, ends]
    cases following : ahead.cursor.ahead with
    | ok next =>
        rw [Attempt.run_bind_of_ok (run.trans (run_take_ok following))]
        exact .complete ⟨whole, form'⟩ following
    | error fault =>
        rw [Attempt.run_bind_of_error (run.trans (run_take_error following))]
        exact .late ⟨whole, form'⟩ following
  · have run : semicolon.run ahead =
        (.error ⟨.unexpected [.semicolon] ahead.current.kind, ahead.current.place⟩, ahead) := by
      obtain ⟨⟨lexeme, place⟩, rest⟩ := ahead
      cases lexeme with
      | semicolon => exact absurd rfl ends
      | _ => rfl
    have kind : ahead.current.kind ≠ .semicolon := by
      obtain ⟨⟨lexeme, place⟩, rest⟩ := ahead
      cases lexeme with
      | semicolon => exact absurd rfl ends
      | _ => simp [Token.kind, Lexeme.kind]
    rw [Attempt.run_bind_of_error run]
    refine .broken ⟨_, _, reads, by simp [wanted], .inr ⟨ahead, h, ?_, ?_⟩⟩
    · simpa [wanted] using kind
    · rw [wanted]

/-- What follows a keyword that needs a value. -/
theorem outcome_value {cursor middle : Cursor} {first : Token} {k : Keyword}
    {needed : TokenKind} {second : Lookahead} (reads : cursor.Reads [first] middle)
    (starts : first.lexeme = .keyword k) (needs : k.valueKind? = some needed)
    (h : middle.ahead = .ok second) : Cursor.Outcome cursor
      ((argument k >>= fun found => semicolon >>= fun _ => pure found).run second) := by
  rcases run_argument needs second with ⟨found, form, run⟩ | ⟨unfit, run⟩
  · have form' : found.lexemes =
        [first, second.current].map Token.lexeme ++ [.semicolon] := by
      simp [form, starts]
    have inner : second.current.lexeme ≠ .endOfInput := by
      intro ended
      apply found.endOfInput_not_mem_lexemes
      simp [form, ended]
    have both : cursor.Reads [first, second.current] second.cursor :=
      reads.append (.cons (next_of_ahead h) inner .nil)
    cases closing : second.cursor.ahead with
    | error fault =>
        have wanted : awaited ([first, second.current].map Token.kind) = [.semicolon] :=
          Statement.awaited_before_semicolon form'
        rw [Attempt.run_bind_of_error
          (run.trans (Attempt.run_bind_of_error (run_take_error closing)))]
        exact .broken ⟨_, _, both, by rw [wanted]; simp, .inl closing⟩
    | ok third =>
        rw [Attempt.run_bind_of_ok (run.trans (Attempt.run_bind_of_ok (run_take_ok closing)))]
        exact outcome_semicolon both form' closing
  · have wanted : awaited ([first].map Token.kind) = [needed] := by
      simp [Token.kind, Lexeme.kind, starts, awaited, needs]
    rw [Attempt.run_bind_of_error run]
    refine .broken ⟨_, _, reads, by rw [wanted]; simp, .inr ⟨second, h, ?_, ?_⟩⟩
    · rw [wanted]
      simpa using unfit
    · rw [wanted]

theorem outcome_statement {cursor : Cursor} {ahead : Lookahead} (h : cursor.ahead = .ok ahead) :
    Cursor.Outcome cursor (statement.run ahead) := by
  rcases kind : ahead.current.lexeme with k | _ | _ | _ | _
  case keyword =>
    have run : statement.run ahead =
        (take >>= fun _ => argument k >>= fun found => semicolon >>= fun _ => pure found).run
          ahead := by
      simp only [statement, Attempt.run_state_bind, kind]
    have first : cursor.Reads [ahead.current] ahead.cursor :=
      .cons (next_of_ahead h) (by simp [kind]) .nil
    rw [run]
    cases value : ahead.cursor.ahead with
    | error fault =>
        have unfinished : awaited ([ahead.current].map Token.kind) ≠ [] := by
          simp [Token.kind, Lexeme.kind, kind, awaited]
        rw [Attempt.run_bind_of_error (run_take_error value)]
        exact .broken ⟨_, _, first, unfinished, .inl value⟩
    | ok second =>
        rw [Attempt.run_bind_of_ok (run_take_ok value)]
        cases needs : k.valueKind? with
        | none =>
            cases k <;> cases needs
            exact outcome_semicolon first (by simp [kind]; rfl) value
        | some needed => exact outcome_value first kind needs value
  all_goals
    have run : statement.run ahead = (.error ⟨.unexpected TokenKind.statementStarts
        ahead.current.kind, ahead.current.place⟩, ahead) := by
      simp only [statement, Attempt.run_state_bind, kind]
      rfl
    rw [run]
    refine .broken ⟨_, _, .nil, by decide, .inr ⟨ahead, h, ?_, rfl⟩⟩
    simp [Token.kind, Lexeme.kind, kind, awaited, TokenKind.statementStarts]

end Reading

namespace Cursor

private theorem Holds.unique_of_le {cursor b₁ b₂ : Cursor} {first second : Statement}
    {t₁ t₂ : List Token} (h₁ : cursor.Holds first t₁ b₁) (h₂ : cursor.Holds second t₂ b₂)
    (le : t₁.length ≤ t₂.length) : first = second ∧ t₁ = t₂ ∧ b₁ = b₂ := by
  obtain ⟨rest, rfl, reads⟩ := h₁.1.split h₂.1 le
  have form : second.lexemes = first.lexemes ++ rest.map Token.lexeme := by
    rw [← h₂.2, ← h₁.2, List.map_append]
  obtain ⟨rfl, none⟩ := Statement.eq_of_lexemes_append form
  cases List.map_eq_nil_iff.mp none
  cases reads
  exact ⟨rfl, (List.append_nil _).symm, rfl⟩

/-- Only one statement can stand at a cursor. -/
theorem Holds.unique {cursor b₁ b₂ : Cursor} {first second : Statement} {t₁ t₂ : List Token}
    (h₁ : cursor.Holds first t₁ b₁) (h₂ : cursor.Holds second t₂ b₂) :
    first = second ∧ t₁ = t₂ ∧ b₁ = b₂ := by
  rcases Nat.le_total t₁.length t₂.length with le | le
  · exact h₁.unique_of_le h₂ le
  · obtain ⟨rfl, rfl, rfl⟩ := h₂.unique_of_le h₁ le
    exact ⟨rfl, rfl, rfl⟩

/-- Where a statement breaks off, no complete statement stands. -/
theorem Breaks.not_holds {cursor : Cursor} {fault : Fault} (h : cursor.Breaks fault)
    {statement : Statement} {tokens : List Token} {behind : Cursor} :
    ¬cursor.Holds statement tokens behind := by
  rintro ⟨whole, form⟩
  obtain ⟨first, middle, reads, unfinished, blocks⟩ := h
  rcases Nat.lt_or_ge first.length tokens.length with lt | le
  · obtain ⟨rest, rfl, more⟩ := reads.split whole (Nat.le_of_lt lt)
    cases more with
    | nil => simp at lt
    | @cons _ _ _ next rest found _ _ =>
        have wanted : next.kind ∈ awaited (first.map Token.kind) := by
          have split : statement.lexemes =
              first.map Token.lexeme ++ next.lexeme :: rest.map Token.lexeme := by
            rw [← form]
            simp
          have := Statement.mem_awaited split
          rwa [List.map_map] at this
        rcases blocks with fault | ⟨ahead, found', unwanted, -⟩
        · rw [ahead_of_next found] at fault
          cases fault
        · rw [ahead_of_next found] at found'
          cases found'
          exact unwanted wanted
  · obtain ⟨rest, rfl, -⟩ := whole.split reads le
    apply unfinished
    have := statement.awaited_lexemes_append (rest.map Token.lexeme)
    rwa [← form, ← List.map_append, List.map_map] at this

/-- A statement that stands at a cursor is read there, unless the text behind its
semicolon is no token. -/
theorem Holds.run {cursor behind : Cursor} {ahead : Lookahead} {statement : Statement}
    {tokens : List Token} (h : cursor.Holds statement tokens behind)
    (start : cursor.ahead = .ok ahead) :
    (∃ following, behind.ahead = .ok following ∧
        Reading.statement.run ahead = (.ok statement, following)) ∨
      ∃ fault left, behind.ahead = .error fault ∧
        Reading.statement.run ahead = (.error fault, left) := by
  have outcome := Reading.outcome_statement start
  generalize Reading.statement.run ahead = result at outcome
  cases outcome with
  | complete holds following =>
      obtain ⟨rfl, rfl, rfl⟩ := h.unique holds
      exact .inl ⟨_, following, rfl⟩
  | late holds fault =>
      obtain ⟨rfl, rfl, rfl⟩ := h.unique holds
      exact .inr ⟨_, _, fault, rfl⟩
  | broken breaks => exact absurd h breaks.not_holds

end Cursor

end GuessingGame.Script
