import GuessingGame.Proofs.Script.Grammar

/-!
# What begins a script

Some kinds of tokens are viable if a script can begin with tokens of these kinds. A
script is complete statements and then the end of input, so whether kinds are viable
is a question about the grammar alone.

A statement has the form of its keyword, and forms of different keywords differ in
their first kind. So statements can be taken off the front of a list of kinds in one
way only, and what is left begins a single statement. There `awaited` lists what can
come next: `viable_awaited` says that it lists exactly the viable kinds.
-/

namespace GuessingGame.Script

def statementKinds (statements : List Statement) : List TokenKind :=
  statements.flatMap Statement.kinds

/-- Whether a script can begin with tokens of some kinds. -/
def Viable (kinds : List TokenKind) : Prop :=
  ∃ statements, kinds <+: statementKinds statements ++ [.endOfInput]

@[simp] theorem statementKinds_nil : statementKinds [] = [] := rfl

@[simp] theorem statementKinds_cons (statement : Statement) (rest : List Statement) :
    statementKinds (statement :: rest) = statement.kinds ++ statementKinds rest := rfl

theorem map_kind_flatMap_lexemes (statements : List Statement) :
    (statements.flatMap Statement.lexemes).map Lexeme.kind = statementKinds statements :=
  List.map_flatMap

/-- Every form is that of a statement. -/
theorem Keyword.exists_statement (k : Keyword) :
    ∃ statement : Statement, statement.kinds = k.form := by
  cases k with
  | game => exact ⟨.game "", rfl⟩
  | maxLives => exact ⟨.maxLives 0, rfl⟩
  | level => exact ⟨.level 0, rfl⟩
  | target => exact ⟨.target "", rfl⟩
  | hint => exact ⟨.hint "", rfl⟩
  | solve => exact ⟨.solve, rfl⟩

theorem Viable.mono {first second : List TokenKind} (h : Viable second)
    (begins : first <+: second) : Viable first := by
  obtain ⟨statements, whole⟩ := h
  exact ⟨statements, begins.trans whole⟩

/-- Complete statements are viable, and the script may end behind them. -/
theorem viable_finished (statements : List Statement) :
    Viable (statementKinds statements ++ [.endOfInput]) :=
  ⟨statements, List.prefix_rfl⟩

/-- What follows a complete statement is viable on its own. -/
theorem viable_append_statement (statement : Statement) (rest : List TokenKind) :
    Viable (statement.kinds ++ rest) ↔ Viable rest := by
  constructor
  · rintro ⟨statements, begins⟩
    obtain ⟨k, form⟩ := statement.exists_form
    cases statements with
    | nil => simp [form, Keyword.form] at begins
    | cons first others =>
        obtain ⟨k', form'⟩ := first.exists_form
        rw [statementKinds_cons, List.append_assoc, form, form'] at begins
        -- The two forms have the same keyword in front.
        obtain rfl : k = k' := TokenKind.keyword.inj (List.cons_prefix_cons.mp begins).1
        exact ⟨others, (List.prefix_append_right_inj _).mp begins⟩
  · rintro ⟨statements, begins⟩
    refine ⟨statement :: statements, ?_⟩
    rw [statementKinds_cons, List.append_assoc]
    exact (List.prefix_append_right_inj _).mpr begins

theorem viable_append_statements (statements : List Statement) (rest : List TokenKind) :
    Viable (statementKinds statements ++ rest) ↔ Viable rest := by
  induction statements with
  | nil => rfl
  | cons statement statements ih =>
      rw [statementKinds_cons, List.append_assoc, viable_append_statement, ih]

/-- The kinds with which a statement can break off: none, a keyword, or a keyword and
its value. -/
theorem awaited_cases {begun : List TokenKind} (unfinished : awaited begun ≠ []) :
    (begun = [] ∧ awaited begun = TokenKind.statementStarts) ∨
      (∃ k : Keyword, begun = [.keyword k] ∧ awaited begun = [k.valueKind?.getD .semicolon]) ∨
      ∃ (k : Keyword) (kind : TokenKind), k.valueKind? = some kind ∧
        begun = [.keyword k, kind] ∧ awaited begun = [.semicolon] := by
  unfold awaited at unfinished ⊢
  split
  · exact .inl ⟨rfl, rfl⟩
  · exact .inr (.inl ⟨_, rfl, rfl⟩)
  · rename_i k kind
    by_cases value : k.valueKind? = some kind
    · exact .inr (.inr ⟨k, kind, value, rfl, if_pos value⟩)
    · simp [value] at unfinished
  · simp_all

/-- The end of input carries no statement on. -/
theorem endOfInput_not_mem_awaited (begun : List TokenKind) :
    TokenKind.endOfInput ∉ awaited begun := by
  by_cases unfinished : awaited begun = []
  · simp [unfinished]
  · rcases awaited_cases unfinished with ⟨-, wanted⟩ | ⟨k, -, wanted⟩ | ⟨k, kind, -, -, wanted⟩
    · simp [wanted, TokenKind.statementStarts]
    · cases k <;> simp [wanted, Keyword.valueKind?]
    · simp [wanted]

/-- What carries a statement on is the next kind of some form. -/
theorem mem_awaited_iff {begun : List TokenKind} (unfinished : awaited begun ≠ [])
    (kind : TokenKind) : kind ∈ awaited begun ↔ ∃ k : Keyword, begun ++ [kind] <+: k.form := by
  rcases awaited_cases unfinished with
    ⟨rfl, wanted⟩ | ⟨k, rfl, wanted⟩ | ⟨k, value, needs, rfl, wanted⟩
  · rw [wanted]
    constructor
    · intro member
      obtain ⟨k, -, rfl⟩ := List.mem_map.mp member
      exact ⟨k, _, rfl⟩
    · rintro ⟨k, rest, form⟩
      obtain rfl := (List.cons.inj form).1
      exact List.mem_map_of_mem k.mem_all
  · rw [wanted, List.mem_singleton]
    constructor
    · rintro rfl
      cases needs : k.valueKind? <;> exact ⟨k, _, by rw [Keyword.form, needs]; rfl⟩
    · rintro ⟨k', rest, form⟩
      obtain ⟨same, behind⟩ := List.cons.inj form
      obtain rfl := TokenKind.keyword.inj same
      cases needs : k.valueKind? <;> rw [needs] at behind <;> exact (List.cons.inj behind).1
  · rw [wanted, List.mem_singleton]
    constructor
    · rintro rfl
      exact ⟨k, [], by rw [Keyword.form, needs]; rfl⟩
    · rintro ⟨k', rest, form⟩
      obtain ⟨same, behind⟩ := List.cons.inj form
      obtain rfl := TokenKind.keyword.inj same
      rw [needs] at behind
      exact (List.cons.inj (List.cons.inj behind).2).1

/-- Where a statement has begun, exactly the awaited kinds are viable. Before it begins
the script may end as well. -/
theorem viable_awaited {begun : List TokenKind} (unfinished : awaited begun ≠ [])
    (kind : TokenKind) :
    Viable (begun ++ [kind]) ↔ kind ∈ awaited begun ∨ begun = [] ∧ kind = .endOfInput := by
  constructor
  · rintro ⟨statements, begins⟩
    cases statements with
    | nil =>
        rcases List.prefix_concat_iff.mp begins with last | none
        · obtain ⟨rfl, ended⟩ := List.append_inj' last rfl
          exact .inr ⟨rfl, List.singleton_inj.mp ended⟩
        · simp at none
    | cons statement others =>
        obtain ⟨k, form⟩ := statement.exists_form
        rw [statementKinds_cons, List.append_assoc, form] at begins
        have within : begun ++ [kind] <+: k.form := by
          rcases List.prefix_or_prefix_of_prefix begins (List.prefix_append k.form _) with
            shorter | longer
          · exact shorter
          · rcases List.prefix_concat_iff.mp longer with same | inside
            · exact same ▸ List.prefix_rfl
            · obtain ⟨rest, rfl⟩ := inside
              exact absurd (awaited_form_append k rest) unfinished
        exact .inl ((mem_awaited_iff unfinished kind).mpr ⟨k, within⟩)
  · rintro (member | ⟨rfl, rfl⟩)
    · obtain ⟨k, begins⟩ := (mem_awaited_iff unfinished kind).mp member
      obtain ⟨statement, form⟩ := k.exists_statement
      refine ⟨[statement], begins.trans ?_⟩
      rw [statementKinds_cons, form, List.append_assoc]
      exact List.prefix_append _ _
    · exact viable_finished []

/-- What has begun is viable. -/
theorem viable_begun {begun : List TokenKind} (unfinished : awaited begun ≠ []) : Viable begun := by
  obtain ⟨kind, member⟩ := List.exists_mem_of_ne_nil _ unfinished
  exact ((viable_awaited unfinished kind).mpr (.inl member)).mono (List.prefix_append _ _)

end GuessingGame.Script
