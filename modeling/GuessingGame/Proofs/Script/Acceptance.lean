import GuessingGame.Proofs.Script.Performing

/-!
# Which texts are scripts

A text is accepted exactly when it spells a list of complete statements, with any
blanks and comments between the lexemes and at both ends. A quote that is never
closed is a lexeme of the text, but never one of an accepted text: it swallows the
semicolon that its statement would need.
-/

namespace GuessingGame.Script

theorem Spells.split {first second : List Lexeme} {text rest : List Char}
    (h : Spells (first ++ second) text rest) :
    ∃ before after, text = before ++ after ∧ Spells first before (after ++ rest) ∧
      Spells second after rest := by
  induction first generalizing text with
  | nil => exact ⟨[], text, rfl, .nil, h⟩
  | cons lexeme first ih =>
      cases h with
      | @cons _ _ gap word tail _ hgap hword ends h =>
          obtain ⟨before, after, rfl, spells, spells'⟩ := ih h
          refine ⟨gap ++ (word ++ before), after, by simp, .cons hgap hword ?_ spells, spells'⟩
          simpa using ends

namespace Cursor

/-- Statements that a text spells are passed in it. -/
theorem passes_of_spells {statements : List Statement} {text rest : List Char}
    (h : Spells (statements.flatMap Statement.lexemes) text rest) (place : Place) :
    ∃ placed, Passes ⟨text ++ rest, place⟩ placed ⟨rest, place.afterAll text⟩ ∧
      placed.map Prod.snd = statements := by
  induction statements generalizing text place with
  | nil =>
      cases h
      exact ⟨[], .nil, rfl⟩
  | cons statement statements ih =>
      obtain ⟨before, after, rfl, first, others⟩ := h.split
      obtain ⟨tokens, reads, form⟩ := reads_of_spells first place
      have holds : Holds ⟨before ++ (after ++ rest), place⟩ statement tokens
          ⟨after ++ rest, place.afterAll before⟩ := ⟨reads, form⟩
      obtain ⟨token, tokens, rfl⟩ := holds.tokens_cons
      obtain ⟨placed, passes, rfl⟩ := ih others (place.afterAll before)
      refine ⟨(token.place, statement) :: placed, ?_, rfl⟩
      rw [List.append_assoc, Place.afterAll_append]
      exact .cons holds passes

/-- The tokens of the statements that were passed. -/
theorem Passes.reads {cursor behind : Cursor} {placed : List (Place × Statement)}
    (h : cursor.Passes placed behind) :
    ∃ tokens, cursor.Reads tokens behind ∧
      tokens.map Token.lexeme = (placed.map Prod.snd).flatMap Statement.lexemes := by
  induction h with
  | nil => exact ⟨[], .nil, rfl⟩
  | cons holds _ ih =>
      obtain ⟨tokens, reads, form⟩ := ih
      refine ⟨_, holds.1.append reads, ?_⟩
      rw [List.map_append, holds.2, form]
      rfl

/-- The last lexeme of a list of statements is a semicolon. -/
theorem getLast?_flatMap_lexemes (statements : List Statement) :
    ∀ lexeme ∈ (statements.flatMap Statement.lexemes).getLast?, lexeme = .semicolon := by
  rcases List.eq_nil_or_concat statements with rfl | ⟨before, last, rfl⟩
  · simp
  · intro lexeme member
    rw [List.concat_eq_append, List.flatMap_append, List.flatMap_singleton, List.getLast?_append,
      last.getLast?_lexemes, Option.some_or] at member
    cases member
    rfl

/-- Statements that were passed are spelt by the text in front of the cursor behind them. -/
theorem Passes.spells {cursor behind : Cursor} {placed : List (Place × Statement)}
    (h : cursor.Passes placed behind) :
    ∃ text, cursor.rest = text ++ behind.rest ∧
      Spells ((placed.map Prod.snd).flatMap Statement.lexemes) text behind.rest ∧
      behind.place = cursor.place.afterAll text := by
  obtain ⟨tokens, reads, form⟩ := h.reads
  rw [← form]
  apply spells_of_reads reads
  intro token member text string
  have last := getLast?_flatMap_lexemes (placed.map Prod.snd)
  rw [← form, List.getLast?_map, Option.mem_def.mp member] at last
  have := last _ rfl
  rw [string] at this
  cases this

/-- The statements that a whole text spells are its outline. -/
theorem outline_of_renders {statements : List Statement} {text : List Char}
    (h : Renders (statements.flatMap Statement.lexemes) text) (place : Place) :
    ∃ placed, outline ⟨text, place⟩ = ⟨placed, none⟩ ∧ placed.map Prod.snd = statements := by
  obtain ⟨body, final, rfl, spells, gap⟩ := h
  obtain ⟨placed, passes, rfl⟩ := passes_of_spells spells place
  have last := ahead_of_next (next_finalGap gap (place.afterAll body))
  have whole := passes.outline last
  rw [Lookahead.outline_of_end rfl, List.append_nil] at whole
  exact ⟨placed, whole, rfl⟩

/-- Where no fault waits, the statements of the outline are passed, and only a gap stands
behind them. -/
theorem passes_of_faultless {cursor : Cursor} (h : cursor.outline.fault? = none) :
    ∃ behind, cursor.Passes cursor.outline.statements behind ∧ FinalGap behind.rest := by
  have outlined := cursor.outlined
  generalize cursor.outline = outline at h outlined
  cases outlined with
  | @finished complete behind last passes found ended =>
      refine ⟨behind, passes, ?_⟩
      rcases next_cases (next_of_ahead found) with
        ⟨-, final⟩ | ⟨_, _, -, -, spelt, -⟩ | ⟨_, _, -, -, -, string, -⟩
      · exact final
      · rw [ended] at spelt
        exact spelt.elim
      · rw [ended] at string
        cases string
  | late _ _ => cases h
  | broken _ _ _ => cases h

/-- A text whose outline has no fault behind it spells the statements of the outline. -/
theorem renders_of_outline {cursor : Cursor} (h : cursor.outline.fault? = none) :
    Renders ((cursor.outline.statements.map Prod.snd).flatMap Statement.lexemes) cursor.rest := by
  obtain ⟨behind, passes, final⟩ := passes_of_faultless h
  obtain ⟨text, split, spells, -⟩ := passes.spells
  exact ⟨text, behind.rest, split, spells, final⟩

/-- Where the end of input is found behind some tokens, these are all. -/
theorem tokens_of_reads {cursor behind following : Cursor} {tokens : List Token} {last : Token}
    (h : cursor.Reads tokens behind) (found : behind.next = (.ok last, following))
    (ended : last.lexeme = .endOfInput) : cursor.tokens = .ok (tokens ++ [last]) := by
  induction h with
  | nil => exact tokens_of_end found ended
  | cons first ne _ ih =>
      rw [tokens_of_next first ne, ih found]
      rfl

end Cursor

/-- The tokens of a text are the lexemes that it spells, and the end of input. -/
theorem tokenize_of_renders {lexemes : List Lexeme} {text : String}
    (h : Renders lexemes text.toList) :
    ∃ tokens, tokenize text = .ok tokens ∧
      tokens.map Token.lexeme = lexemes ++ [.endOfInput] := by
  obtain ⟨body, final, split, spells, gap⟩ := h
  obtain ⟨tokens, reads, rfl⟩ := Cursor.reads_of_spells spells .start
  have ended := Cursor.next_finalGap gap (Place.start.afterAll body)
  rw [← split] at reads
  exact ⟨_, Cursor.tokens_of_reads reads ended rfl, by simp⟩

/-- Behind the lexemes that a text spells, its last quote is never closed. -/
def EndsInQuote (lexemes : List Lexeme) (inside : List Char) (text : List Char) : Prop :=
  ∃ body gap, text = body ++ (gap ++ '"' :: inside) ∧
    Spells lexemes body (gap ++ '"' :: inside) ∧ Gap gap ∧ '"' ∉ inside

/-- A quote that is never closed makes a token, with all that stands behind it inside. -/
theorem tokenize_of_endsInQuote {lexemes : List Lexeme} {inside : List Char} {text : String}
    (h : EndsInQuote lexemes inside text.toList) :
    ∃ tokens, tokenize text = .ok tokens ∧
      tokens.map Token.lexeme = lexemes ++ [.string (String.ofList inside), .endOfInput] := by
  obtain ⟨body, gap, split, spells, hgap, unclosed⟩ := h
  obtain ⟨tokens, reads, rfl⟩ := Cursor.reads_of_spells spells .start
  have quote := Cursor.next_openQuote hgap unclosed (Place.start.afterAll body)
  have whole := reads.append (.cons quote (by simp) .nil)
  rw [← split] at whole
  exact ⟨_, Cursor.tokens_of_reads whole (Cursor.next_of_nil _) rfl, by simp⟩

/-- The game of a script is what the statements build that its text spells. -/
theorem readGame_eq_ok_iff {text : String} {game : Game} :
    readGame text = .ok game ↔
      ∃ statements : List Statement, Renders (statements.flatMap Statement.lexemes) text.toList ∧
        game = (Draft.ofStatements statements).game := by
  rw [readGame_eq]
  constructor
  · intro h
    cases fault : (Cursor.ofText text).outline.fault? with
    | some fault' =>
        rw [fault] at h
        cases h
    | none =>
        rw [fault] at h
        cases h
        exact ⟨_, Cursor.renders_of_outline fault, rfl⟩
  · rintro ⟨statements, renders, rfl⟩
    obtain ⟨placed, outline, rfl⟩ := Cursor.outline_of_renders renders .start
    change (Cursor.ofText text).outline = _ at outline
    rw [outline]

/-- A text is accepted exactly when it spells complete statements. So a text whose last
quote is never closed is rejected, although it can be split into tokens. -/
theorem accepts_iff_renders (text : String) :
    ((∃ game, readGame text = .ok game) ↔
      ∃ statements : List Statement,
        Renders (statements.flatMap Statement.lexemes) text.toList) ∧
    ∀ lexemes inside, EndsInQuote lexemes inside text.toList →
      (∃ tokens, tokenize text = .ok tokens ∧
        tokens.map Token.lexeme = lexemes ++ [.string (String.ofList inside), .endOfInput]) ∧
      ∀ game, readGame text ≠ .ok game := by
  refine ⟨⟨?_, ?_⟩, ?_⟩
  · rintro ⟨game, accepted⟩
    obtain ⟨statements, renders, -⟩ := readGame_eq_ok_iff.mp accepted
    exact ⟨statements, renders⟩
  · rintro ⟨statements, renders⟩
    exact ⟨_, readGame_eq_ok_iff.mpr ⟨statements, renders, rfl⟩⟩
  · intro lexemes inside quote
    obtain ⟨tokens, split, form⟩ := tokenize_of_endsInQuote quote
    refine ⟨⟨tokens, split, form⟩, ?_⟩
    intro game accepted
    -- Its tokens would be those of complete statements, and these end in a semicolon.
    obtain ⟨statements, renders, -⟩ := readGame_eq_ok_iff.mp accepted
    obtain ⟨tokens', split', form'⟩ := tokenize_of_renders renders
    rw [split] at split'
    cases split'
    rw [form] at form'
    have last : statements.flatMap Statement.lexemes =
        lexemes ++ [.string (String.ofList inside)] := by
      have both := congrArg List.dropLast form'
      simpa [List.dropLast_append] using both.symm
    have semicolon := Cursor.getLast?_flatMap_lexemes statements (.string (String.ofList inside))
    rw [last] at semicolon
    cases semicolon (by simp)

example : readGame "TARGET \"FRANCE;" =
    .error ⟨.unexpected [.semicolon] .endOfInput, ⟨1, 16⟩⟩ := by cbv

end GuessingGame.Script
