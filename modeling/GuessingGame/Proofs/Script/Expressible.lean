import GuessingGame.Proofs.Script.Content

/-!
# Which games a script can describe

A script has no way to write a quote inside a quoted text, and that is all it lacks. A game whose
texts hold no quote is described by the script that gives its title, its lives, its loose values
and then one level after another, each value in a statement of its own and every lexeme behind a
blank: `readGame_ofGame`. In any other script, too, each text of the game stood between quotes in
some statement, or was never written and is empty: `mem_texts_described`. So the games of scripts
are the games without quotes, whatever their numbers are and whichever values are absent.
-/

namespace GuessingGame

def Level.texts (level : Level) : List String := level.target.toList ++ level.hint.toList

def Game.texts (game : Game) : List String :=
  game.title :: (game.looseTarget.toList ++ game.looseHint.toList ++
    game.levels.flatMap Level.texts)

namespace Script

def Statement.text? : Statement → Option String
  | .game text | .target text | .hint text => some text
  | .maxLives _ | .level _ | .solve => none

theorem Statement.string_mem_lexemes {statement : Statement} {text : String}
    (carried : statement.text? = some text) : Lexeme.string text ∈ statement.lexemes := by
  cases statement <;> cases carried <;> simp [lexemes]

/-- The last of some values was given by one of the statements. -/
theorem exists_mem_of_latest {α : Type} {value? : Statement → Option α}
    {statements : List Statement} {value : α} (last : latest value? statements = some value) :
    ∃ statement ∈ statements, value? statement = some value :=
  List.mem_filterMap.mp (List.mem_of_getLast? last)

/-- The answer and the hint that some statements give are texts that they carry. -/
theorem exists_mem_of_fill {statements : List Statement} {value : String}
    (held : value ∈ (latest Statement.target? statements).toList ++
      (latest Statement.hint? statements).toList) :
    ∃ statement ∈ statements, statement.text? = some value := by
  rw [List.mem_append, Option.mem_toList, Option.mem_toList] at held
  rcases held with held | held
  · obtain ⟨statement, among, given⟩ := exists_mem_of_latest held
    refine ⟨statement, among, ?_⟩
    cases statement <;> cases given
    rfl
  · obtain ⟨statement, among, given⟩ := exists_mem_of_latest held
    refine ⟨statement, among, ?_⟩
    cases statement <;> cases given
    rfl

/-- What stands in a chapter stands in the script. -/
theorem body_subset {statements : List Statement} {chapter : Chapter}
    (among : chapter ∈ chapters statements) : chapter.body ⊆ statements := by
  intro statement inside
  rw [← preamble_append_chapters statements]
  exact List.mem_append_right _ (List.mem_flatMap.mpr
    ⟨chapter, among, List.mem_cons_of_mem _ inside⟩)

/-- A text of a described game is carried by a statement, or it is the empty title. -/
theorem mem_texts_described {statements : List Statement} {value : String}
    (held : value ∈ (described statements).texts) :
    value = "" ∨ ∃ statement ∈ statements, statement.text? = some value := by
  rw [Game.texts, List.mem_cons, List.mem_append] at held
  rcases held with title | loose | levels
  · cases last : latest Statement.title? statements with
    | none => exact .inl (by rw [title, described, last]; rfl)
    | some text =>
        obtain ⟨statement, among, given⟩ := exists_mem_of_latest last
        refine .inr ⟨statement, among, ?_⟩
        rw [title, described, last]
        cases statement <;> cases given
        rfl
  · obtain ⟨statement, among, carried⟩ := exists_mem_of_fill loose
    exact .inr ⟨statement, List.takeWhile_subset _ among, carried⟩
  · rw [described, List.flatMap_map, List.mem_flatMap] at levels
    obtain ⟨chapter, listed, inside⟩ := levels
    obtain ⟨statement, among, carried⟩ := exists_mem_of_fill inside
    exact .inr ⟨statement, body_subset listed among, carried⟩

/-- No quote stands inside a text that is spelt. -/
theorem Spells.quote_not_mem {lexemes : List Lexeme} {text rest : List Char}
    (h : Spells lexemes text rest) {value : String} (listed : .string value ∈ lexemes) :
    '"' ∉ value.toList := by
  induction h with
  | nil => cases listed
  | cons _ spelt _ _ ih =>
      rw [List.mem_cons] at listed
      rcases listed with rfl | listed
      · exact spelt.1
      · exact ih listed

namespace Lexeme

/-- A way to write a lexeme. -/
def spelling : Lexeme → List Char
  | keyword k => k.word.toList
  | string text => '"' :: (text.toList ++ ['"'])
  | integer value => Nat.toDigits 10 value.toNat
  | semicolon => [';']
  | endOfInput => []

/-- Whether a lexeme can be written: it is not the end, nor a text with a quote inside. -/
def Writable : Lexeme → Prop
  | string text => '"' ∉ text.toList
  | endOfInput => False
  | _ => True

theorem spelt_spelling {lexeme : Lexeme} (writable : lexeme.Writable) :
    lexeme.Spelt lexeme.spelling := by
  cases lexeme with
  | keyword k => exact rfl
  | string text => exact ⟨writable, rfl⟩
  | integer value =>
      refine ⟨Nat.toDigits_ne_nil, fun c among => ?_, Nat.ofDigitChars_toDigits (by decide) (by decide)⟩
      exact Nat.isDigit_of_mem_toDigits (by decide) (by decide) among
  | semicolon => exact rfl
  | endOfInput => exact writable

end Lexeme

/-- Lexemes one after another, each behind a blank. -/
def written (lexemes : List Lexeme) : List Char :=
  lexemes.flatMap fun lexeme => ' ' :: lexeme.spelling

/-- A blank ends every lexeme, and so does the end of a text. -/
theorem endsBefore_written (lexeme : Lexeme) (lexemes : List Lexeme) :
    lexeme.EndsBefore (written lexemes ++ []) := by
  have blank : isWordChar ' ' = false := by decide
  cases lexemes <;> cases lexeme <;> simp [Lexeme.EndsBefore, written, blank]

theorem spells_written {lexemes : List Lexeme} (writable : ∀ lexeme ∈ lexemes, lexeme.Writable) :
    Spells lexemes (written lexemes) [] := by
  induction lexemes with
  | nil => exact .nil
  | cons lexeme lexemes ih =>
      rw [List.forall_mem_cons] at writable
      have gap : Gap [' '] := .blank (by decide) .nil
      exact .cons gap (Lexeme.spelt_spelling writable.1) (endsBefore_written lexeme lexemes)
        (ih writable.2)

/-- Statements that give an answer and a hint, as far as there are any. -/
def fill (target hint : Option String) : List Statement :=
  target.toList.map .target ++ hint.toList.map .hint

def Statement.ofLevel (level : Level) : List Statement :=
  .level level.number :: fill level.target level.hint

def Statement.ofGame (game : Game) : List Statement :=
  .game game.title :: .maxLives game.maxLives ::
    (fill game.looseTarget game.looseHint ++ game.levels.flatMap Statement.ofLevel)

/-- A script that describes a game. -/
def ofGame (game : Game) : String :=
  String.ofList (written ((Statement.ofGame game).flatMap Statement.lexemes))

theorem latest_cons {α : Type} (value? : Statement → Option α) (statement : Statement)
    (statements : List Statement) :
    latest value? (statement :: statements) =
      (latest value? statements).or (value? statement) := by
  rw [← List.singleton_append, latest_append, latest_singleton]

variable (target hint : Option String)

@[simp] theorem latest_target?_fill : latest Statement.target? (fill target hint) = target := by
  cases target <;> cases hint <;> rfl

@[simp] theorem latest_hint?_fill : latest Statement.hint? (fill target hint) = hint := by
  cases target <;> cases hint <;> rfl

@[simp] theorem preamble_fill_append (rest : List Statement) :
    preamble (fill target hint ++ rest) = fill target hint ++ preamble rest := by
  cases target <;> cases hint <;> rfl

@[simp] theorem chapters_fill_append (rest : List Statement) :
    chapters (fill target hint ++ rest) = chapters rest := by
  cases target <;> cases hint <;> rfl

theorem preamble_levels (levels : List Level) :
    preamble (levels.flatMap Statement.ofLevel) = [] := by
  cases levels <;> rfl

/-- The levels of a script stand in chapters of their own. -/
theorem chapters_levels (levels : List Level) :
    (chapters (levels.flatMap Statement.ofLevel)).map Chapter.toLevel = levels := by
  induction levels with
  | nil => rfl
  | cons level levels ih =>
      rw [List.flatMap_cons, Statement.ofLevel, List.cons_append, chapters, preamble_fill_append,
        preamble_levels, List.append_nil, chapters_fill_append, List.map_cons, ih]
      simp [Chapter.toLevel]

variable {target hint} in
theorem mem_fill {statement : Statement} (among : statement ∈ fill target hint) :
    ∃ text ∈ target.toList ++ hint.toList, statement = .target text ∨ statement = .hint text := by
  rw [fill, List.mem_append, List.mem_map, List.mem_map] at among
  rcases among with ⟨text, held, rfl⟩ | ⟨text, held, rfl⟩
  · exact ⟨text, List.mem_append_left _ held, .inl rfl⟩
  · exact ⟨text, List.mem_append_right _ held, .inr rfl⟩

/-- Behind the title and the lives stand levels and the texts of the game. -/
theorem mem_ofGame {game : Game} {statement : Statement}
    (among : statement ∈ fill game.looseTarget game.looseHint ++
      game.levels.flatMap Statement.ofLevel) :
    (∃ number, statement = .level number) ∨
      ∃ text ∈ game.texts, statement = .target text ∨ statement = .hint text := by
  rw [List.mem_append, List.mem_flatMap] at among
  rcases among with loose | ⟨level, listed, inside⟩
  · obtain ⟨text, held, form⟩ := mem_fill loose
    exact .inr ⟨text, List.mem_cons_of_mem _ (List.mem_append_left _ held), form⟩
  · rw [Statement.ofLevel, List.mem_cons] at inside
    rcases inside with declared | filled
    · exact .inl ⟨_, declared⟩
    · obtain ⟨text, held, form⟩ := mem_fill filled
      have listed_text : text ∈ game.levels.flatMap Level.texts :=
        List.mem_flatMap.mpr ⟨level, listed, held⟩
      exact .inr ⟨text, List.mem_cons_of_mem _ (List.mem_append_right _ listed_text), form⟩

/-- Levels, answers and hints leave a value alone that none of them gives. -/
theorem latest_eq_none {α : Type} (value? : Statement → Option α)
    (level : ∀ number, value? (.level number) = none)
    (target : ∀ text, value? (.target text) = none) (hint : ∀ text, value? (.hint text) = none)
    (game : Game) : latest value? (fill game.looseTarget game.looseHint ++
      game.levels.flatMap Statement.ofLevel) = none := by
  rw [latest, List.filterMap_eq_nil_iff.mpr]
  · rfl
  · intro statement among
    rcases mem_ofGame among with ⟨number, rfl⟩ | ⟨text, -, rfl | rfl⟩
    · exact level number
    · exact target text
    · exact hint text

/-- A game is what its script describes. -/
theorem described_ofGame (game : Game) : described (Statement.ofGame game) = game := by
  have untitled := latest_eq_none Statement.title? (fun _ => rfl) (fun _ => rfl)
    (fun _ => rfl) game
  have unlimited := latest_eq_none Statement.lives? (fun _ => rfl) (fun _ => rfl)
    (fun _ => rfl) game
  have loose : preamble (Statement.ofGame game) =
      .game game.title :: .maxLives game.maxLives :: fill game.looseTarget game.looseHint := by
    have behind := preamble_fill_append game.looseTarget game.looseHint
      (game.levels.flatMap Statement.ofLevel)
    rw [preamble_levels, List.append_nil] at behind
    exact congrArg (fun rest => .game game.title :: .maxLives game.maxLives :: rest) behind
  have levels : chapters (Statement.ofGame game) =
      chapters (game.levels.flatMap Statement.ofLevel) :=
    chapters_fill_append game.looseTarget game.looseHint _
  rw [described, loose, levels, chapters_levels, Statement.ofGame]
  simp [latest_cons, untitled, unlimited]

theorem Statement.writable_lexemes {statement : Statement}
    (quotefree : ∀ text, statement.text? = some text → '"' ∉ text.toList) :
    ∀ lexeme ∈ statement.lexemes, lexeme.Writable := by
  cases statement <;> simp_all [lexemes, Lexeme.Writable, text?]

/-- The texts of the statements are those of the game. -/
theorem mem_texts_of_ofGame {game : Game} {statement : Statement}
    (among : statement ∈ Statement.ofGame game) {text : String}
    (carried : statement.text? = some text) : text ∈ game.texts := by
  rw [Statement.ofGame, List.mem_cons, List.mem_cons] at among
  rcases among with rfl | rfl | among
  · cases carried
    exact List.mem_cons_self
  · cases carried
  · rcases mem_ofGame among with ⟨_, rfl⟩ | ⟨_, held, rfl | rfl⟩ <;> cases carried
    · exact held
    · exact held

/-- A script spells the statements that it was made of. -/
theorem renders_written {lexemes : List Lexeme} (writable : ∀ lexeme ∈ lexemes, lexeme.Writable) :
    Renders lexemes (written lexemes) :=
  ⟨written lexemes, [], (List.append_nil _).symm, spells_written writable, .gap .nil⟩

/-- A game without quotes is read back from its script. -/
theorem readGame_ofGame {game : Game} (quotefree : ∀ text ∈ game.texts, '"' ∉ text.toList) :
    readGame (ofGame game) = .ok game := by
  have writable : ∀ lexeme ∈ (Statement.ofGame game).flatMap Statement.lexemes,
      lexeme.Writable := by
    intro lexeme listed
    obtain ⟨statement, among, inside⟩ := List.mem_flatMap.mp listed
    refine Statement.writable_lexemes (fun text carried => ?_) lexeme inside
    exact quotefree text (mem_texts_of_ofGame among carried)
  refine readGame_eq_ok_iff.mpr ⟨Statement.ofGame game, ?_, ?_⟩
  · rw [ofGame, String.toList_ofList]
    exact renders_written writable
  · rw [(Draft.describes_ofStatements _).game, described_ofGame]

/-- A game is described by some script just when no quote stands in any of its texts, whatever its
numbers are, in whichever order its levels stand, and whatever they lack. -/
theorem exists_script_iff (game : Game) :
    (∃ text, readGame text = .ok game) ↔ ∀ value ∈ game.texts, '"' ∉ value.toList := by
  constructor
  · rintro ⟨text, accepted⟩
    obtain ⟨statements, ⟨body, final, -, spells, -⟩, rfl⟩ := readGame_eq_ok_iff.mp accepted
    rw [(Draft.describes_ofStatements statements).game]
    intro value held
    rcases mem_texts_described held with rfl | ⟨statement, among, carried⟩
    · exact List.not_mem_nil
    · exact spells.quote_not_mem
        (List.mem_flatMap.mpr ⟨statement, among, Statement.string_mem_lexemes carried⟩)
  · intro quotefree
    exact ⟨ofGame game, readGame_ofGame quotefree⟩

end Script

end GuessingGame
