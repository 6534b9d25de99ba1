import GuessingGame.Proofs.Script.Calls

/-!
# Reading with and without a host

A host takes no part in the reading but to end it. So a reading with a host that always
lets it go on comes to the same as a reading without one; what else can become of it is
that a level could not be played, or that the host halts it. Where it is halted it has
read one complete list of statements, and of the text behind them only whether a token
begins it.

The last fact needs that the statements of a text are passed in the same way whatever
text stands behind them. The tokens of a statement end with a semicolon, and what follows
a semicolon plays no part in it.
-/

namespace GuessingGame.Script

namespace Cursor

theorem Holds.swap {cursor behind : Cursor} {statement : Statement} {tokens : List Token}
    (h : cursor.Holds statement tokens behind) {text : List Char}
    (split : cursor.rest = text ++ behind.rest) (rest : List Char) :
    Holds ⟨text ++ rest, cursor.place⟩ statement tokens ⟨rest, behind.place⟩ := by
  refine ⟨h.1.swap ?_ split rest, h.2⟩
  intro token member
  have last : (tokens.map Token.lexeme).getLast? = some .semicolon := by
    rw [h.2, statement.getLast?_lexemes]
  rw [List.getLast?_map, Option.mem_def.mp member] at last
  exact Option.some.inj last

/-- Statements are passed in the same way whatever text stands behind them. -/
theorem Passes.swap {cursor behind : Cursor} {placed : List (Place × Statement)}
    (h : cursor.Passes placed behind) {text : List Char}
    (split : cursor.rest = text ++ behind.rest) (rest : List Char) :
    Passes ⟨text ++ rest, cursor.place⟩ placed ⟨rest, behind.place⟩ := by
  induction h generalizing text with
  | nil =>
      obtain rfl : text = [] := by simpa using split
      exact .nil
  | @cons cursor middle behind statement token tokens others holds passes ih =>
      obtain ⟨first, first_eq, -⟩ := (Passes.cons holds .nil).spells
      obtain ⟨second, second_eq, -⟩ := passes.spells
      have text_eq : text = first ++ second := by
        apply (List.append_left_inj behind.rest).mp
        rw [← split, first_eq, second_eq, List.append_assoc]
      rw [text_eq, List.append_assoc]
      exact .cons (holds.swap first_eq (second ++ rest)) (ih second_eq)

/-- A list of passed statements can be taken in two parts. -/
theorem Passes.split {cursor behind : Cursor} {front back : List (Place × Statement)}
    (h : cursor.Passes (front ++ back) behind) :
    ∃ middle, cursor.Passes front middle ∧ middle.Passes back behind := by
  induction front generalizing cursor with
  | nil => exact ⟨cursor, .nil, h⟩
  | cons first front ih =>
      cases h with
      | cons holds passes =>
          obtain ⟨middle, before, after⟩ := ih passes
          exact ⟨middle, .cons holds before, after⟩

/-- The statements at the head of an outline are passed, and a token follows them. -/
theorem passes_of_outline {cursor : Cursor} {front back : List (Place × Statement)}
    (h : cursor.outline.statements = front ++ back) (ne : front ≠ []) :
    ∃ middle next, cursor.Passes front middle ∧ middle.ahead = .ok next := by
  have outlined := cursor.outlined
  generalize cursor.outline = outline at h outlined
  cases outlined with
  | finished passes found _ | broken passes found _ =>
      subst h
      obtain ⟨middle, before, after⟩ := passes.split
      obtain ⟨next, token⟩ := after.ahead_ok found
      exact ⟨middle, next, before, token⟩
  | @late complete behind fault passes found =>
      -- The last statement is not performed, so a statement follows those in front.
      have some : complete ≠ [] := by
        rintro rfl
        simp_all
      have whole : complete = front ++ (back ++ [complete.getLast some]) := by
        rw [← List.append_assoc, ← h, List.dropLast_concat_getLast]
      rw [whole] at passes
      obtain ⟨middle, before, after⟩ := passes.split
      obtain ⟨⟨place, statement⟩, rest, more⟩ :
          ∃ next rest, back ++ [complete.getLast some] = next :: rest := by
        cases back with
        | nil => exact ⟨_, _, rfl⟩
        | cons next back => exact ⟨_, _, rfl⟩
      rw [more] at after
      cases after with
      | cons holds _ =>
          obtain ⟨following, token, -⟩ := holds.ahead
          exact ⟨middle, _, before, token⟩

end Cursor

namespace Reader

/-- A reader that has performed statements, every level of which was played. -/
def performed (reader : Reader) (statements : List Statement) : Reader :=
  { reader with
    draft := statements.foldl Draft.apply reader.draft
    solvesRun := reader.solvesRun + statements.count .solve }

theorem performed_cons_of_ne {statement : Statement} (ne : statement ≠ .solve) (reader : Reader)
    (rest : List Statement) :
    reader.performed (statement :: rest) = (reader.write statement).performed rest := by
  rw [performed, List.count_cons_of_ne ne]
  rfl

theorem performed_cons_solve (reader : Reader) (rest : List Statement) :
    reader.performed (.solve :: rest) = reader.countSolve.performed rest := by
  rw [performed, List.count_cons_self, Nat.add_comm _ 1, ← Nat.add_assoc]
  rfl

namespace Follows

variable {σ : Type} {host : Host σ} {statements : List (Place × Statement)}
variable {reader after : Reader} {state state' : σ} {made : List (Place × Exchange)}
variable {ending : Ending}

/-- If every exchange lets the run go on, it performs all statements. -/
theorem all_performed (h : Follows host statements reader state made ending after state')
    (proceeds : ∀ exchange ∈ made.map Prod.snd, exchange.Proceeds) :
    ending = .finished ∧ after = reader.performed (statements.map Prod.snd) := by
  induction h with
  | nil => exact ⟨rfl, rfl⟩
  | quiet ne _ _ ih =>
      rw [List.map_cons, performed_cons_of_ne ne]
      exact ih proceeds
  | told heard _ ih =>
      rw [List.map_cons, performed_cons_of_ne (ne_solve_of_notice? heard)]
      exact ih fun exchange member => proceeds exchange (List.mem_cons_of_mem _ member)
  | proceed _ _ ih =>
      rw [List.map_cons, performed_cons_solve]
      exact ih fun exchange member => proceeds exchange (List.mem_cons_of_mem _ member)
  | halt _ => cases proceeds _ (List.mem_singleton_self _)
  | fail _ => cases proceeds _ (List.mem_singleton_self _)

/-- Only a halted run leaves a halted reader. -/
theorem ending_of_halted (h : Follows host statements reader state made ending after state')
    (going : reader.halted = false) (halted : after.halted = true) : ending = .halted := by
  induction h with
  | nil => simp_all
  | quiet _ _ _ ih | told _ _ ih | proceed _ _ ih => exact ih going halted
  | halt _ => rfl
  | fail _ => simp_all

/-- A run that is halted has performed some statements, the last of them a level to be
played, and nothing behind them plays a part in it. -/
theorem front_of_halted (h : Follows host statements reader state made ending after state')
    (halted : ending = .halted) :
    ∃ front back, statements = front ++ back ∧
      (front.map Prod.snd).getLast? = some .solve ∧
      after = (reader.performed (front.map Prod.snd)).halt ∧
      ∀ other, Follows host (front ++ other) reader state made ending after state' := by
  induction h with
  | nil => cases halted
  | @quiet place statement _ _ _ _ _ _ _ ne heard _ ih =>
      obtain ⟨front, back, rfl, last, rfl, same⟩ := ih halted
      refine ⟨(place, statement) :: front, back, rfl, List.mem_getLast?_cons last, ?_, ?_⟩
      · rw [List.map_cons, performed_cons_of_ne ne]
      · exact fun other => .quiet ne heard (same other)
  | @told place statement _ _ _ _ _ _ _ _ heard _ ih =>
      obtain ⟨front, back, rfl, last, rfl, same⟩ := ih halted
      refine ⟨(place, statement) :: front, back, rfl, List.mem_getLast?_cons last, ?_, ?_⟩
      · rw [List.map_cons, performed_cons_of_ne (ne_solve_of_notice? heard)]
      · exact fun other => .told heard (same other)
  | @proceed place _ _ _ _ _ _ _ _ answer _ ih =>
      obtain ⟨front, back, rfl, last, rfl, same⟩ := ih halted
      refine ⟨(place, .solve) :: front, back, rfl, List.mem_getLast?_cons last, ?_, ?_⟩
      · rw [List.map_cons, performed_cons_solve]
      · exact fun other => .proceed answer (same other)
  | @halt place rest _ _ _ answer =>
      exact ⟨[(place, .solve)], rest, rfl, rfl, rfl, fun other => .halt answer⟩
  | fail _ => cases halted

end Follows

end Reader

section

variable {σ : Type} {host : Host σ} {text : String} {state : σ}

/-- A host that always lets the reading go on gets the game and every level played. -/
theorem read_of_proceeds
    (proceeds : ∀ exchange ∈ exchanges host text state, exchange.Proceeds) :
    (read (some host) text state).1 = match readGame text with
      | .error fault => .error fault
      | .ok game => .ok ⟨game,
          ((Cursor.ofText text).outline.statements.map Prod.snd).count .solve, false⟩ := by
  obtain ⟨made, ending, after, state', follows, run, recorded⟩ := read_follows host text state
  rw [recorded] at proceeds
  obtain ⟨rfl, rfl⟩ := follows.all_performed proceeds
  rw [run, readGame_eq]
  cases (Cursor.ofText text).outline.fault? with
  | some fault => rfl
  | none => simp [Ending.result, Except.map, Reader.report, Reader.performed, Reader.fresh,
      Draft.ofStatements]

/-- The fault of a reading is the one that waits behind the statements, or a level that
could not be played. -/
theorem fault_of_read {fault : Fault} (failed : (read (some host) text state).1 = .error fault) :
    readGame text = .error fault ∨ ∃ reason, fault.cause = .interrupted reason := by
  obtain ⟨made, ending, after, state', follows, run, -⟩ := read_follows host text state
  rw [run] at failed
  rw [readGame_eq]
  cases ending with
  | finished =>
      cases waiting : (Cursor.ofText text).outline.fault? with
      | none =>
          rw [waiting] at failed
          cases failed
      | some fault' =>
          rw [waiting] at failed
          cases failed
          exact .inl rfl
  | halted => cases failed
  | failed place reason =>
      cases failed
      exact .inr ⟨reason, rfl⟩

/-- A halted reading has read a script of its own, which ends with the level that was
played last. Any text that begins with a token may stand behind it. -/
theorem read_of_halted {report : Report} {state' : σ}
    (h : read (some host) text state = (.ok report, state')) (halted : report.halted = true) :
    ∃ (statements : List Statement) (taken rest : List Char),
      text.toList = taken ++ rest ∧
      Spells (statements.flatMap Statement.lexemes) taken rest ∧
      statements.getLast? = some .solve ∧ statements.count .solve = report.solvesRun ∧
      readGame (String.ofList taken) = .ok report.game ∧
      (∃ token, (Cursor.mk rest (Place.start.afterAll taken)).next.1 = .ok token) ∧
      ∀ other token, (Cursor.mk other (Place.start.afterAll taken)).next.1 = .ok token →
        read (some host) (String.ofList (taken ++ other)) state = (.ok report, state') := by
  obtain ⟨made, ending, after, state₁, follows, run, -⟩ := read_follows host text state
  rw [h] at run
  obtain ⟨result, rfl⟩ := Prod.mk.inj run
  have report_eq : report = after.report := by
    cases performed : ending.result (Cursor.ofText text).outline.fault? <;> rw [performed] at result
    · cases result
    · exact Except.ok.inj result
  subst report_eq
  obtain rfl := follows.ending_of_halted rfl halted
  obtain ⟨front, back, outline, last, rfl, same⟩ := follows.front_of_halted rfl
  have ne : front ≠ [] := by
    rintro rfl
    cases last
  obtain ⟨middle, next, passes, token⟩ := Cursor.passes_of_outline outline ne
  obtain ⟨taken, split, spells, place⟩ := passes.spells
  have start (other : List Char) :
      Cursor.ofText (String.ofList (taken ++ other)) = ⟨taken ++ other, .start⟩ := by
    rw [Cursor.ofText, String.toList_ofList]
  have passes' (other : List Char) : Cursor.Passes ⟨taken ++ other, .start⟩ front
      ⟨other, Place.start.afterAll taken⟩ := by
    have swapped := passes.swap split other
    rwa [place] at swapped
  refine ⟨front.map Prod.snd, taken, middle.rest, split, spells, last, ?_, ?_, ?_, ?_⟩
  · exact (Nat.zero_add _).symm
  · have whole := (passes' []).outline (Cursor.ahead_of_next (Cursor.next_of_nil _))
    rw [Lookahead.outline_of_end rfl, List.append_nil] at whole
    have text_eq := start []
    rw [List.append_nil] at text_eq whole
    rw [readGame_eq, text_eq, whole]
    rfl
  · have behind : Cursor.mk middle.rest (Place.start.afterAll taken) = middle :=
      congrArg (Cursor.mk middle.rest) place.symm
    exact ⟨next.current, by rw [behind, Cursor.next_of_ahead token]⟩
  · intro other token found
    have ahead := Cursor.ahead_of_next (Prod.ext found rfl)
    rw [read_eq_follow, start other, (passes' other).outline ahead]
    dsimp only
    rw [(same _).run rfl]
    rfl

end

/-- How a reading with a host compares with one without.

If the host lets the reading go on whenever it is asked, both come to the same. If the
script is accepted, a reading with a host can fail only at a level. If the host halts the
reading, the game is that of the text through the semicolon of the last level that was
played, and of the text behind it only matters that a token begins it. -/
theorem hosted_reading (σ : Type) (host : Host σ) (text : String) (state : σ) :
    ((∀ exchange ∈ exchanges host text state, exchange.Proceeds) →
      (∃ fault, readGame text = .error fault ∧
        (read (some host) text state).1 = .error fault) ∨
      ∃ (game : Game) (statements : List Statement), readGame text = .ok game ∧
        Renders (statements.flatMap Statement.lexemes) text.toList ∧
        (read (some host) text state).1 = .ok ⟨game, statements.count .solve, false⟩) ∧
    (∀ game, readGame text = .ok game → ∀ fault,
      (read (some host) text state).1 = .error fault →
        ∃ reason, fault.cause = .interrupted reason) ∧
    ∀ report, (read (some host) text state).1 = .ok report → report.halted = true →
      ∃ (statements : List Statement) (taken rest : List Char),
        text.toList = taken ++ rest ∧
        Spells (statements.flatMap Statement.lexemes) taken rest ∧
        statements.getLast? = some .solve ∧ statements.count .solve = report.solvesRun ∧
        readGame (String.ofList taken) = .ok report.game ∧
        (∃ token, (Cursor.mk rest (Place.start.afterAll taken)).next.1 = .ok token) ∧
        ∀ other token, (Cursor.mk other (Place.start.afterAll taken)).next.1 = .ok token →
          read (some host) (String.ofList (taken ++ other)) state =
            read (some host) text state ∧
          exchanges host (String.ofList (taken ++ other)) state = exchanges host text state := by
  refine ⟨?_, ?_, ?_⟩
  · intro proceeds
    have result := read_of_proceeds proceeds
    cases accepted : readGame text with
    | error fault =>
        rw [accepted] at result
        exact .inl ⟨fault, rfl, result⟩
    | ok game =>
        rw [accepted] at result
        refine .inr ⟨game, _, rfl, ?_, result⟩
        apply Cursor.renders_of_outline
        rw [readGame_eq] at accepted
        cases waiting : (Cursor.ofText text).outline.fault? with
        | none => rfl
        | some fault =>
            rw [waiting] at accepted
            cases accepted
  · intro game accepted fault failed
    rcases fault_of_read failed with rejected | interrupted
    · rw [accepted] at rejected
      cases rejected
    · exact interrupted
  · intro report ok halted
    have recorded := read_recorded host text state []
    rw [ok] at recorded
    obtain ⟨statements, taken, rest, split, spells, last, count, game, token, same⟩ :=
      read_of_halted recorded halted
    refine ⟨statements, taken, rest, split, spells, last, count, game, token, ?_⟩
    intro other token found
    have swapped := same other token found
    rw [read_recorded] at swapped
    simp only [Prod.mk.injEq, List.nil_append] at swapped
    obtain ⟨result, log, state_eq⟩ := swapped
    exact ⟨Prod.ext (result.trans ok.symm) state_eq, log⟩

/-- A host that halts a reading at its first level. -/
private def halting : Host Unit := ⟨fun _ state => state, fun _ state => (.ok .halt, state)⟩

example : (read (some halting) "SOLVE; LEVEL LEVEL" ()).1 = .ok ⟨{}, 1, true⟩ := by cbv

example : (read (some halting) "SOLVE; #" ()).1 =
    .error ⟨.illegalCharacter '#', ⟨1, 8⟩⟩ := by cbv

end GuessingGame.Script
