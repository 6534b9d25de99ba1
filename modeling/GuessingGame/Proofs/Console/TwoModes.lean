import GuessingGame.Proofs.Console.PlayLines
import GuessingGame.Proofs.Console.Walk

/-!
# Two ways to play the same levels

A script in the usual form sets a title and lives, and then writes level after level: its
number, its answer, its hint, and the request to play it. Such a script can be played while it
is read, or its game can be played afterwards, and where no line is blank both come to the
same: `modes_agree`.

The two have no step in common. One tries a challenge for every level, with lives and lines of
its own; the other is one play that moves on from level to level. They are compared at the
moments at which a level is opened. Between two of these the lines are used up in the same
way, `playLines_standing`, and from level to level the walk of the script and the recursion of
the play stay together, `matches_of_walks`.
-/

namespace GuessingGame

open Script

/-- A level in the form in which scripts write it. -/
structure Stage where
  number : UInt64
  target : String
  hint : String
  deriving DecidableEq, Repr

namespace Stage

def description (stage : Stage) : List Statement :=
  [.level stage.number, .target stage.target, .hint stage.hint]

/-- The statements of a level, the last of which asks for it to be played. -/
def statements (stage : Stage) : List Statement := stage.description ++ [.solve]

def level (stage : Stage) : Level := ⟨stage.number, some stage.target, some stage.hint⟩

/-- What is to be played behind the description of a level: the level, with the lives that
were set before it. -/
theorem challengeAfter_description (stage : Stage) (before : List Statement) :
    challengeAfter (before ++ stage.description) =
      ⟨stage.target, stage.hint, (latest Statement.lives? before).getD 1⟩ := by
  simp only [challengeAfter, latest_append]
  rfl

theorem ne_solve_of_mem_description {stage : Stage} :
    ∀ statement ∈ stage.description, statement ≠ .solve := by
  simp [description]

end Stage

namespace Console

open GuessingGame.Text

def NoneBlank (ahead : List (List UInt8)) : Prop :=
  ∀ line ∈ ahead, ∀ text, Utf8.decode? line = some text → Answer.isBlank text = false

/-- How the play of a game has come out after one of its levels, by what became of the
challenge that the level is. -/
def Continues (game : Game) (index : Nat) :
    Except Failure Verdict × List (List UInt8) →
      Except Failure Outcome × Play × List (List UInt8) → Prop
  | (.ok .proceed, rest), played => ∃ play, Play.Opened game (index + 1) play ∧
      played = playLines play rest
  | (.ok .halt, rest), played => played.1 = .ok .gameOver ∧ played.2.2 = rest
  | (.error failure, rest), played => played.1 = .error failure ∧ played.2.2 = rest

section Level

variable {game : Game} {index : Nat} {stage : Stage}

theorem settled_standing (lives : Nat) :
    (Play.standing game index lives).settled = Play.standing game index lives :=
  if_neg (by decide : Outcome.inProgress ≠ .levelWon)

theorem not_stops_standing (h : game.playableLevels[index]? = some stage.level)
    (answer : stage.target ≠ "") (lives : Nat) : ¬Stops (Play.standing game index lives) := by
  have target : (Play.standing game index lives).target? = some stage.target := by
    simp [Play.standing, Play.target?, Play.level?, h, Stage.level]
  have playable : game.playableLevels ≠ [] := by
    intro none
    rw [none] at h
    cases h
  rintro (none | ended | none | empty)
  · exact playable none
  · cases ended
  · rw [target] at none
    cases none
  · rw [target] at empty
    exact answer (Option.some.inj empty)

/-- A level and its challenge use up the lines in the same way. -/
theorem playLines_standing (h : game.playableLevels[index]? = some stage.level)
    (answer : stage.target ≠ "") (lives : Nat) {ahead : List (List UInt8)}
    (guesses : NoneBlank ahead) :
    Continues game index (tryLines stage.target (lives + 1) ahead)
      (playLines (Play.standing game index (lives + 1)) ahead) := by
  have going (lives : Nat) : ¬Stops (Play.standing game index lives).settled := by
    rw [settled_standing]
    exact not_stops_standing h answer lives
  induction ahead generalizing lives with
  | nil =>
      rw [playLines, if_neg (going _)]
      exact ⟨rfl, rfl⟩
  | cons line others ih =>
      obtain ⟨first, later⟩ := List.forall_mem_cons.mp guesses
      cases decoded : Utf8.decode? line with
      | none =>
          rw [tryLines_of_garbled decoded]
          simp only [playLines, if_neg (going _), decoded]
          exact ⟨rfl, rfl⟩
      | some text =>
          have guess : lineText line = .ok (dropLineEnd text) := by rw [lineText, decoded]
          have played : playLines (Play.standing game index (lives + 1)) (line :: others) =
              playLines ((Play.standing game index (lives + 1)).turn text) others := by
            rw [playLines_of_text (going _) decoded, first text decoded, settled_standing,
              Play.turn, playLines_settled]
            rfl
          rw [played]
          cases hits : Answer.hits text stage.target with
          | true =>
              have hit : Hits stage.target line :=
                ⟨_, guess, by rw [hits_dropLineEnd, hits]⟩
              rw [tryLines_of_hits hit]
              exact ⟨_, Play.turn_standing_of_hit h hits _, rfl⟩
          | false =>
              have miss : Misses stage.target line :=
                ⟨_, guess, by rw [hits_dropLineEnd, hits]⟩
              rw [tryLines_of_misses miss, Play.turn_standing_of_miss h hits, Nat.add_sub_cancel]
              cases lives with
              | zero =>
                  -- the last life is spent, and the game is over
                  have ended : Play.settled { Play.standing game index 0 with outcome := .gameOver } =
                      { Play.standing game index 0 with outcome := .gameOver } :=
                    if_neg (by decide : Outcome.gameOver ≠ .levelWon)
                  rw [if_pos rfl, playLines_of_stops (.inr (.inl (by rw [ended]; rfl))), ended]
                  exact ⟨rfl, rfl⟩
              | succ lives => exact ih lives later

end Level

/-- Statements in front that ask for nothing to be played take no lines. -/
theorem Walks.append_iff_of_quiet {before : List Statement} {front : List (Place × Statement)}
    (quiet : ∀ statement ∈ front.map Prod.snd, statement ≠ .solve)
    {back : List (Place × Statement)} {ahead rest : List (List UInt8)} {ending : Ending} :
    Walks (calls before (front ++ back)) ahead ending rest ↔
      Walks (calls (before ++ front.map Prod.snd) back) ahead ending rest := by
  induction front generalizing before with
  | nil => rw [List.nil_append, List.map_nil, List.append_nil]
  | cons first front ih =>
      obtain ⟨place, statement⟩ := first
      obtain ⟨ne, others⟩ := List.forall_mem_cons.mp quiet
      rw [List.cons_append, cons_iff_of_ne ne, ih others, List.map_cons, List.append_assoc,
        List.singleton_append]

/-- The calls of a level and of the statements behind it: the level is to be played with the
lives that were set, and the others find the same lives. -/
theorem Walks.stage_iff {stage : Stage} {later before : List Statement} {lives : UInt64}
    {placed : List (Place × Statement)}
    (written : placed.map Prod.snd = stage.statements ++ later)
    (set : (latest Statement.lives? before).getD 1 = lives) :
    ∃ place back before', back.map Prod.snd = later ∧
      (latest Statement.lives? before').getD 1 = lives ∧ ∀ ahead ending rest,
        Walks (calls before placed) ahead ending rest ↔
          Walks ((place, .ask ⟨stage.target, stage.hint, lives⟩) :: calls before' back)
            ahead ending rest := by
  rw [Stage.statements, List.append_assoc] at written
  obtain ⟨front, tail, rfl, described, asked⟩ := List.map_eq_append_iff.mp written
  obtain ⟨⟨place, _⟩, back, rfl, rfl, later⟩ := List.map_eq_cons_iff.mp asked
  have quiet : ∀ statement ∈ front.map Prod.snd, statement ≠ .solve := by
    rw [described]
    exact Stage.ne_solve_of_mem_description
  refine ⟨place, back, before ++ stage.description ++ [.solve], later, ?_, fun _ _ _ => ?_⟩
  · rw [latest_append, latest_append]
    exact set
  · rw [Walks.append_iff_of_quiet quiet, calls_of_some rfl, described,
      stage.challengeAfter_description, set]

/-- How a playthrough ends where a walk ends in some way. -/
def Matches : Ending → Except Failure Outcome → Prop
  | .finished, result => result = .ok .allLevelsWon
  | .halted, result => result = .ok .gameOver
  | .failed _ reason, result => ∃ failure, reason = failure.message ∧ result = .error failure

/-- The calls of levels and the play of these levels end in the same way, and leave the same
lines. -/
theorem matches_of_walks {game : Game} {lives : UInt64} (alive : game.livesBudget = lives.toNat)
    {stages : List Stage} (answers : ∀ stage ∈ stages, stage.target ≠ "")
    {placed : List (Place × Statement)}
    (written : placed.map Prod.snd = stages.flatMap Stage.statements)
    {before : List Statement} (set : (latest Statement.lives? before).getD 1 = lives)
    {index : Nat} (levels : game.playableLevels.drop index = stages.map Stage.level)
    {play : Play} (opened : Play.Opened game index play) {ahead rest : List (List UInt8)}
    (guesses : NoneBlank ahead) {ending : Ending}
    (walks : Walks (calls before placed) ahead ending rest) :
    Matches ending (playLines play ahead).1 ∧ (playLines play ahead).2.2 = rest := by
  induction stages generalizing placed before index play ahead with
  | nil =>
      obtain rfl : placed = [] := List.map_eq_nil_iff.mp written
      cases walks
      have won : play.outcome = .allLevelsWon := opened.2 (List.drop_eq_nil_iff.mp levels)
      have settled : play.settled = play := if_neg (by rw [won]; decide)
      have stops : Stops play.settled := by
        rw [settled]
        exact .inr (.inl (by rw [won]; rfl))
      rw [playLines_of_stops stops, settled, won]
      exact ⟨rfl, rfl⟩
  | cons stage stages ih =>
      obtain ⟨answer, others⟩ := List.forall_mem_cons.mp answers
      rw [List.flatMap_cons] at written
      obtain ⟨place, back, before', written', set', same⟩ := Walks.stage_iff written set
      rw [same] at walks
      -- the level was opened with all its lives, and its challenge has as many
      have here : game.playableLevels[index]? = some stage.level := by
        rw [← Nat.add_zero index, ← List.getElem?_drop, levels]
        rfl
      have behind : game.playableLevels.drop (index + 1) = stages.map Stage.level := by
        rw [← List.drop_drop, levels]
        rfl
      obtain ⟨inside, -⟩ := List.getElem?_eq_some_iff.mp here
      obtain ⟨more, count⟩ : ∃ more, lives.toNat = more + 1 :=
        Nat.exists_eq_succ_of_ne_zero (alive ▸ Nat.ne_of_gt game.livesBudget_pos)
      have continues := playLines_standing here answer more guesses
      rw [← count] at continues
      rw [opened.1 inside, alive]
      cases walks with
      | won tries walks =>
          rw [tries_iff.mp tries] at continues
          obtain ⟨next, opened', played⟩ := continues
          have guesses' : NoneBlank _ := fun line mem => guesses line (tries.isSuffix.mem mem)
          rw [played]
          exact ih others written' set' behind opened' guesses' walks
      | lost tries =>
          rw [tries_iff.mp tries] at continues
          exact continues
      | failed tries =>
          rw [tries_iff.mp tries] at continues
          exact ⟨⟨_, rfl, continues.1⟩, continues.2⟩

def Sets : Statement → Prop
  | .game _ | .maxLives _ => True
  | _ => False

/-- The usual form of a script: settings that leave at least one life, and behind them at
least one level, none of which lacks its answer. -/
structure Usual (settings : List Statement) (stages : List Stage) : Prop where
  sets : ∀ statement ∈ settings, Sets statement
  alive : 1 ≤ (latest Statement.lives? settings).getD 1
  inhabited : stages ≠ []
  answers : ∀ stage ∈ stages, stage.target ≠ ""

def usualStatements (settings : List Statement) (stages : List Stage) : List Statement :=
  settings ++ stages.flatMap Stage.statements

section Scripts

variable {settings : List Statement} {stages : List Stage}

theorem ne_solve_of_sets (sets : ∀ statement ∈ settings, Sets statement) :
    ∀ statement ∈ settings, statement ≠ .solve := by
  rintro _ mem rfl
  exact sets _ mem

theorem preamble_stages (stages : List Stage) :
    preamble (stages.flatMap Stage.statements) = [] := by
  cases stages <;> rfl

theorem chapters_stages (stages : List Stage) :
    (chapters (stages.flatMap Stage.statements)).map Chapter.toLevel = stages.map Stage.level := by
  induction stages with
  | nil => rfl
  | cons stage stages ih =>
      have first : chapters ((stage :: stages).flatMap Stage.statements) =
          ⟨stage.number, .target stage.target :: .hint stage.hint :: .solve ::
              preamble (stages.flatMap Stage.statements)⟩ ::
            chapters (stages.flatMap Stage.statements) := rfl
      rw [first, preamble_stages, List.map_cons, ih]
      rfl

theorem chapters_settings (sets : ∀ statement ∈ settings, Sets statement)
    (rest : List Statement) : chapters (settings ++ rest) = chapters rest := by
  induction settings with
  | nil => rfl
  | cons statement settings ih =>
      obtain ⟨first, others⟩ := List.forall_mem_cons.mp sets
      cases statement with
      | game | maxLives => exact ih others
      | _ => exact first.elim

theorem lives_stages (stages : List Stage) :
    latest Statement.lives? (stages.flatMap Stage.statements) = none := by
  induction stages with
  | nil => rfl
  | cons stage stages ih =>
      rw [List.flatMap_cons, latest_append, ih]
      rfl

namespace Usual

/-- The levels are those that are written, in their order. -/
theorem playableLevels (usual : Usual settings stages) :
    (described (usualStatements settings stages)).playableLevels = stages.map Stage.level := by
  have levels : (described (usualStatements settings stages)).levels = stages.map Stage.level := by
    rw [usualStatements, described, chapters_settings usual.sets, chapters_stages]
  rw [Game.playableLevels, if_pos, levels]
  rw [levels]
  exact mt List.map_eq_nil_iff.mp usual.inhabited

/-- Every level has the lives that were set last. -/
theorem livesBudget (usual : Usual settings stages) :
    (described (usualStatements settings stages)).livesBudget =
      ((latest Statement.lives? settings).getD 1).toNat := by
  have lives : (described (usualStatements settings stages)).maxLives =
      (latest Statement.lives? settings).getD 1 := by
    show (latest Statement.lives? (settings ++ _)).getD 1 = _
    rw [latest_append, lives_stages, Option.none_or]
  rw [Game.livesBudget, lives]
  exact Nat.max_eq_left (UInt64.le_iff_toNat_le.mp usual.alive)

/-- The outline of a script in the usual form walks as its play goes. -/
theorem matches_play (usual : Usual settings stages) {text : String}
    (renders : Renders ((usualStatements settings stages).flatMap Statement.lexemes) text.toList)
    {ahead rest : List (List UInt8)} (guesses : NoneBlank ahead) {ending : Ending}
    (walks : Walks (calls [] (Cursor.ofText text).outline.statements) ahead ending rest) :
    let ends := playLines (Play.start (described (usualStatements settings stages))) ahead
    (Cursor.ofText text).outline.fault? = none ∧ Matches ending ends.1 ∧ ends.2.2 = rest := by
  intro ends
  obtain ⟨placed, outline, form⟩ := Cursor.outline_of_renders renders .start
  have outline : (Cursor.ofText text).outline = ⟨placed, none⟩ := outline
  obtain ⟨front, back, rfl, set, written⟩ := List.map_eq_append_iff.mp form
  have quiet : ∀ statement ∈ front.map Prod.snd, statement ≠ .solve := by
    rw [set]
    exact ne_solve_of_sets usual.sets
  rw [outline, Walks.append_iff_of_quiet quiet, List.nil_append, set] at walks
  have levels : (described (usualStatements settings stages)).playableLevels.drop 0 =
      stages.map Stage.level := usual.playableLevels
  rw [outline]
  exact ⟨rfl, matches_of_walks usual.livesBudget usual.answers written rfl levels
    (Play.opened_start _) guesses walks⟩

end Usual

/-- A script in the usual form, with at least one life, and lines none of which is blank: to
play it while it is read and to play its game come to the same. Nothing is halted exactly
where all levels are won, the reading is halted exactly where the game is over, and lines are
missing exactly where lines are missing; there is no other end, and both leave the same input
unread. -/
theorem modes_agree (usual : Usual settings stages) {text typed : String}
    (renders : Renders ((usualStatements settings stages).flatMap Statement.lexemes) text.toList)
    (guesses : NoneBlank (lines (Utf8.encode typed))) :
    let input := Utf8.encode typed
    let game := described (usualStatements settings stages)
    readGame text = .ok game ∧ ∀ written written' : List UInt8,
      let run := playScript text (ample input written)
      let play := playthrough.run (unlimited (Play.start game) input written')
      ((∃ report, run.1 = .ok report ∧ report.halted = false) ↔ play.1 = .ok .allLevelsWon) ∧
      ((∃ report, run.1 = .ok report ∧ report.halted = true) ↔ play.1 = .ok .gameOver) ∧
      ((∃ place, run.1 = .error ⟨.interrupted Failure.inputClosed.message, place⟩) ↔
        play.1 = .error .inputClosed) ∧
      (play.1 = .ok .allLevelsWon ∨ play.1 = .ok .gameOver ∨ play.1 = .error .inputClosed) ∧
      run.2.input = play.2.console.input := by
  intro input game
  refine ⟨readGame_eq_ok_iff.mpr ⟨_, renders, (Draft.describes_ofStatements _).game.symm⟩, ?_⟩
  intro written written' run play
  obtain ⟨ending, left, shown, report, walks, read, halted⟩ := playScript_walks text input written
  obtain ⟨faultless, ends, rest⟩ := usual.matches_play renders guesses walks
  obtain ⟨after, ends_play⟩ := playthrough_unlimited (Play.sound_start game) input written'
  have play_eq : play = _ := ends_play
  have run_eq : run = _ := read
  rw [faultless] at run_eq
  have unread : run.2.input = play.2.console.input := by
    rw [run_eq, play_eq]
    show left = (playLines (Play.start game) (lines input)).2.2.flatten
    rw [rest, flatten_lines]
  have played : play.1 = (playLines (Play.start game) (lines input)).1 := by rw [play_eq]
  have result : run.1 = (ending.result none).map fun _ => report := by rw [run_eq]
  rw [played, result]
  cases ending with
  | finished =>
      have going : report.halted = false :=
        Bool.eq_false_iff.mpr fun stopped => nomatch halted.mp stopped
      have won : (playLines (Play.start game) (lines input)).1 = .ok .allLevelsWon := ends
      simp [Ending.result, Except.map, going, won, unread]
  | halted =>
      have stopped : report.halted = true := halted.mpr rfl
      have lost : (playLines (Play.start game) (lines input)).1 = .ok .gameOver := ends
      simp [Ending.result, Except.map, stopped, lost, unread]
  | failed place reason =>
      obtain ⟨failure, rfl, failed⟩ := ends
      have closed : failure = .inputClosed := by
        apply Failure.message_injective
        apply walks.reason_of_texts
        intro line mem
        obtain ⟨part, rfl⟩ := exists_text_of_mem_lines mem
        simp
      rw [closed] at failed ⊢
      have failed : (playLines (Play.start game) (lines input)).1 = .error .inputClosed := failed
      simp [Ending.result, Except.map, failed, unread]

end Scripts

/-- One level, two lives, and the right answer at the second try. -/
theorem modes_agree_peru :
    let text := "MAX_LIVES 2; LEVEL 1; TARGET \"PERU\"; HINT \"Its capital is Lima\"; SOLVE;"
    let input := Utf8.encode "chile\n peru\nbolivia\n"
    ∃ game report, readGame text = .ok game ∧
      (playScript text (ample input [])).1 = .ok report ∧ report.halted = false ∧
      (playthrough.run (unlimited (Play.start game) input [])).1 = .ok .allLevelsWon ∧
      (playScript text (ample input [])).2.input = Utf8.encode "bolivia\n" ∧
      (playthrough.run (unlimited (Play.start game) input [])).2.console.input =
        Utf8.encode "bolivia\n" := by
  intro text input
  have outline : (Cursor.ofText text).outline.fault? = none ∧
      (Cursor.ofText text).outline.statements.map Prod.snd =
        usualStatements [.maxLives 2] [⟨1, "PERU", "Its capital is Lima"⟩] := by
    decide +kernel
  have renders := Cursor.renders_of_outline outline.1
  rw [outline.2] at renders
  have guesses : NoneBlank (lines input) := by
    have each : ∀ line ∈ lines input, (Utf8.decode? line).all (!Answer.isBlank ·) = true := by
      decide +kernel
    intro line mem typed decoded
    have seen := each line mem
    rw [decoded] at seen
    simpa using seen
  have usual : Usual [.maxLives 2] [⟨1, "PERU", "Its capital is Lima"⟩] :=
    ⟨by simp [Sets], by decide, by decide, by decide⟩
  obtain ⟨accepted, both⟩ := modes_agree usual renders guesses
  obtain ⟨ended, -, -, -, unread⟩ := both [] []
  have left : (playScript text (ample input [])).2.input = Utf8.encode "bolivia\n" := by
    decide +kernel
  have reported : (playScript text (ample input [])).1.map (·.halted) = .ok false := by
    decide +kernel
  cases result : (playScript text (ample input [])).1 with
  | error fault =>
      rw [result] at reported
      cases reported
  | ok report =>
      rw [result] at reported
      have going : report.halted = false := Except.ok.inj reported
      exact ⟨_, report, accepted, rfl, going, ended.mp ⟨report, result, going⟩, left,
        unread.symm.trans left⟩

end Console

end GuessingGame
