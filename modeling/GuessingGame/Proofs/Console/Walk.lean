import GuessingGame.CommandLine.Perform
import GuessingGame.Proofs.Console.Challenge
import GuessingGame.Proofs.Script.Modes

/-!
# A script and the lines of input

A script that is played while it is read takes its lines challenge by challenge: what one
leaves is ahead of the next. `Walks` says how the calls of a script come out on some lines,
and which of these are left.

A reading at a console that takes all output is such a walk. This decides how the reading
ends, but for the faults of the script: `playScript_of_lines`. The one thing that the
statements alone do not show is that the last of them is not performed where the text behind
it is no token. A challenge there is not played, and leaves all lines.
-/

namespace GuessingGame

namespace Script

/-- The calls of two lists of statements, one behind the other. -/
theorem calls_append (before : List Statement) (front back : List (Place × Statement)) :
    calls before (front ++ back) =
      calls before front ++ calls (before ++ front.map Prod.snd) back := by
  induction front generalizing before with
  | nil => simp [calls]
  | cons first front ih =>
      obtain ⟨place, statement⟩ := first
      simp [calls, ih]

end Script

namespace Console

open Script
open GuessingGame.Text

/-- `Walks due ahead ending rest` says how the calls `due` of a script end where some lines
are ahead, and which lines they leave. -/
inductive Walks : List (Place × Call) → List (List UInt8) → Ending → List (List UInt8) → Prop
  | finished {ahead : List (List UInt8)} : Walks [] ahead .finished ahead
  | told {place : Place} {notice : Notice} {due : List (Place × Call)}
      {ahead rest : List (List UInt8)} {ending : Ending} : Walks due ahead ending rest →
      Walks ((place, .tell notice) :: due) ahead ending rest
  | won {place : Place} {challenge : Challenge} {due : List (Place × Call)}
      {ahead middle rest : List (List UInt8)} {ending : Ending} :
      Tries challenge.target challenge.lives.toNat ahead (.ok .proceed) middle →
      Walks due middle ending rest → Walks ((place, .ask challenge) :: due) ahead ending rest
  | lost {place : Place} {challenge : Challenge} {due : List (Place × Call)}
      {ahead rest : List (List UInt8)} :
      Tries challenge.target challenge.lives.toNat ahead (.ok .halt) rest →
      Walks ((place, .ask challenge) :: due) ahead .halted rest
  | failed {place : Place} {challenge : Challenge} {due : List (Place × Call)}
      {ahead rest : List (List UInt8)} {failure : Failure} :
      Tries challenge.target challenge.lives.toNat ahead (.error failure) rest →
      Walks ((place, .ask challenge) :: due) ahead (.failed place failure.message) rest

namespace Walks

variable {due later : List (Place × Call)} {ahead middle rest left : List (List UInt8)}
variable {ending other : Ending}

/-- There is one way to walk. -/
theorem unique (h : Walks due ahead ending rest) (k : Walks due ahead other left) :
    ending = other ∧ rest = left := by
  induction h with
  | finished =>
      cases k
      exact ⟨rfl, rfl⟩
  | told _ ih =>
      cases k with
      | told k => exact ih k
  | won tries _ ih =>
      cases k with
      | won tries' k =>
          obtain ⟨-, rfl⟩ := tries.unique tries'
          exact ih k
      | lost tries' | failed tries' => cases (tries.unique tries').1
  | lost tries =>
      cases k with
      | lost tries' => exact ⟨rfl, (tries.unique tries').2⟩
      | won tries' _ | failed tries' => cases (tries.unique tries').1
  | failed tries =>
      cases k with
      | failed tries' =>
          obtain ⟨same, rfl⟩ := tries.unique tries'
          cases same
          exact ⟨rfl, rfl⟩
      | won tries' _ | lost tries' => cases (tries.unique tries').1

/-- What is behind a walk that is finished goes on with the lines that it leaves. -/
theorem append (h : Walks due ahead .finished middle) (k : Walks later middle ending rest) :
    Walks (due ++ later) ahead ending rest := by
  generalize finished : Ending.finished = first at h
  induction h with
  | finished => exact k
  | told _ ih => exact .told (ih k finished)
  | won tries _ ih => exact .won tries (ih k finished)
  | lost _ | failed _ => cases finished

/-- Only a challenge takes lines. -/
theorem cons_iff_of_ne {before : List Statement} {statement : Statement}
    (ne : statement ≠ .solve) (place : Place) (statements : List (Place × Statement)) :
    Walks (calls before ((place, statement) :: statements)) ahead ending rest ↔
      Walks (calls (before ++ [statement]) statements) ahead ending rest := by
  cases heard : statement.notice? with
  | none => rw [calls_of_none (call?_of_quiet ne heard before)]
  | some notice =>
      rw [calls_of_some (call?_of_notice? heard before)]
      constructor
      · intro h
        cases h with
        | told h => exact h
      · exact .told

/-- A walk that is halted is finished up to a challenge that is lost. -/
theorem front_of_halted {before : List Statement} {statements : List (Place × Statement)}
    (h : Walks (calls before statements) ahead .halted rest) :
    ∃ front place back middle, statements = front ++ (place, .solve) :: back ∧
      Walks (calls before front) ahead .finished middle ∧
      Tries (challengeAfter (before ++ front.map Prod.snd)).target
        (challengeAfter (before ++ front.map Prod.snd)).lives.toNat middle (.ok .halt) rest := by
  induction statements generalizing before ahead with
  | nil => cases h
  | cons first statements ih =>
      obtain ⟨place, statement⟩ := first
      by_cases plays : statement = .solve
      · subst plays
        rw [calls_of_some rfl] at h
        cases h with
        | won tries h =>
            obtain ⟨front, place', back, middle, rfl, walks, lost⟩ := ih h
            rw [List.append_assoc, List.singleton_append] at lost
            refine ⟨(place, .solve) :: front, place', back, middle, rfl, ?_, lost⟩
            rw [calls_of_some rfl]
            exact .won tries walks
        | lost tries =>
            refine ⟨[], place, statements, ahead, rfl, .finished, ?_⟩
            rwa [List.map_nil, List.append_nil]
      · obtain ⟨front, place', back, middle, rfl, walks, lost⟩ :=
          ih ((cons_iff_of_ne plays place statements).mp h)
        rw [List.append_assoc, List.singleton_append] at lost
        exact ⟨(place, statement) :: front, place', back, middle, rfl,
          (cons_iff_of_ne plays place front).mpr walks, lost⟩

end Walks

/-- Where all lines are texts, a walk can fail only for want of lines. -/
theorem Walks.reason_of_texts {due : List (Place × Call)} {ahead rest : List (List UInt8)}
    {place : Place} {reason : String} (h : Walks due ahead (.failed place reason) rest)
    (texts : ∀ line ∈ ahead, Utf8.decode? line ≠ none) :
    reason = Failure.inputClosed.message := by
  generalize failed : Ending.failed place reason = ending at h
  induction h with
  | finished | lost _ => cases failed
  | told _ ih => exact ih texts failed
  | won tries _ ih => exact ih (fun line mem => texts line (tries.isSuffix.mem mem)) failed
  | failed tries =>
      cases failed
      cases tries with
      | closed _ _ => rfl
      | garbled _ _ bad => exact absurd bad (texts _ (by simp))

theorem Failure.message_injective {first second : Failure} (h : first.message = second.message) :
    first = second := by
  cases first <;> cases second <;> first | rfl | exact absurd h (by decide)

def ample (input written : List UInt8) : Console := { input, output := { written } }

theorem solve_of_run {challenge : Challenge} {console after : Console}
    {result : Except Failure Verdict}
    (run : (playChallenge challenge).run console = (result, after)) :
    host.solve challenge console = (result.mapError Failure.message, after) := by
  cases result <;> simp only [host, run] <;> rfl

theorem announce_ample (notice : Notice) (input written : List UInt8) :
    host.announce notice (ample input written) =
      ample input (written ++ Utf8.encode (noticeText notice)) :=
  rfl

/-- A challenge at a console that takes all output is tried on the lines ahead. -/
theorem solve_ample (challenge : Challenge) (input written : List UInt8) :
    ∃ result left after,
      Tries challenge.target challenge.lives.toNat (lines input) result (lines left) ∧
      host.solve challenge (ample input written) =
        (result.mapError Failure.message, ample left after) := by
  obtain ⟨text, writes⟩ := writes_playChallenge challenge input
  have tries := tries_tryLines challenge.target challenge.lives.toNat (lines input)
  refine ⟨_, _, _, ?_, solve_of_run (writes.run_of_fits { written } rfl)⟩
  rwa [lines_flatten_of_isSuffix tries.isSuffix]

/-- A run at a console that takes all output is a walk on the lines ahead. -/
theorem walks_of_follows {statements : List (Place × Statement)} {reader after : Reader}
    {console console' : Console} {made : List (Place × Exchange)} {ending : Ending}
    (h : Reader.Follows host statements reader console made ending after console')
    {input written : List UInt8} (start : console = ample input written)
    {before : List Statement} (built : reader.draft.Describes before) :
    ∃ left written', Walks (calls before statements) (lines input) ending (lines left) ∧
      console' = ample left written' := by
  induction h generalizing input written before with
  | nil => exact ⟨input, written, .finished, start⟩
  | @quiet place statement rest _ _ _ _ _ _ ne _ _ ih =>
      obtain ⟨left, written', walks, finish⟩ := ih start (built.apply statement)
      exact ⟨left, written', (Walks.cons_iff_of_ne ne place rest).mpr walks, finish⟩
  | @told place statement notice rest _ _ _ _ _ _ heard _ ih =>
      rw [start, announce_ample] at ih
      obtain ⟨left, written', walks, finish⟩ := ih rfl (built.apply statement)
      have ne := Reader.ne_solve_of_notice? heard
      exact ⟨left, written', (Walks.cons_iff_of_ne ne place rest).mpr walks, finish⟩
  | @proceed place rest reader _ _ _ _ _ _ answer _ ih =>
      obtain ⟨result, middle, shown, tries, solved⟩ :=
        solve_ample reader.draft.challenge input written
      rw [start, solved] at answer
      rw [calls_of_solve built]
      cases result with
      | error failure => cases answer
      | ok verdict =>
          cases answer
          obtain ⟨left, written', walks, finish⟩ := ih rfl (built.apply .solve)
          exact ⟨left, written', .won tries walks, finish⟩
  | @halt place rest reader _ _ answer =>
      obtain ⟨result, left, shown, tries, solved⟩ :=
        solve_ample reader.draft.challenge input written
      rw [start, solved] at answer
      rw [calls_of_solve built]
      cases result with
      | error failure => cases answer
      | ok verdict =>
          cases answer
          exact ⟨left, shown, .lost tries, rfl⟩
  | @fail place reason rest reader _ _ answer =>
      obtain ⟨result, left, shown, tries, solved⟩ :=
        solve_ample reader.draft.challenge input written
      rw [start, solved] at answer
      rw [calls_of_solve built]
      cases result with
      | ok verdict => cases answer
      | error failure =>
          cases answer
          exact ⟨left, shown, .failed tries, rfl⟩

/-- What a reading at a console comes to is decided by its walk and the fault that waits
behind the statements. -/
theorem playScript_walks (text : String) (input written : List UInt8) :
    ∃ ending left written' report,
      Walks (calls [] (Cursor.ofText text).outline.statements) (lines input) ending
        (lines left) ∧
      playScript text (ample input written) =
        ((ending.result (Cursor.ofText text).outline.fault?).map fun _ => report,
          ample left written') ∧
      (report.halted = true ↔ ending = .halted) := by
  obtain ⟨made, ending, after, console, follows, run, -⟩ :=
    read_follows host text (ample input written)
  obtain ⟨left, written', walks, rfl⟩ := walks_of_follows follows rfl Draft.describes_nil
  refine ⟨ending, left, written', after.report, walks, run, ?_, ?_⟩
  · exact follows.ending_of_halted rfl
  · intro halted
    obtain ⟨front, back, -, -, after_eq, -⟩ := follows.front_of_halted halted
    rw [after_eq]
    rfl

section Results

variable {text : String} {input written : List UInt8}

/-- A reading ends well if the script is accepted and every challenge is won. -/
theorem ended_iff :
    (∃ report, (playScript text (ample input written)).1 = .ok report ∧ report.halted = false) ↔
      (∃ game, readGame text = .ok game) ∧
        ∃ rest, Walks (calls [] (Cursor.ofText text).outline.statements) (lines input) .finished
          rest := by
  obtain ⟨ending, left, shown, report, walks, played, halted⟩ := playScript_walks text input written
  rw [played, readGame_eq]
  constructor
  · rintro ⟨report', ok, going⟩
    cases ending with
    | finished =>
        cases waiting : (Cursor.ofText text).outline.fault? with
        | none => exact ⟨⟨_, rfl⟩, _, walks⟩
        | some fault =>
            rw [waiting] at ok
            cases ok
    | halted =>
        cases ok
        rw [halted.mpr rfl] at going
        cases going
    | failed place reason => cases ok
  · rintro ⟨⟨game, accepted⟩, rest, walks'⟩
    obtain ⟨rfl, -⟩ := walks.unique walks'
    cases waiting : (Cursor.ofText text).outline.fault? with
    | none => exact ⟨report, rfl, Bool.eq_false_iff.mpr fun stopped => nomatch halted.mp stopped⟩
    | some fault =>
        rw [waiting] at accepted
        cases accepted

/-- A reading is halted if a challenge is lost. -/
theorem halted_iff :
    (∃ report, (playScript text (ample input written)).1 = .ok report ∧ report.halted = true) ↔
      ∃ rest, Walks (calls [] (Cursor.ofText text).outline.statements) (lines input) .halted
        rest := by
  obtain ⟨ending, left, shown, report, walks, played, halted⟩ := playScript_walks text input written
  rw [played]
  constructor
  · rintro ⟨report', ok, stopped⟩
    cases result : ending.result (Cursor.ofText text).outline.fault? with
    | error fault =>
        rw [result] at ok
        cases ok
    | ok _ =>
        rw [result] at ok
        cases ok
        rw [halted.mp stopped] at walks
        exact ⟨_, walks⟩
  · rintro ⟨rest, walks'⟩
    obtain ⟨rfl, -⟩ := walks.unique walks'
    exact ⟨report, rfl, halted.mpr rfl⟩

/-- What was written before a reading plays no part in whether it fails. -/
theorem exists_report_of_exists {written' : List UInt8}
    (h : ∃ report, (playScript text (ample input written)).1 = .ok report) :
    ∃ report, (playScript text (ample input written')).1 = .ok report := by
  obtain ⟨report, ok⟩ := h
  cases halted : report.halted with
  | true =>
      obtain ⟨report', ok', -⟩ := halted_iff.mpr (halted_iff.mp ⟨report, ok, halted⟩)
      exact ⟨report', ok'⟩
  | false =>
      obtain ⟨report', ok', -⟩ := ended_iff.mpr (ended_iff.mp ⟨report, ok, halted⟩)
      exact ⟨report', ok'⟩

/-- The lost challenge stands at the end of complete statements, and a token behind them. -/
theorem walks_halted_iff {ahead rest : List (List UInt8)} :
    Walks (calls [] (Cursor.ofText text).outline.statements) ahead .halted rest ↔
      ∃ front place next token middle,
        (Cursor.ofText text).Passes (front ++ [(place, .solve)]) next ∧
        next.next.1 = .ok token ∧ Walks (calls [] front) ahead .finished middle ∧
        Tries (challengeAfter (front.map Prod.snd)).target
          (challengeAfter (front.map Prod.snd)).lives.toNat middle (.ok .halt) rest := by
  constructor
  · intro walks
    obtain ⟨front, place, back, middle, split, before, lost⟩ := walks.front_of_halted
    rw [List.append_cons] at split
    obtain ⟨next, following, passes, found⟩ := Cursor.passes_of_outline split (by simp)
    exact ⟨front, place, next, following.current, middle, passes,
      congrArg Prod.fst (Cursor.next_of_ahead found), before, lost⟩
  · rintro ⟨front, place, next, token, middle, passes, found, before, lost⟩
    have whole := passes.outline (Cursor.ahead_of_next (Prod.ext found rfl))
    rw [whole, List.append_assoc, calls_append]
    exact before.append (.lost lost)

end Results

section Running

open CommandLine

def greeting : String := "Starting Compiler (CLI mode)...\n"

def farewell : String := "\n--- Program Finished Successfully ---\n"

theorem runScript_eq (text : String) (input written : List UInt8) :
    runScript text (ample input written) =
      match playScript text (ample input (written ++ Utf8.encode greeting)) with
      | (.ok report, console) =>
        if report.halted then (0, console) else saying farewell 0 console
      | (.error fault, console) =>
        saying ("\nCompiler Error: " ++ fault.message ++ "\n") 1 console :=
  rfl

theorem perform_run {files : Files} {words : List String} {request : Request} {text : String}
    (asked : parse words = .ok request) (run : request.command = .run)
    (loaded : Script.load files
      (request.script.getD ((Settings.load files).toOption.getD {}).scriptPath) = .ok text)
    (input written : List UInt8) :
    perform files words (ample input written) = runScript text (ample input written) := by
  have silent : saying (preface .run) 0 (ample input written) = (0, ample input written) := by
    have none : Utf8.encode "" = [] := rfl
    simp [saying, preface, print, ample, none]
  simp only [perform, asked, Request.perform, run, silent, loaded, Command.perform]

theorem encode_failure_ne_farewell (message : String) :
    Utf8.encode ("\nCompiler Error: " ++ message ++ "\n") ≠ Utf8.encode farewell := by
  intro same
  have second := congrArg (fun text => text.toList[1]?) (Utf8.encode_inj same)
  simp [farewell] at second

/-- A run says farewell if the reading ended well, and only then; its code is one if the
reading failed, and only then. -/
theorem runScript_ends (text : String) (input written : List UInt8) :
    let played := playScript text (ample input (written ++ Utf8.encode greeting))
    let done := runScript text (ample input written)
    (done.2.output.written = played.2.output.written ++ Utf8.encode farewell ↔
      ∃ report, played.1 = .ok report ∧ report.halted = false) ∧
    (done.1 = 1 ↔ ¬∃ report, played.1 = .ok report) := by
  intro played done
  obtain ⟨ending, left, shown, report, -, run, -⟩ :=
    playScript_walks text input (written ++ Utf8.encode greeting)
  have played_eq : played = _ := run
  have done_eq : done = _ := runScript_eq text input written
  rw [run] at done_eq
  rw [done_eq, played_eq]
  cases ending.result (Cursor.ofText text).outline.fault? with
  | error fault =>
      have other := encode_failure_ne_farewell fault.message
      simp [Except.map, saying, print, ample, Output.append, -Utf8.encode_append, other]
  | ok _ =>
      have said : Utf8.encode farewell ≠ [] := by decide
      cases halted : report.halted with
      | true => simp [Except.map, ample, halted, said]
      | false => simp [Except.map, saying, print, ample, Output.append, halted]

end Running

/-- How a script that is played while it is read comes out, on any text that was typed.

The calls of its complete statements are a walk on the lines of the input, and what the walk
leaves is left unread. The last of these statements makes no call where the text behind its
semicolon is no token. If lines are missing, the reading fails at the challenge which lacks
them. It ends well if the script is accepted and every challenge is won. It is halted if there
are complete statements, the last of them a challenge, such that all challenges before that
one are won and that one is lost, and a token stands behind them. To run a script says
farewell in the first case, and its code is one if the reading fails. -/
theorem playScript_of_lines (text typed : String) (written : List UInt8) :
    let input := Utf8.encode typed
    let run := playScript text (ample input written)
    let ended : Prop := ∃ report, run.1 = .ok report ∧ report.halted = false
    let halted : Prop := ∃ report, run.1 = .ok report ∧ report.halted = true
    ∃ complete behind ending rest,
      (Cursor.ofText text).Passes complete behind ∧ behind.Stops ∧
      Walks (calls [] (Cursor.performed complete behind)) (lines input) ending rest ∧
      run.2.input = rest.flatten ∧
      (∀ place reason, ending = .failed place reason →
        run.1 = .error ⟨.interrupted Failure.inputClosed.message, place⟩) ∧
      (ended ↔ (∃ game, readGame text = .ok game) ∧ ending = .finished) ∧
      (halted ↔ ∃ front place next token middle left,
        (Cursor.ofText text).Passes (front ++ [(place, .solve)]) next ∧
        next.next.1 = .ok token ∧ Walks (calls [] front) (lines input) .finished middle ∧
        Tries (challengeAfter (front.map Prod.snd)).target
          (challengeAfter (front.map Prod.snd)).lives.toNat middle (.ok .halt) left) ∧
      ∀ files words request, CommandLine.parse words = .ok request → request.command = .run →
        Script.load files (request.script.getD
          ((Settings.load files).toOption.getD {}).scriptPath) = .ok text →
        let done := CommandLine.perform files words (ample input written)
        let shown := (playScript text (ample input (written ++ Utf8.encode greeting))).2.output
        (done.2.output.written = shown.written ++ Utf8.encode farewell ↔ ended) ∧
          (done.1 = 1 ↔ ∃ fault, run.1 = .error fault) := by
  intro input run ended halted
  obtain ⟨complete, behind, passes, stops, statements⟩ := (Cursor.ofText text).statements_outline
  obtain ⟨ending, left, shown, report, walks, played, -⟩ := playScript_walks text input written
  have run_eq : run = _ := played
  have finished : ended ↔ (∃ game, readGame text = .ok game) ∧ ending = .finished := by
    refine ended_iff.trans (and_congr_right fun _ => ⟨?_, ?_⟩)
    · rintro ⟨rest, walks'⟩
      exact (walks.unique walks').1
    · rintro rfl
      exact ⟨_, walks⟩
  refine ⟨complete, behind, ending, lines left, passes, stops, ?_, ?_, ?_, finished, ?_, ?_⟩
  · rwa [← statements]
  · rw [run_eq, flatten_lines]
    rfl
  · intro place reason failed
    subst failed
    rw [run_eq, walks.reason_of_texts ?_]
    · rfl
    · intro line mem
      obtain ⟨part, rfl⟩ := exists_text_of_mem_lines mem
      simp
  · refine halted_iff.trans ⟨?_, ?_⟩
    · rintro ⟨rest, walks'⟩
      obtain ⟨front, place, next, token, middle, lost⟩ := walks_halted_iff.mp walks'
      exact ⟨front, place, next, token, middle, rest, lost⟩
    · rintro ⟨front, place, next, token, middle, rest, lost⟩
      exact ⟨rest, walks_halted_iff.mpr ⟨front, place, next, token, middle, lost⟩⟩
  · intro files words request asked run_ loaded done_ shown_
    obtain ⟨said, code⟩ := runScript_ends text input written
    have done_eq : done_ = CommandLine.runScript text (ample input written) :=
      perform_run asked run_ loaded input written
    rw [done_eq]
    refine ⟨said.trans (ended_iff.trans ended_iff.symm), code.trans ⟨?_, ?_⟩⟩
    · intro failed
      cases result : run.1 with
      | error fault => exact ⟨fault, rfl⟩
      | ok report => exact absurd (exists_report_of_exists ⟨report, result⟩) failed
    · rintro ⟨fault, failed⟩ reported
      obtain ⟨report, ok⟩ := exists_report_of_exists reported
      rw [show run.1 = .ok report from ok] at failed
      cases failed

/-- A script in the usual place, whose one level is won at the first try. -/
theorem playScript_of_lines_peru :
    let text := "TARGET \"PERU\"; SOLVE;"
    let input := Utf8.encode "peru\n"
    let files : Files := fun path =>
      if path = "game.cgs" then .ok (Utf8.encode text) else .error .missing
    let done := CommandLine.perform files ["run"] (ample input [])
    let shown := (playScript text (ample input (Utf8.encode greeting))).2.output
    Script.load files "game.cgs" = .ok text ∧
      (playScript text (ample input [])).1.map (·.halted) = .ok false ∧
      done.2.output.written = shown.written ++ Utf8.encode farewell ∧ done.1 ≠ 1 := by
  intro text input files done shown
  have loaded : Script.load files "game.cgs" = .ok text := by decide +kernel
  have settings : Settings.load files = .ok {} := by rfl
  have parsed : CommandLine.parse ["run"] = .ok (CommandLine.request .run {} {}) := by rfl
  have reported : (playScript text (ample input [])).1.map (·.halted) = .ok false := by
    decide +kernel
  obtain ⟨-, -, -, -, -, -, -, -, -, -, -, runs⟩ := playScript_of_lines text "peru\n" []
  obtain ⟨said, code⟩ := runs files ["run"] _ parsed rfl (by rw [settings]; exact loaded)
  refine ⟨loaded, reported, ?_, ?_⟩
  · refine said.mpr ?_
    cases result : (playScript text (ample input [])).1 with
    | error fault =>
        rw [result] at reported
        cases reported
    | ok report =>
        rw [result] at reported
        exact ⟨report, rfl, Except.ok.inj reported⟩
  · intro one
    obtain ⟨fault, failed⟩ := code.mp one
    rw [failed] at reported
    cases reported

/-- A complete challenge that no token follows is not played: by the lines it would be lost,
but its line is left. -/
theorem challenge_before_fault_unplayed :
    let text := "SOLVE; #"
    let input := Utf8.encode "x\n"
    let complete : List (Place × Statement) := [(⟨1, 1⟩, .solve)]
    ∃ behind, (Cursor.ofText text).Passes complete behind ∧ behind.Stops ∧
      Walks (calls [] complete) (lines input) .halted [] ∧
      (playScript text { input }).2.input = input ∧ input ≠ List.flatten [] := by
  intro text input complete
  have holds : (Cursor.ofText text).Holds .solve
      [⟨.keyword .solve, ⟨1, 1⟩⟩, ⟨.semicolon, ⟨1, 6⟩⟩] ⟨[' ', '#'], ⟨1, 7⟩⟩ :=
    ⟨@Cursor.Reads.cons _ ⟨[';', ' ', '#'], ⟨1, 6⟩⟩ _ _ _ (by decide +kernel) (by decide)
      (.cons (by decide +kernel) (by decide) .nil), rfl⟩
  have fault : Cursor.ahead ⟨[' ', '#'], ⟨1, 7⟩⟩ = .error ⟨.illegalCharacter '#', ⟨1, 8⟩⟩ := by
    decide
  refine ⟨_, .cons holds .nil, Cursor.stops_of_fault fault, .lost (tries_iff.mpr ?_), ?_, ?_⟩
  · decide +kernel
  · decide +kernel
  · decide

end Console

end GuessingGame
