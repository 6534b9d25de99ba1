import GuessingGame.Proofs.Script.Content
import GuessingGame.Proofs.Script.Layout
import GuessingGame.Proofs.Script.Modes
import GuessingGame.Proofs.Script.Relocation

/-!
# A script and its sequel

A script may go on in a second text, which begins on a line of its own. Where the first text
is accepted, nothing of it reaches into the second: its last statement has its semicolon,
and the newline ends the comment that it may end with. So the second text is read as it
would be alone, only further down, and it is accepted or rejected as it would be alone.

What it writes is another matter. The level that was last opened in the first text is still
open, and up to its own first level the sequel writes to that one.
-/

namespace GuessingGame.Script

theorem Gap.append {first second : List Char} (h : Gap first) (k : Gap second) :
    Gap (first ++ second) := by
  induction h with
  | nil => exact k
  | blank blank _ ih => exact .blank blank ih
  | comment closed _ ih =>
      simp only [List.cons_append, List.append_assoc]
      exact .comment closed ih

/-- A newline ends the comment that the last gap may end with. -/
theorem FinalGap.newline {final : List Char} (h : FinalGap final) : Gap (final ++ ['\n']) := by
  have newline : Gap ['\n'] := .blank (by decide) .nil
  cases h with
  | gap h => exact h.append newline
  | comment h unclosed =>
      rw [List.append_assoc]
      exact h.append (.comment unclosed .nil)

namespace Cursor

/-- A gap is passed over with the one behind it. -/
theorem next_gap {gap : List Char} (h : Gap gap) (rest : List Char) (place : Place) :
    next ⟨gap ++ rest, place⟩ = next ⟨rest, place.afterAll gap⟩ := by
  have skipped : skipTrivia ⟨gap ++ rest, place⟩ = skipTrivia ⟨rest, place.afterAll gap⟩ := by
    simp only [skipTrivia, behind, trivia_of_gap h, Place.afterAll_append]
    simp
  rw [next, skipped, next]

/-- Complete statements in front keep no fault from being found. -/
theorem Passes.fault?_outline {cursor behind : Cursor} {statements : List (Place × Statement)}
    (h : cursor.Passes statements behind) :
    cursor.outline.fault? = behind.outline.fault? := by
  induction h with
  | nil => rfl
  | cons holds _ ih =>
      obtain ⟨rest, first, going⟩ := holds.ahead
      rw [← ih]
      rcases holds.run first with ⟨following, found, read⟩ | ⟨fault, left, found, read⟩
      · rw [outline_of_ahead first, Lookahead.outline_of_ok going read, outline_of_ahead found]
      · rw [outline_of_ahead first, Lookahead.outline_of_error going read, outline_of_fault found]

end Cursor

/-- The text of two scripts, the second on a line of its own. -/
def joined (first second : String) : String := first ++ "\n" ++ second

/-- How many lines further down the second part of a joined text begins. -/
def linesBefore (first : String) : Nat := first.toList.count '\n' + 1

theorem counted_newline (text : List Char) :
    Place.counted (text ++ ['\n']) = Place.start.below (text.count '\n' + 1) := by
  simp [Place.counted, Place.start, Place.below]

/-- The statements of the first text are passed in the joined one, and then stands what the
second begins with, further down. -/
theorem passes_joined {first : String} (faultless : (Cursor.ofText first).outline.fault? = none)
    (second : String) : ∃ behind,
      (Cursor.ofText (joined first second)).Passes (Cursor.ofText first).outline.statements
        behind ∧
      behind.next = ((Cursor.ofText second).below (linesBefore first)).next := by
  obtain ⟨last, passes, final⟩ := Cursor.passes_of_faultless faultless
  obtain ⟨front, split, -, place⟩ := passes.spells
  have text : (joined first second).toList = front ++ (last.rest ++ '\n' :: second.toList) := by
    have first_eq : first.toList = front ++ last.rest := split
    simp [joined, first_eq]
  refine ⟨⟨last.rest ++ '\n' :: second.toList, last.place⟩, ?_, ?_⟩
  · rw [Cursor.ofText, text]
    exact passes.swap split _
  · have begins : last.place.afterAll (last.rest ++ ['\n']) =
        Place.start.below (linesBefore first) := by
      rw [place, ← Place.afterAll_append, ← List.append_assoc, ← split]
      exact (Place.afterAll_start _).trans (counted_newline _)
    have meets := Cursor.next_gap final.newline second.toList last.place
    rw [List.append_assoc, List.singleton_append, begins] at meets
    exact meets

/-- The outline of a joined text: the statements of the first, and then the outline of the
second, further down. A fault in the first token of the second keeps the last statement of
the first from being performed. -/
theorem outline_joined {first : String} (faultless : (Cursor.ofText first).outline.fault? = none)
    (second : String) :
    (Cursor.ofText (joined first second)).outline.fault? =
        (Cursor.ofText second).outline.fault?.map (Fault.below (linesBefore first)) ∧
      ((Cursor.ofText second).outline.fault? = none →
        (Cursor.ofText (joined first second)).outline.statements.map Prod.snd =
          (Cursor.ofText first).outline.statements.map Prod.snd ++
            (Cursor.ofText second).outline.statements.map Prod.snd) := by
  obtain ⟨behind, passes, next⟩ := passes_joined faultless second
  have ahead : behind.ahead = ((Cursor.ofText second).below (linesBefore first)).ahead := by
    rw [Cursor.ahead, next, Cursor.ahead]
  have outline : behind.outline = (Cursor.ofText second).outline.below (linesBefore first) := by
    rw [← Cursor.outline_below, Cursor.outline, ahead, Cursor.outline]
  constructor
  · rw [passes.fault?_outline, outline]
    rfl
  · intro accepted
    cases found : behind.ahead with
    | error fault =>
        -- the second text would be at fault
        rw [Cursor.outline_of_fault found] at outline
        have faults := congrArg Outline.fault? outline
        simp [Outline.below, accepted] at faults
    | ok last =>
        have whole := passes.outline found
        rw [← Cursor.outline_of_ahead found, outline] at whole
        rw [whole, List.map_append, Outline.map_snd_below]

/-- `Sequel statements game other both` says what becomes of a game when the script goes on
with statements that would describe `other` alone. -/
structure Sequel (statements : List Statement) (game other both : Game) : Prop where
  title_eq : both.title = (latest Statement.title? statements).getD game.title
  maxLives_eq : both.maxLives = (latest Statement.lives? statements).getD game.maxLives
  /-- As long as there is no level, the sequel writes loosely, as it would alone. -/
  of_none : game.levels = [] → both.levels = other.levels ∧
    both.looseTarget = other.looseTarget.or game.looseTarget ∧
    both.looseHint = other.looseHint.or game.looseHint
  /-- What the sequel would write loosely it writes to the last level. -/
  of_last : ∀ before last, game.levels = before ++ [last] →
    both.levels = before ++ { last with
      target := other.looseTarget.or last.target
      hint := other.looseHint.or last.hint } :: other.levels ∧
    both.looseTarget = game.looseTarget ∧ both.looseHint = game.looseHint

/-- The last value of two parts, where there is a default. -/
theorem getD_latest_append {α : Type} (value? : Statement → Option α)
    (first second : List Statement) (default : α) :
    (latest value? (first ++ second)).getD default =
      (latest value? second).getD ((latest value? first).getD default) := by
  rw [latest_append]
  cases latest value? second <;> rfl

theorem Chapter.toLevel_append (number : UInt64) (body more : List Statement) :
    toLevel ⟨number, body ++ more⟩ = { toLevel ⟨number, body⟩ with
      target := (latest Statement.target? more).or (latest Statement.target? body)
      hint := (latest Statement.hint? more).or (latest Statement.hint? body) } := by
  simp [toLevel, latest_append]

theorem sequel_described (first second : List Statement) :
    Sequel second (described first) (described second) (described (first ++ second)) where
  title_eq := getD_latest_append _ _ _ _
  maxLives_eq := getD_latest_append _ _ _ _
  of_none unlevelled := by
    rcases chapters_append first second with ⟨-, loose, others⟩ | ⟨_, _, _, split, -, -⟩
    · simp only [described, loose, others, latest_append]
      exact ⟨trivial, trivial, trivial⟩
    · simp [described, split] at unlevelled
  of_last before last levels := by
    rcases chapters_append first second with
      ⟨unlevelled, -, -⟩ | ⟨front, number, body, split, loose, others⟩
    · simp [described, unlevelled] at levels
    · rw [described, split, List.map_append, List.map_singleton] at levels
      obtain ⟨rfl, rfl⟩ := List.append_singleton_inj.mp levels
      simp only [described, loose, others]
      rw [List.map_append, List.map_cons, Chapter.toLevel_append]
      exact ⟨rfl, trivial, trivial⟩

theorem readGame_eq_ok_iff_faultless {text : String} {game : Game} :
    readGame text = .ok game ↔ (Cursor.ofText text).outline.fault? = none ∧
      game = described ((Cursor.ofText text).outline.statements.map Prod.snd) := by
  rw [readGame_eq, (Draft.describes_ofStatements _).game]
  cases (Cursor.ofText text).outline.fault? <;> simp [eq_comm]

/-- A sequel is accepted or rejected as it would be alone, with its faults further down. The
game of the joined script is the game of the first text, taken further by the statements
that the second one spells. -/
theorem readGame_sequel {first : String} {game : Game} (accepted : readGame first = .ok game)
    (second : String) :
    ((∃ both, readGame (joined first second) = .ok both) ↔
      ∃ other, readGame second = .ok other) ∧
    (∀ fault, readGame second = .error fault → readGame (joined first second) =
      .error ⟨fault.cause,
        ⟨fault.place.line + first.toList.count '\n' + 1, fault.place.column⟩⟩) ∧
    ∀ other both, readGame second = .ok other → readGame (joined first second) = .ok both →
      ∃ statements : List Statement,
        Renders (statements.flatMap Statement.lexemes) second.toList ∧
        Sequel statements game other both := by
  obtain ⟨faultless, rfl⟩ := readGame_eq_ok_iff_faultless.mp accepted
  obtain ⟨faults, statements⟩ := outline_joined faultless second
  have rejects : ∀ fault, readGame second = .error fault →
      readGame (joined first second) = .error (fault.below (linesBefore first)) := by
    intro fault rejected
    rw [readGame_eq_error_iff] at rejected ⊢
    rw [faults, rejected]
    rfl
  have accepts : ∀ other, readGame second = .ok other →
      readGame (joined first second) =
        .ok (described ((Cursor.ofText first).outline.statements.map Prod.snd ++
          (Cursor.ofText second).outline.statements.map Prod.snd)) := by
    intro other accepted
    obtain ⟨alone, -⟩ := readGame_eq_ok_iff_faultless.mp accepted
    rw [readGame_eq_ok_iff_faultless, faults, alone, statements alone]
    exact ⟨rfl, rfl⟩
  refine ⟨⟨?_, ?_⟩, rejects, ?_⟩
  · rintro ⟨both, joint⟩
    cases alone : readGame second with
    | ok other => exact ⟨other, rfl⟩
    | error fault =>
        rw [rejects fault alone] at joint
        cases joint
  · rintro ⟨other, alone⟩
    exact ⟨_, accepts other alone⟩
  · intro other both alone joint
    rw [accepts other alone] at joint
    cases joint
    obtain ⟨faultless', rfl⟩ := readGame_eq_ok_iff_faultless.mp alone
    exact ⟨_, Cursor.renders_of_outline faultless', sequel_described _ _⟩

/-- A comment at the end of the first text, and a fault in the second. -/
theorem readGame_sequel_comment :
    let first := "LEVEL 1;\nTARGET \"PERU\"; // one"
    let game : Game := { levels := [{ number := 1, target := some "PERU" }] }
    readGame first = .ok game ∧
      readGame "HINT 3;" = .error ⟨.unexpected [.string] .integer, ⟨1, 6⟩⟩ ∧
      readGame (joined first "HINT 3;") = .error ⟨.unexpected [.string] .integer, ⟨3, 6⟩⟩ := by
  intro first game
  have accepted : readGame first = .ok game := by decide +kernel
  have rejected : readGame "HINT 3;" = .error ⟨.unexpected [.string] .integer, ⟨1, 6⟩⟩ := by
    decide +kernel
  have newlines : first.toList.count '\n' = 1 := by decide
  have joint := (readGame_sequel accepted "HINT 3;").2.1 _ rejected
  rw [newlines] at joint
  exact ⟨accepted, rejected, joint⟩

end GuessingGame.Script
