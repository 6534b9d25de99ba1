import GuessingGame.Console.Basic
import GuessingGame.Play

/-!
# Playing at a console

A play at a console goes in rounds. Each round either ends it or asks the player
for a line, except that moving past a won level asks for nothing; so the length
of the input bounds the number of rounds, however many lives there are.
-/

namespace GuessingGame.Console

structure Table where
  play : Play
  console : Console
  deriving DecidableEq, Repr

/-- Computations on a table. A failure leaves play and console as they were then. -/
abbrev Sitting := Attempt Failure Table

namespace Sitting

def talk {α : Type} (act : Talk α) : Sitting α := ⟨fun table =>
  ((act.run table.console).1, { table with console := (act.run table.console).2 })⟩

def print (text : String) : Sitting Unit := talk (Console.print text)

def askGuess : Sitting String := talk Console.askGuess

def play : Sitting Play := ⟨fun table => (.ok table.play, table)⟩

/-- Makes a move, and says where the play stands then. -/
def move (m : Play.Move) : Sitting Outcome := ⟨fun table =>
  (.ok (table.play.after m).outcome, { table with play := table.play.after m })⟩

@[simp] theorem run_play_bind {β : Type} (f : Play → Sitting β) (table : Table) :
    (play >>= f).run table = (f table.play).run table := rfl

@[simp] theorem run_move_bind {β : Type} (m : Play.Move) (f : Outcome → Sitting β)
    (table : Table) : (move m >>= f).run table =
      (f (table.play.after m).outcome).run { table with play := table.play.after m } := rfl

@[simp] theorem run_talk_play {α : Type} (act : Talk α) (table : Table) :
    ((talk act).run table).2.play = table.play := rfl

@[simp] theorem run_print_input (text : String) (table : Table) :
    ((print text).run table).2.console.input = table.console.input := rfl

theorem length_askGuess_lt {table after : Table} {line : String}
    (ok : askGuess.run table = (.ok line, after)) :
    after.console.input.length < table.console.input.length := by
  simp only [askGuess, talk, Prod.mk.injEq] at ok
  obtain ⟨result, rfl⟩ := ok
  exact Console.length_askGuess_lt (Prod.ext result rfl)

end Sitting

/-- The number of rounds that a table has still to give, at most. -/
def Table.effort (table : Table) : Nat :=
  2 * table.console.input.length + if table.play.outcome = .levelWon then 1 else 0

/-- Whether a round that asks for another one, by returning nothing, has used something up. -/
def Sitting.Progresses {α : Type} (round : Sitting (Option α)) : Prop :=
  ∀ table after, round.run table = (.ok none, after) → after.effort < table.effort

/-- Goes on with rounds until one ends the sitting. -/
def Sitting.untilDone {α : Type} (round : Sitting (Option α)) (progresses : round.Progresses) (table : Table) :
    Except Failure α × Table :=
  match _h : round.run table with
  | (.error failure, after) => (.error failure, after)
  | (.ok (some value), after) => (.ok value, after)
  | (.ok none, after) => round.untilDone progresses after
termination_by table.effort
decreasing_by exact progresses _ _ _h

theorem Sitting.untilDone_of_some {α : Type} {round : Sitting (Option α)} {progresses : round.Progresses}
    {table after : Table} {value : α} (h : round.run table = (.ok (some value), after)) :
    round.untilDone progresses table = (.ok value, after) := by
  rw [Sitting.untilDone]
  split <;> simp_all

theorem Sitting.untilDone_of_none {α : Type} {round : Sitting (Option α)} {progresses : round.Progresses}
    {table after : Table} (h : round.run table = (.ok none, after)) :
    round.untilDone progresses table = round.untilDone progresses after := by
  rw [Sitting.untilDone]
  split <;> simp_all

theorem Sitting.untilDone_of_error {α : Type} {round : Sitting (Option α)} {progresses : round.Progresses}
    {table after : Table} {failure : Failure} (h : round.run table = (.error failure, after)) :
    round.untilDone progresses table = (.error failure, after) := by
  rw [Sitting.untilDone]
  split <;> simp_all

end GuessingGame.Console
