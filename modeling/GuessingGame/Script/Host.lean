import GuessingGame.Script.Statement

/-!
# Hosts

A host takes part in the reading of a script. It is told of titles, lives and
levels as their statements are complete, and it plays each level that is to be
solved; its answer decides whether the reading goes on. A host is a transition
function over a state of its own, so its answers may depend on everything that
it was told before.
-/

namespace GuessingGame.Script

/-- What a host is told while a script is read. -/
inductive Notice where
  | title (text : String)
  | maxLives (lives : UInt64)
  | level (number : UInt64)
  deriving DecidableEq, Repr

/-- What a host is asked to play. -/
structure Challenge where
  target : String
  hint : String
  lives : UInt64
  deriving DecidableEq, Repr

inductive Verdict where
  | proceed
  | halt
  deriving DecidableEq, Repr

/-- A party that plays the levels of a script while it is read. -/
structure Host (σ : Type) where
  /-- Takes note of a statement. -/
  announce : Notice → σ → σ
  /-- Plays a level, or gives the reason why it could not be played. -/
  solve : Challenge → σ → Except String Verdict × σ

def Statement.notice? : Statement → Option Notice
  | .game title => some (.title title)
  | .maxLives lives => some (.maxLives lives)
  | .level number => some (.level number)
  | _ => none

/-- What a host is asked to play: the answer and the hint written last, and the
lives as they are set now, all regardless of levels. -/
def Draft.challenge (draft : Draft) : Challenge :=
  ⟨draft.lastTarget, draft.lastHint, draft.game.maxLives⟩

/-- Tells a host of a statement, if there is something to tell. -/
def Host.hear {σ : Type} (host : Host σ) (statement : Statement) (state : σ) : σ :=
  match statement.notice? with
  | some notice => host.announce notice state
  | none => state

end GuessingGame.Script
