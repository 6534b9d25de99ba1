/-!
# The event log

The last things that happened, up to a fixed number of them. When the log is
full, the oldest event makes room for the newest. A log without capacity takes
nothing in.
-/

namespace GuessingGame.App

inductive Severity where
  | information
  | error
  deriving DecidableEq, Repr

/-- Something that happened. How long ago it was is for the clock to say where the event is
drawn. -/
structure Event where
  severity : Severity
  message : String
  deriving DecidableEq, Repr

/-- The last events, the newest at the end. -/
structure EventLog where
  capacity : Nat := 50
  events : List Event := []
  deriving DecidableEq, Repr

namespace EventLog

/-- The log after one more event. -/
def push (log : EventLog) (event : Event) : EventLog :=
  if log.capacity = 0 then log
  else
    let kept := if log.capacity ≤ log.events.length then log.events.tail else log.events
    { log with events := kept ++ [event] }

def inform (log : EventLog) (message : String) : EventLog := log.push ⟨.information, message⟩

def complain (log : EventLog) (message : String) : EventLog := log.push ⟨.error, message⟩

/-- The last events of the log, as many as asked for. -/
def recent (log : EventLog) (count : Nat) : List Event :=
  log.events.drop (log.events.length - count)

def errorCount (log : EventLog) : Nat := (log.events.filter (·.severity = .error)).length

@[simp] theorem push_capacity (log : EventLog) (event : Event) :
    (log.push event).capacity = log.capacity := by
  unfold push
  split <;> rfl

end EventLog

end GuessingGame.App
