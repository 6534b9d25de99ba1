import GuessingGame.App.EventLog

/-!
# What the event log remembers

A log of some capacity stands for the end of a history, that of everything that was ever written
to it: `EventLog.Keeps`. The log itself never looks at a history. It drops one event at its front
when it is full, and takes nothing in when it has no capacity. On a log that holds no more than its
capacity this comes to the newest events of what it held and the new one, `push_events`; hence each
new event keeps the log at the end of its history, and so does any number of them.
-/

namespace GuessingGame.App.EventLog

/-- The last events of a history, as many as asked for. -/
def newest (count : Nat) (history : List Event) : List Event :=
  history.drop (history.length - count)

theorem length_newest (count : Nat) (history : List Event) :
    (newest count history).length = min count history.length := by
  rw [newest, List.length_drop]
  omega

/-- What is not among the newest stands before them. -/
theorem exists_older (count : Nat) (history : List Event) :
    ∃ older, history = older ++ newest count history :=
  ⟨history.take (history.length - count), (List.take_append_drop _ _).symm⟩

theorem newest_of_length_le {count : Nat} {history : List Event} (all : history.length ≤ count) :
    newest count history = history := by
  rw [newest, Nat.sub_eq_zero_of_le all, List.drop_zero]

/-- What was forgotten before is not missed behind one more event. -/
theorem newest_append_singleton (count : Nat) (history : List Event) (event : Event) :
    newest count (newest count history ++ [event]) = newest count (history ++ [event]) := by
  obtain ⟨older, split⟩ := exists_older count history
  have size := length_newest count history
  have total := congrArg List.length split
  rw [List.length_append] at total
  by_cases none : older = []
  · rw [none, List.nil_append] at split
    rw [← split]
  · have some_older := List.length_pos_iff.mpr none
    -- With an older event the newest are as many as asked for, so both sides drop the first of them.
    have front : (history ++ [event]).length - count = older.length + 1 := by
      rw [List.length_append, List.length_singleton]
      omega
    have first : (newest count history ++ [event]).length - count = 1 := by
      rw [List.length_append, List.length_singleton]
      omega
    calc newest count (newest count history ++ [event])
        = (newest count history ++ [event]).drop 1 := by rw [newest, first]
      _ = (older ++ (newest count history ++ [event])).drop (older.length + 1) :=
          (List.drop_length_add_append 1).symm
      _ = newest count (history ++ [event]) := by
          rw [← List.append_assoc, ← split, ← front]
          rfl

variable {log : EventLog} {history : List Event}

/-- A log is never more than full, so its oldest event is dropped just when it is full. -/
theorem push_of_fits (fits : log.events.length ≤ log.capacity) (event : Event) :
    log.push event = if log.capacity = 0 then log else
      { log with events := (if log.events.length = log.capacity then log.events.tail
          else log.events) ++ [event] } := by
  have full : log.capacity ≤ log.events.length ↔ log.events.length = log.capacity := by omega
  simp only [push, full]

/-- To drop one event at the front of a full log is to keep the newest. -/
theorem push_events (fits : log.events.length ≤ log.capacity) (event : Event) :
    (log.push event).events = newest log.capacity (log.events ++ [event]) := by
  have length : (log.events ++ [event]).length = log.events.length + 1 := by simp
  rw [push_of_fits fits]
  by_cases none : log.capacity = 0
  · have empty : log.events = [] := List.length_eq_zero_iff.mp (by omega)
    simp [none, empty, newest]
  · rw [if_neg none]
    by_cases full : log.events.length = log.capacity
    · have one : log.events.length + 1 - log.capacity = 1 := by omega
      simp only [if_pos full]
      rw [newest, length, one, List.drop_append_of_le_length (by omega), List.drop_one]
    · simp only [if_neg full]
      rw [newest_of_length_le (by omega)]

/-- A log holds the newest events of a history, as many as it has room for. -/
def Keeps (log : EventLog) (history : List Event) : Prop :=
  log.events = newest log.capacity history

theorem keeps_nil (capacity : Nat) : Keeps { capacity } [] := List.drop_nil.symm

theorem Keeps.length_eq (h : log.Keeps history) :
    log.events.length = min log.capacity history.length := by
  rw [h, length_newest]

theorem Keeps.fits (h : log.Keeps history) : log.events.length ≤ log.capacity := by
  rw [h.length_eq]
  exact Nat.min_le_left _ _

theorem Keeps.push (h : log.Keeps history) (event : Event) :
    (log.push event).Keeps (history ++ [event]) := by
  rw [Keeps, push_events h.fits, push_capacity, h, newest_append_singleton]

/-- The log after an event was written to it, as information or as an error. -/
def record (log : EventLog) (event : Event) : EventLog :=
  match event.severity with
  | .information => log.inform event.message
  | .error => log.complain event.message

theorem record_eq (log : EventLog) (event : Event) : log.record event = log.push event := by
  obtain ⟨severity, message⟩ := event
  cases severity <;> rfl

/-- Any number of further events. -/
theorem Keeps.foldl_record (h : log.Keeps history) (more : List Event) :
    (more.foldl record log).Keeps (history ++ more) := by
  induction more generalizing log history with
  | nil => simpa using h
  | cons event more ih =>
      have next := h.push event
      rw [← record_eq] at next
      simpa using ih next

theorem foldl_record_capacity (log : EventLog) (events : List Event) :
    (events.foldl record log).capacity = log.capacity := by
  induction events generalizing log with
  | nil => rfl
  | cons event events ih => rw [List.foldl_cons, ih, record_eq, push_capacity]

/-- Whatever was written to a log that began empty, it holds the last events in the order in which
they were written, as many as its capacity allows, and nothing else. What is asked for as recent is
the end of these, and their number, the errors among them and whether there are any are those of
the same list. One more event drives out the oldest if the log is full, and no other. -/
theorem log_of_history (capacity : Nat) (history : List Event) :
    let log := history.foldl record { capacity }
    log.events = newest capacity history ∧
      (∃ forgotten, history = forgotten ++ log.events) ∧
      log.events.length = min capacity history.length ∧
      (∀ count, (∃ older, log.events = older ++ log.recent count) ∧
        (log.recent count).length = min count log.events.length) ∧
      (log.events.isEmpty = true ↔ capacity = 0 ∨ history = []) ∧
      log.errorCount = log.events.countP (·.severity = .error) ∧
      ∀ event, (log.record event).events = newest capacity (log.events ++ [event]) ∧
        (log.record event).events =
          if capacity = 0 then []
          else (if log.events.length = capacity then log.events.tail else log.events) ++
            [event] := by
  intro log
  have room : log.capacity = capacity := foldl_record_capacity _ history
  have keeps : log.Keeps history := (keeps_nil capacity).foldl_record history
  have fits := keeps.fits
  have length := keeps.length_eq
  have events : log.events = newest log.capacity history := keeps
  rw [room] at fits length events
  refine ⟨events, ?_, length, fun count => ?_, ?_, ?_, fun event => ⟨?_, ?_⟩⟩
  · rw [events]
    exact exists_older capacity history
  · exact ⟨exists_older count log.events, length_newest count log.events⟩
  · rw [List.isEmpty_iff, ← List.length_eq_zero_iff, ← List.length_eq_zero_iff, length]
    omega
  · rw [errorCount, List.countP_eq_length_filter]
  · rw [record_eq, push_events (room.symm ▸ fits), room]
  · rw [record_eq, push_of_fits (room.symm ▸ fits), room]
    by_cases none : capacity = 0
    · rw [if_pos none, if_pos none]
      exact List.length_eq_zero_iff.mp (by omega)
    · rw [if_neg none, if_neg none]

/-- A log of three that is written to four times. -/
example : (([⟨.information, "a"⟩, ⟨.error, "b"⟩, ⟨.information, "c"⟩, ⟨.information, "d"⟩] :
    List Event).foldl record { capacity := 3 }).events =
      [⟨.error, "b"⟩, ⟨.information, "c"⟩, ⟨.information, "d"⟩] := by decide

end GuessingGame.App.EventLog
