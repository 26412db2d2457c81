import Veloxity.Core.Events
import Veloxity.Log.LogQueue

/-! Turning log entries into responses. -/

namespace Veloxity

variable {F : Type}

/-- The entries that one drain takes at most. -/
def MAX_LOGS_PER_DRAIN : Nat := 1

/-- The response's text is that of the entry, filled up with zeros. -/
def LogEntry.statustext (entry : LogEntry) : StatustextMsg :=
  let bytes := entry.message.asStr
  let len := min bytes.length 50
  let text : Library.ByteImage 50 := (Library.ByteImage.filled 0).copyFromSlice 0 (bytes.take len)
  { severity := entry.severity, text := text.data }

namespace LogQueue

/-- Take entries and queue their texts, until enough are queued, none waits, or there is no room. -/
def drainLoop : Nat → LogQueue → CommEventQueues F → LogQueue × CommEventQueues F × Nat
  | 0, logs, events => (logs, events, 0)
  | remaining + 1, logs, events =>
    match logs.pop with
    | (none, rest) => (rest, events, 0)
    | (some entry, rest) =>
      -- The entry is gone by the time that its response finds no room.
      let emitted := events.responses.push (.statustext entry.statustext)
      let events := { events with responses := emitted.1 }
      if emitted.2 then
        let drained := drainLoop remaining rest events
        (drained.1, drained.2.1, drained.2.2 + 1)
      else (rest, events, 0)

/-- Queue log texts for a connected companion, and count them. -/
def drainLogsToCommResponses (logs : LogQueue) (events : CommEventQueues F) (connected : Bool) :
    LogQueue × CommEventQueues F × Nat :=
  if !connected then (logs, events, 0) else drainLoop MAX_LOGS_PER_DRAIN logs events

/-- The text that a drain takes. -/
def drainedText (logs : LogQueue) (connected : Bool) : Option StatustextMsg :=
  if connected then logs.pop.1.map LogEntry.statustext else none

/-- A drain takes one text, if any waits, and queues it as far as there is room. -/
theorem drainLogsToCommResponses_eq (logs : LogQueue) (events : CommEventQueues F)
    (connected : Bool) :
    (logs.drainLogsToCommResponses events connected).1 =
        (if connected then logs.pop.2 else logs) ∧
      (logs.drainLogsToCommResponses events connected).2.1 =
        ((logs.drainedText connected).toList.map CommResponse.statustext).foldl
          CommEventQueues.respond events := by
  unfold drainLogsToCommResponses drainedText
  cases connected with
  | false => exact ⟨rfl, rfl⟩
  | true =>
    simp only [Bool.not_true, Bool.false_eq_true, ↓reduceIte, MAX_LOGS_PER_DRAIN, drainLoop]
    rcases logs.pop with ⟨_ | entry, rest⟩
    · exact ⟨rfl, rfl⟩
    · -- Whether or not there is room, no second entry is taken.
      dsimp only
      split
      · exact ⟨rfl, rfl⟩
      · exact ⟨rfl, rfl⟩

/-- The text that a drain takes is the first of those that wait. -/
theorem drainedText_append (logs : LogQueue) (events : CommEventQueues F) (connected : Bool) :
    (logs.drainedText connected).toList ++ (logs.drainLogsToCommResponses events
        connected).1.contents.map LogEntry.statustext =
      logs.contents.map LogEntry.statustext := by
  rw [(logs.drainLogsToCommResponses_eq events connected).1, drainedText]
  cases connected with
  | false => rfl
  | true =>
    obtain ⟨oldest, others⟩ := logs.pop_eq
    rw [if_pos rfl, if_pos rfl, oldest, others]
    -- The first entry and the others are all of them.
    cases logs.contents <;> rfl

/-- A connected drain takes a text when one waits. -/
theorem drainedText_ne_none_iff (logs : LogQueue) (connected : Bool) :
    logs.drainedText connected ≠ none ↔ connected = true ∧ logs.contents ≠ [] := by
  -- What a pop takes is the front of what waits.
  rw [drainedText, logs.pop_eq.1]
  cases connected with
  | false => simp
  | true => simp

end LogQueue

end Veloxity
