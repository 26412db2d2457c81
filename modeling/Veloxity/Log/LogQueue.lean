import Veloxity.Comm.Messages
import Veloxity.Library.RecentQueue
import Veloxity.Library.RingSlots
import Veloxity.Library.Transducer
import Veloxity.Log.LogString

/-! The ring of waiting log entries, as a queue of the most recent ones. -/

namespace Veloxity

open Library

/-- The entries that can wait. -/
def LOG_QUEUE_SIZE : Nat := 16

/-- A text and how severe it is. -/
structure LogEntry where
  severity : Severity
  message : LogString
  deriving DecidableEq

/-- An entry with an empty text. -/
def LogEntry.empty : LogEntry := ⟨.info, .new⟩

/-- A ring of entries with the index to write next, the index to read next, and whether equal
indices mean that it is full. -/
structure LogQueue where
  storage : Vector LogEntry LOG_QUEUE_SIZE
  head : Nat
  tail : Nat
  full : Bool
  headFits : head < LOG_QUEUE_SIZE
  tailFits : tail < LOG_QUEUE_SIZE
  fullMeets : full = true → head = tail

namespace LogQueue

/-- A queue in which nothing waits. -/
def new : LogQueue where
  storage := Vector.replicate LOG_QUEUE_SIZE .empty
  head := 0
  tail := 0
  full := false
  headFits := by decide
  tailFits := by decide
  fullMeets := by simp

/-- Write an entry, over the oldest one if the queue is full. -/
def push (queue : LogQueue) (entry : LogEntry) : LogQueue :=
  let head := (queue.head + 1) % LOG_QUEUE_SIZE
  let tail := if queue.full then (queue.tail + 1) % LOG_QUEUE_SIZE else queue.tail
  { storage := queue.storage.set queue.head entry queue.headFits
    head, tail
    full := head = tail
    headFits := Nat.mod_lt _ (by decide)
    tailFits := by
      dsimp only [tail]
      split
      · exact Nat.mod_lt _ (by decide)
      · exact queue.tailFits
    fullMeets := of_decide_eq_true }

/-- Read the oldest entry and free its place. -/
def pop (queue : LogQueue) : Option LogEntry × LogQueue :=
  if queue.full = false ∧ queue.head = queue.tail then (none, queue)
  else
    (some (queue.storage.get ⟨queue.tail, queue.tailFits⟩),
      { queue with
        tail := (queue.tail + 1) % LOG_QUEUE_SIZE
        full := false
        tailFits := Nat.mod_lt _ (by decide)
        fullMeets := by simp })

/-- A call, with what a pop returns. -/
def step (queue : LogQueue) : QueueCall LogEntry → LogQueue × Option (Option LogEntry)
  | .push entry => (queue.push entry, none)
  | .pop => (queue.pop.2, some queue.pop.1)

/-- How many entries wait. -/
def len (queue : LogQueue) : Nat :=
  if queue.full then LOG_QUEUE_SIZE
  else (queue.head + LOG_QUEUE_SIZE - queue.tail) % LOG_QUEUE_SIZE

/-- The entry in each slot. -/
def slots (queue : LogQueue) (index : Nat) : LogEntry := queue.storage[index]?.getD .empty

/-- The entries that wait, the oldest first. -/
def contents (queue : LogQueue) : List LogEntry :=
  ringItems queue.slots LOG_QUEUE_SIZE queue.tail queue.len

/-- Entries are written to the slot behind those that wait. -/
theorem head_eq (queue : LogQueue) : queue.head = (queue.tail + queue.len) % LOG_QUEUE_SIZE := by
  have headFits := queue.headFits
  have tailFits := queue.tailFits
  have meets := queue.fullMeets
  simp only [LOG_QUEUE_SIZE] at headFits tailFits
  simp only [len, LOG_QUEUE_SIZE]
  -- A full ring is one turn ahead, which the remainder does not see.
  split
  · rename_i full
    have same := meets full
    omega
  · omega

/-- A push writes one slot. -/
theorem slots_push (queue : LogQueue) (entry : LogEntry) :
    (queue.push entry).slots = Function.update queue.slots queue.head entry := by
  funext index
  have fits := queue.headFits
  -- Every other slot is left as it was.
  by_cases same : index = queue.head
  · subst same
    simp [slots, push, fits]
  · rw [Function.update_of_ne same]
    simp [slots, push, Ne.symm same]

/-- A push into a queue with room makes it one longer. -/
theorem len_push_of_room {queue : LogQueue} (room : queue.full = false) (entry : LogEntry) :
    queue.len < LOG_QUEUE_SIZE ∧ (queue.push entry).len = queue.len + 1 := by
  have headFits := queue.headFits
  have tailFits := queue.tailFits
  simp only [LOG_QUEUE_SIZE] at headFits tailFits
  simp only [len, push, room, LOG_QUEUE_SIZE, Bool.false_eq_true, ↓reduceIte, decide_eq_true_eq]
  refine ⟨by omega, ?_⟩
  -- It becomes full when the index to write next comes to the one to read next.
  split <;> omega

/-- A push into a full queue leaves it full. -/
theorem len_push_of_full {queue : LogQueue} (full : queue.full = true) (entry : LogEntry) :
    (queue.push entry).len = LOG_QUEUE_SIZE := by
  have same := queue.fullMeets full
  simp [len, push, full, same]

/-- A pushed entry goes behind the others, in place of the oldest if the queue is full. -/
theorem contents_push (queue : LogQueue) (entry : LogEntry) :
    (queue.push entry).contents = if queue.full then queue.contents.tail ++ [entry]
      else queue.contents ++ [entry] := by
  have place := queue.head_eq
  -- Without room the slot behind the last entry is that of the oldest one.
  cases full : queue.full with
  | false =>
    obtain ⟨room, grown⟩ := len_push_of_room full entry
    have tail : (queue.push entry).tail = queue.tail := by simp [push, full]
    rw [if_neg Bool.false_ne_true, contents, slots_push, grown, tail, place,
      ringItems_push _ _ _ room, contents]
  | true =>
    have length : queue.len = LOG_QUEUE_SIZE := by simp [len, full]
    have tail : (queue.push entry).tail = (queue.tail + 1) % LOG_QUEUE_SIZE := by simp [push, full]
    rw [length, Nat.add_mod_right] at place
    rw [if_pos rfl, contents, slots_push, len_push_of_full full, tail, place, ringItems_mod,
      ringItems_overwrite _ _ _ (by decide), contents, length]

/-- A queue with nothing to read holds nothing. -/
theorem len_eq_zero_iff (queue : LogQueue) :
    queue.len = 0 ↔ queue.full = false ∧ queue.head = queue.tail := by
  have headFits := queue.headFits
  have tailFits := queue.tailFits
  simp only [LOG_QUEUE_SIZE] at headFits tailFits
  simp only [len, LOG_QUEUE_SIZE]
  -- Equal indices mean an empty ring unless it is full.
  cases queue.full with
  | true => simp
  | false =>
    simp only [Bool.false_eq_true, ↓reduceIte, true_and]
    omega

/-- A pop from a queue that holds something frees one place. -/
theorem len_pop {queue : LogQueue} {rest : Nat} (count : queue.len = rest + 1) :
    queue.pop.2.len = rest := by
  have headFits := queue.headFits
  have tailFits := queue.tailFits
  have meets := queue.fullMeets
  have waiting : ¬ (queue.full = false ∧ queue.head = queue.tail) := by
    rw [← len_eq_zero_iff, count]
    omega
  rw [pop, if_neg waiting]
  simp only [LOG_QUEUE_SIZE] at headFits tailFits
  simp only [len, LOG_QUEUE_SIZE, Bool.false_eq_true, ↓reduceIte] at count ⊢
  -- A full queue has its two ends at one place, and any other one has them apart.
  cases full : queue.full with
  | true =>
    have same := meets full
    rw [full, if_pos rfl] at count
    omega
  | false =>
    rw [full, if_neg Bool.false_ne_true] at count
    omega

/-- The oldest entry is taken from the front. -/
theorem pop_eq (queue : LogQueue) :
    queue.pop.1 = queue.contents.head? ∧ queue.pop.2.contents = queue.contents.tail := by
  -- The items are read from the tail on, so that the first one is the slot that is popped.
  cases count : queue.len with
  | zero =>
    have nothing := queue.len_eq_zero_iff.mp count
    rw [pop, if_pos nothing, contents, count]
    exact ⟨rfl, rfl⟩
  | succ rest =>
    have left := len_pop count
    have waiting : ¬ (queue.full = false ∧ queue.head = queue.tail) := by
      rw [← len_eq_zero_iff, count]
      omega
    have first : queue.slots (queue.tail % LOG_QUEUE_SIZE) =
        queue.storage.get ⟨queue.tail, queue.tailFits⟩ := by
      rw [Nat.mod_eq_of_lt queue.tailFits, slots]
      simp [queue.tailFits, Vector.get]
    refine ⟨?_, ?_⟩
    · rw [pop, if_neg waiting, contents, count, ringItems_succ, first]
      rfl
    · rw [contents, left, contents, count, ringItems_succ, List.tail_cons, pop, if_neg waiting]
      exact ringItems_mod _ _ _

/-- A ring holds what a queue of the most recent entries holds. -/
def Holds (queue : LogQueue) (recent : RecentQueue LOG_QUEUE_SIZE LogEntry) : Prop :=
  queue.contents = recent.items

/-- The ring and the queue of the most recent entries take every call alike. -/
theorem Holds.step {queue : LogQueue} {recent : RecentQueue LOG_QUEUE_SIZE LogEntry}
    (holds : queue.Holds recent) (call : QueueCall LogEntry) :
    (queue.step call).1.Holds (recent.step call).1 ∧
      (queue.step call).2 = (recent.step call).2 := by
  have length : recent.items.length = queue.len := by rw [← holds, contents, length_ringItems]
  -- A ring that is full and a queue at its capacity both give up the oldest entry.
  cases call with
  | push entry =>
    refine ⟨?_, rfl⟩
    show (queue.push entry).contents = (recent.push entry).items
    rw [contents_push]
    cases full : queue.full with
    | true =>
      have size : recent.items.length = LOG_QUEUE_SIZE := by simp [length, len, full]
      rw [if_pos rfl, recent.items_push_of_full size (by decide), holds]
    | false =>
      have room := (len_push_of_room full entry).1
      rw [if_neg Bool.false_ne_true, recent.items_push_of_room (by omega), holds]
  | pop =>
    obtain ⟨oldest, others⟩ := queue.pop_eq
    refine ⟨?_, ?_⟩
    · show queue.pop.2.contents = recent.items.tail
      rw [others, holds]
    · show some queue.pop.1 = some recent.items.head?
      rw [oldest, holds]

/-- Over all pushes and pops the ring holds the most recent entries, as many as it has places for,
and each pop returns the oldest of them. -/
theorem refines_recentQueue (calls : List (QueueCall LogEntry)) :
    let ring := transduce step new calls
    let recent := transduce RecentQueue.step (.empty : RecentQueue LOG_QUEUE_SIZE LogEntry) calls
    ring.1.contents = recent.1.items ∧ ring.2 = recent.2 := by
  -- Both start with nothing.
  have start : Holds new .empty := rfl
  have simulates (queue : LogQueue) (recent : RecentQueue LOG_QUEUE_SIZE LogEntry)
      (call : QueueCall LogEntry) (holds : queue.Holds recent) := holds.step call
  exact transduce_follows simulates start calls

end LogQueue

end Veloxity
