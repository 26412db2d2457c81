import Mathlib.Data.List.Basic

/-! First-in first-out queues that give up their oldest item for a new one. -/

namespace Veloxity.Library

universe u

/-- A call of a queue. -/
inductive QueueCall (α : Type u) where
  | push (item : α)
  | pop

/-- The most recent items, never more than the capacity. -/
structure RecentQueue (capacity : Nat) (α : Type u) where
  items : List α
  bounded : items.length ≤ capacity

namespace RecentQueue

variable {capacity : Nat} {α : Type u}

/-- A queue with nothing in it. -/
def empty : RecentQueue capacity α := ⟨[], Nat.zero_le _⟩

/-- Append an item and drop from the front what is beyond the capacity. -/
def push (queue : RecentQueue capacity α) (item : α) : RecentQueue capacity α :=
  ⟨(queue.items ++ [item]).drop (queue.items.length + 1 - capacity), by
    rw [List.length_drop, List.length_append, List.length_singleton]
    omega⟩

/-- Take the oldest item out, if there is one. -/
def pop (queue : RecentQueue capacity α) : Option α × RecentQueue capacity α :=
  (queue.items.head?, ⟨queue.items.tail, by
    have bounded := queue.bounded
    rw [List.length_tail]
    omega⟩)

/-- A call, with what a pop returns. -/
def step (queue : RecentQueue capacity α) : QueueCall α → RecentQueue capacity α × Option (Option α)
  | .push item => (queue.push item, none)
  | .pop => (queue.pop.2, some queue.pop.1)

/-- An item that finds room goes behind the others. -/
theorem items_push_of_room {queue : RecentQueue capacity α} (room : queue.items.length < capacity)
    (item : α) : (queue.push item).items = queue.items ++ [item] := by
  have none : queue.items.length + 1 - capacity = 0 := by omega
  simp only [push, none, List.drop_zero]

/-- An item that finds none takes the place of the oldest. -/
theorem items_push_of_full {queue : RecentQueue capacity α}
    (full : queue.items.length = capacity) (some : 0 < capacity) (item : α) :
    (queue.push item).items = queue.items.tail ++ [item] := by
  have one : queue.items.length + 1 - capacity = 1 := by omega
  simp only [push, one, List.drop_one]
  exact List.tail_append_of_ne_nil (List.ne_nil_of_length_pos (by omega))

end RecentQueue

end Veloxity.Library
