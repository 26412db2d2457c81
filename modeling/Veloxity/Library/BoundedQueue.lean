import Mathlib.Data.List.Basic

/-! First-in first-out queues of bounded capacity. -/

namespace Veloxity.Library

universe u v

/-- A queue that never holds more than its capacity. -/
structure BoundedQueue (capacity : Nat) (α : Type u) where
  items : List α
  bounded : items.length ≤ capacity

namespace BoundedQueue

variable {capacity : Nat} {α : Type u} {σ : Type v}

/-- A queue with nothing in it. -/
def empty : BoundedQueue capacity α := ⟨[], Nat.zero_le _⟩

/-- Append an item, reporting whether there was room for it. -/
def push (queue : BoundedQueue capacity α) (item : α) : BoundedQueue capacity α × Bool :=
  if room : queue.items.length < capacity then
    (⟨queue.items ++ [item], by simp only [List.length_append, List.length_singleton]; omega⟩, true)
  else (queue, false)

/-- Take the oldest item out. -/
def pop (queue : BoundedQueue capacity α) : Option (α × BoundedQueue capacity α) :=
  match queue with
  | ⟨[], _⟩ => none
  | ⟨item :: rest, bounded⟩ =>
    some (item, ⟨rest, by simp only [List.length_cons] at bounded; omega⟩)

/-- Nothing is waiting. -/
def isEmpty (queue : BoundedQueue capacity α) : Bool := queue.items.isEmpty

/-- There is no room left. -/
def isFull (queue : BoundedQueue capacity α) : Bool := queue.items.length = capacity

/-- Take every item out in order, acting on each. -/
def drain (act : σ → α → σ) (state : σ) (queue : BoundedQueue capacity α) :
    σ × BoundedQueue capacity α :=
  -- The action cannot reach the queue, so the items are those present at the start.
  (queue.items.foldl act state, empty)

@[simp] theorem items_empty : (empty : BoundedQueue capacity α).items = [] := rfl

/-- Items that arrive after a cut at the capacity are cut with the ones before them. -/
theorem take_take_append (items later : List α) :
    (items.take capacity ++ later).take capacity = (items ++ later).take capacity := by
  -- What the first cut leaves room for is what the items themselves leave room for.
  rw [List.take_append, List.take_append, List.take_take, List.length_take, Nat.min_self]
  congr 2
  omega

/-- A pushed item is appended, as far as the capacity reaches. -/
theorem items_push (queue : BoundedQueue capacity α) (item : α) :
    (queue.push item).1.items = (queue.items ++ [item]).take capacity := by
  unfold push
  -- A full queue already reaches to the capacity.
  split
  · rename_i room
    refine (List.take_of_length_le ?_).symm
    rw [List.length_append, List.length_singleton]
    omega
  · rename_i full
    have length : queue.items.length = capacity := Nat.le_antisymm queue.bounded (by omega)
    exact (List.take_left' length).symm

/-- Push items one after another, dropping those that find no room. -/
def pushAll (queue : BoundedQueue capacity α) (items : List α) : BoundedQueue capacity α :=
  items.foldl (fun queue item => (queue.push item).1) queue

/-- Pushed items are appended, as far as the capacity reaches. -/
theorem items_pushAll (queue : BoundedQueue capacity α) (items : List α) :
    (queue.pushAll items).items = (queue.items ++ items).take capacity := by
  -- The induction is on the items, with the queue moving along.
  induction items generalizing queue with
  | nil => rw [pushAll, List.foldl_nil, List.append_nil, List.take_of_length_le queue.bounded]
  | cons item rest ih =>
    have later := ih (queue.push item).1
    rw [items_push, take_take_append, List.append_assoc] at later
    exact later

/-- Items that all find room are appended whole. -/
theorem items_pushAll_of_room {queue : BoundedQueue capacity α} {items : List α}
    (room : queue.items.length + items.length ≤ capacity) :
    (queue.pushAll items).items = queue.items ++ items := by
  rw [items_pushAll]
  apply List.take_of_length_le
  rw [List.length_append]
  exact room

/-- Pushing two batches pushes their concatenation. -/
theorem pushAll_append (queue : BoundedQueue capacity α) (first second : List α) :
    queue.pushAll (first ++ second) = (queue.pushAll first).pushAll second := by
  -- Folding over a concatenation folds the second batch from the first result.
  exact List.foldl_append

/-- The item taken out was the first of the queue. -/
theorem items_of_pop {queue rest : BoundedQueue capacity α} {item : α}
    (taken : queue.pop = some (item, rest)) : queue.items = item :: rest.items := by
  rcases queue with ⟨_ | ⟨head, tail⟩, bounded⟩
  · cases taken
  · cases taken
    rfl

/-- What the action preserves survives the draining of a whole queue. -/
theorem drain_invariant {invariant : σ → Prop} {act : σ → α → σ}
    (preserved : ∀ state item, invariant state → invariant (act state item)) {state : σ}
    (initial : invariant state) (queue : BoundedQueue capacity α) :
    invariant (queue.drain act state).1 := by
  -- The induction is on the items, with the state moving along.
  rcases queue with ⟨items, bounded⟩
  simp only [drain]
  clear bounded
  induction items generalizing state with
  | nil => exact initial
  | cons item rest ih => exact ih (preserved state item initial)

end BoundedQueue

end Veloxity.Library
