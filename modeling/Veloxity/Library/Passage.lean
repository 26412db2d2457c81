import Mathlib.Data.List.Basic
import Veloxity.Library.BoundedQueue

/-! Items passed on in order from place to place, some of which are lost on the way. -/

namespace Veloxity.Library

universe u

variable {α : Type u}

/-- The items that are left of those that entered, in the order they entered, and how many were
lost. -/
structure PassedOn (entered kept : List α) (lost : Nat) : Prop where
  ordered : kept.Sublist entered
  counted : entered.length = kept.length + lost

/-- A queue takes an item, at the cost of its oldest one if need be. -/
def DropsOldest (before : List α) (item : α) (after : List α) : Prop :=
  after = before ++ [item] ∨ ∃ oldest rest, before = oldest :: rest ∧ after = rest ++ [item]

namespace PassedOn

variable {entered kept : List α} {lost : Nat}

/-- Nothing has entered yet. -/
theorem nil : PassedOn ([] : List α) [] 0 := ⟨List.Sublist.refl _, rfl⟩

/-- New items enter behind those on their way. -/
theorem enter (passed : PassedOn entered kept lost) (items : List α) :
    PassedOn (entered ++ items) (kept ++ items) lost where
  -- What enters is kept, and goes behind everything else on both sides.
  ordered := passed.ordered.append_right items
  counted := by
    have counted := passed.counted
    simp only [List.length_append]
    omega

/-- An item lost anywhere on the way leaves the others in order. -/
theorem lose (before after : List α) (item : α)
    (passed : PassedOn entered (before ++ item :: after) lost) :
    PassedOn entered (before ++ after) (lost + 1) where
  -- An item taken out leaves the rest in order, and one more is counted as lost.
  ordered :=
    ((List.sublist_cons_self item after).append_left before).trans passed.ordered
  counted := by
    have counted := passed.counted
    simp only [List.length_append, List.length_cons] at counted ⊢
    omega

/-- An item that waits in front of a queue goes into it, and the oldest one of the queue is lost if
there is no room for both. -/
theorem queue (front : List α) {before after back : List α} {item : α}
    (taken : DropsOldest before item after)
    (passed : PassedOn entered (front ++ before ++ item :: back) lost) :
    PassedOn entered (front ++ after ++ back) (lost + (before.length + 1 - after.length)) := by
  rcases taken with rfl | ⟨oldest, rest, rfl, rfl⟩
  · -- Only the boundary between the queue and what waits has moved.
    have none : before.length + 1 - (before ++ [item]).length = 0 := by simp
    rw [none]
    simpa using passed
  · have one : (oldest :: rest).length + 1 - (rest ++ [item]).length = 1 := by
      simp only [List.length_cons, List.length_append, List.length_nil]
      omega
    rw [one]
    have fewer := PassedOn.lose front (rest ++ item :: back) oldest (by simpa using passed)
    simpa using fewer

/-- Where nothing was lost everything is left. -/
theorem eq_of_lossless (passed : PassedOn entered kept 0) : kept = entered := by
  -- A sublist of full length is the whole list.
  exact passed.ordered.eq_of_length passed.counted.symm

end PassedOn

namespace BoundedQueue

variable {capacity : Nat}

/-- A queue with something in it gives up its first item. -/
theorem pop_of_items {queue : BoundedQueue capacity α} {item : α} {rest : List α}
    (items : queue.items = item :: rest) :
    ∃ bounded, queue.pop = some (item, ⟨rest, bounded⟩) := by
  rcases queue with ⟨held, bounded⟩
  obtain rfl : held = item :: rest := items
  exact ⟨_, rfl⟩

/-- A push that finds no room changes nothing. -/
theorem push_of_full {queue : BoundedQueue capacity α} (full : capacity ≤ queue.items.length)
    (item : α) : queue.push item = (queue, false) := by
  rw [push, dif_neg (Nat.not_lt.mpr full)]

/-- A push that finds room is accepted. -/
theorem push_of_room (queue : BoundedQueue capacity α) (room : queue.items.length < capacity)
    (item : α) :
    (queue.push item).2 = true ∧ (queue.push item).1.items = queue.items ++ [item] := by
  rw [push, dif_pos room]
  exact ⟨rfl, rfl⟩

end BoundedQueue

/-- The items that entered a passage and the places they may be at: in front of the first queue,
in it, between the queues, in the second queue, and delivered. -/
structure Passage (α : Type u) where
  entered : List α
  waiting : List α
  first : List α
  between : List α
  second : List α
  delivered : List α
  lost : Nat

namespace Passage

/-- Nothing has entered. -/
def empty : Passage α := ⟨[], [], [], [], [], [], 0⟩

/-- The items that are neither delivered nor lost, the one that entered first in front. -/
def underWay (passage : Passage α) : List α :=
  passage.second ++ passage.between ++ passage.first ++ passage.waiting

/-- The items that are left, the one that entered first in front. -/
def held (passage : Passage α) : List α := passage.delivered ++ passage.underWay

/-- What can happen in a passage. -/
inductive Moves (passage : Passage α) : Passage α → Prop where
  /-- Nothing happens. -/
  | rest : Moves passage passage
  /-- Items enter when none waits. -/
  | enter (items : List α) (none_waits : passage.waiting = []) :
      Moves passage { passage with entered := passage.entered ++ items, waiting := items }
  /-- The first item that waits goes into the first queue. -/
  | queue {item : α} {waiting first : List α} (waits : passage.waiting = item :: waiting)
      (taken : DropsOldest passage.first item first) :
      Moves passage { passage with
        waiting, first, lost := passage.lost + (passage.first.length + 1 - first.length) }
  /-- The oldest item leaves the first queue. -/
  | send {item : α} {first : List α} (queued : passage.first = item :: first) :
      Moves passage { passage with first, between := passage.between ++ [item] }
  /-- The oldest item leaves the first queue and is lost. -/
  | unsent {item : α} {first : List α} (queued : passage.first = item :: first) :
      Moves passage { passage with first, lost := passage.lost + 1 }
  /-- The oldest item between the queues goes into the second queue. -/
  | arrive {item : α} {between second : List α} (sent : passage.between = item :: between)
      (taken : DropsOldest passage.second item second) :
      Moves passage { passage with
        between, second, lost := passage.lost + (passage.second.length + 1 - second.length) }
  /-- The oldest item between the queues is lost. -/
  | vanish {item : α} {between : List α} (sent : passage.between = item :: between) :
      Moves passage { passage with between, lost := passage.lost + 1 }
  /-- The oldest item of the second queue is delivered. -/
  | deliver {item : α} {second : List α} (arrived : passage.second = item :: second) :
      Moves passage { passage with second, delivered := passage.delivered ++ [item] }
  /-- The oldest item leaves the second queue and is lost. -/
  | refuse {item : α} {second : List α} (arrived : passage.second = item :: second) :
      Moves passage { passage with second, lost := passage.lost + 1 }

/-- The items of a passage are those that entered, in order, but for those that were lost. -/
def Orderly (passage : Passage α) : Prop :=
  PassedOn passage.entered passage.held passage.lost

/-- A passage starts orderly. -/
theorem orderly_empty : (empty : Passage α).Orderly := PassedOn.nil

/-- Whatever happens, items neither overtake one another nor appear from nowhere. -/
theorem Orderly.moves {passage next : Passage α} (orderly : passage.Orderly)
    (moved : passage.Moves next) : next.Orderly := by
  rcases passage with ⟨entered, waiting, first, between, second, delivered, lost⟩
  have passed : PassedOn entered (delivered ++ second ++ between ++ first ++ waiting) lost := by
    simpa only [Orderly, held, underWay, List.append_assoc] using orderly
  -- The places are written one behind the other, so that a move is a change of one list.
  have flat : ∀ {next : Passage α}, PassedOn next.entered
      (next.delivered ++ next.second ++ next.between ++ next.first ++ next.waiting) next.lost →
        next.Orderly := by
    intro next passed
    simpa only [Orderly, held, underWay, List.append_assoc] using passed
  -- Each move is an item that enters, is queued, is lost or crosses from one place to the next.
  cases moved with
  | rest => exact orderly
  | enter items none_waits =>
    apply flat
    obtain rfl : waiting = [] := none_waits
    show PassedOn _ (delivered ++ second ++ between ++ first ++ items) _
    simpa only [List.append_nil] using passed.enter items
  | queue waits taken =>
    apply flat
    obtain rfl : waiting = _ := waits
    exact PassedOn.queue _ taken passed
  | send queued =>
    apply flat
    obtain rfl : first = _ := queued
    show PassedOn _ (delivered ++ second ++ (between ++ [_]) ++ _ ++ waiting) _
    simpa using passed
  | unsent queued =>
    apply flat
    obtain rfl : first = _ := queued
    show PassedOn _ (delivered ++ second ++ between ++ _ ++ waiting) _
    simpa using (PassedOn.lose (delivered ++ second ++ between) _ _ (by simpa using passed))
  | arrive sent taken =>
    apply flat
    obtain rfl : between = _ := sent
    have moved := PassedOn.queue delivered taken (by simpa using passed)
    show PassedOn _ (delivered ++ _ ++ _ ++ first ++ waiting) _
    simpa using moved
  | vanish sent =>
    apply flat
    obtain rfl : between = _ := sent
    show PassedOn _ (delivered ++ second ++ _ ++ first ++ waiting) _
    simpa using (PassedOn.lose (delivered ++ second) _ _ (by simpa using passed))
  | deliver arrived =>
    apply flat
    obtain rfl : second = _ := arrived
    show PassedOn _ (delivered ++ [_] ++ _ ++ between ++ first ++ waiting) _
    simpa using passed
  | refuse arrived =>
    apply flat
    obtain rfl : second = _ := arrived
    show PassedOn _ (delivered ++ _ ++ between ++ first ++ waiting) _
    simpa using (PassedOn.lose delivered _ _ (by simpa using passed))

/-- What was delivered are items that entered, in their order. -/
theorem Orderly.delivered_sublist {passage : Passage α} (orderly : passage.Orderly) :
    passage.delivered.Sublist passage.entered := by
  have front : passage.delivered.Sublist passage.held := by
    rw [held]
    exact List.sublist_append_left _ _
  exact front.trans orderly.ordered

/-- Items that entered a passage satisfying a property keep it wherever they are. -/
theorem Orderly.forall_held {passage : Passage α} (orderly : passage.Orderly) {good : α → Prop}
    (all : ∀ item ∈ passage.entered, good item) : ∀ item ∈ passage.held, good item :=
  fun item member => all item (orderly.ordered.subset member)

end Passage

end Veloxity.Library
