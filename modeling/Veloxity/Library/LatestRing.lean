import Veloxity.Library.RingSlots

/-! Rings that hold the most recent items for a reader that takes only the newest. -/

namespace Veloxity.Library

universe u

/-- A ring of slots with the index of the oldest item, how many there are, and how many were
overwritten before they were read. -/
structure LatestRing (capacity : Nat) (α : Type u) where
  packets : Vector α capacity
  head : Nat
  len : Nat
  droppedOldest : UInt32
  headFits : head < capacity
  lenFits : len ≤ capacity

/-- The items that have come since the last read, and how many did not find room before. -/
structure Inbox (α : Type u) where
  waiting : List α
  overrun : Nat

namespace Inbox

variable {α : Type u}

/-- Nothing has come. -/
def empty : Inbox α := ⟨[], 0⟩

/-- An item comes, without room for it if as many wait as there are places. -/
def push (capacity : Nat) (inbox : Inbox α) (item : α) : Inbox α :=
  ⟨inbox.waiting ++ [item], inbox.overrun + if capacity ≤ inbox.waiting.length then 1 else 0⟩

/-- Read the newest item and forget the others. -/
def takeLatest (inbox : Inbox α) : Option α × Inbox α :=
  (inbox.waiting.getLast?, ⟨[], inbox.overrun⟩)

end Inbox

namespace LatestRing

variable {capacity : Nat} {α : Type u}

/-- A ring with nothing in it, whose slots are filled with some item. -/
def new (filler : α) (some : 0 < capacity) : LatestRing capacity α where
  packets := Vector.replicate capacity filler
  head := 0
  len := 0
  droppedOldest := 0
  headFits := some
  lenFits := Nat.zero_le _

/-- Make room for an item by dropping the oldest one of a full ring. -/
def makeRoom (ring : LatestRing capacity α) : LatestRing capacity α :=
  if ring.len = capacity then
    { ring with
      head := (ring.head + 1) % capacity
      len := ring.len - 1
      droppedOldest := ring.droppedOldest + 1
      headFits := Nat.mod_lt _ (Nat.zero_lt_of_lt ring.headFits)
      lenFits := Nat.le_trans (Nat.sub_le _ _) ring.lenFits }
  else ring

/-- There is room for another item. -/
theorem len_makeRoom (ring : LatestRing capacity α) : ring.makeRoom.len < capacity := by
  have headFits := ring.headFits
  have lenFits := ring.lenFits
  simp only [makeRoom]
  -- A full ring gives up its oldest item first.
  split
  · show ring.len - 1 < capacity
    omega
  · omega

/-- Store an item behind the others. -/
def push (ring : LatestRing capacity α) (item : α) : LatestRing capacity α :=
  let roomy := ring.makeRoom
  let tail := (roomy.head + roomy.len) % capacity
  { roomy with
    packets := roomy.packets.set tail item (Nat.mod_lt _ (Nat.zero_lt_of_lt ring.headFits))
    len := roomy.len + 1
    lenFits := ring.len_makeRoom }

/-- Read the newest item and forget the others; the next one goes to the first slot, or to the one
behind the item that was read. -/
def takeLatest (rewinds : Bool) (ring : LatestRing capacity α) :
    Option α × LatestRing capacity α :=
  if ring.len = 0 then (none, ring)
  else
    let latest := (ring.head + ring.len - 1) % capacity
    have positive : 0 < capacity := Nat.zero_lt_of_lt ring.headFits
    (some (ring.packets.get ⟨latest, Nat.mod_lt _ positive⟩), { ring with
      head := if rewinds then 0 else (latest + 1) % capacity
      len := 0
      headFits := by
        split
        · exact positive
        · exact Nat.mod_lt _ positive
      lenFits := Nat.zero_le _ })

/-- Something waits to be read. -/
def hasPending (ring : LatestRing capacity α) : Bool := ring.len ≠ 0

/-- The item in each slot. -/
def slots (ring : LatestRing capacity α) (index : Nat) : Option α := ring.packets[index]?

/-- The ring holds the most recent of the items that wait, and has counted the others. -/
structure Follows (ring : LatestRing capacity α) (inbox : Inbox α) : Prop where
  held : ringItems ring.slots capacity ring.head ring.len =
    (inbox.waiting.drop (inbox.waiting.length - capacity)).map some
  counted : ring.droppedOldest = UInt32.ofNat inbox.overrun

variable {ring : LatestRing capacity α} {inbox : Inbox α}

/-- A new ring holds nothing. -/
theorem new_follows (filler : α) (some : 0 < capacity) :
    (new filler some : LatestRing capacity α).Follows .empty where
  held := by simp [new, Inbox.empty, ringItems]
  counted := rfl

/-- As many items are held as wait, up to the capacity. -/
theorem Follows.len (follows : ring.Follows inbox) :
    ring.len = min inbox.waiting.length capacity := by
  have lengths := congrArg List.length follows.held
  rw [length_ringItems, List.length_map, List.length_drop] at lengths
  omega

/-- A push writes one slot. -/
theorem slots_push (item : α) :
    (ring.push item).slots = Function.update ring.slots
      ((ring.makeRoom.head + ring.makeRoom.len) % capacity) (some item) := by
  funext index
  have positive : 0 < capacity := Nat.zero_lt_of_lt ring.headFits
  have fits := Nat.mod_lt (ring.makeRoom.head + ring.makeRoom.len) positive
  have same : ring.makeRoom.packets = ring.packets := by
    simp only [makeRoom]
    split <;> rfl
  -- Every other slot is left as it was.
  by_cases here : index = (ring.makeRoom.head + ring.makeRoom.len) % capacity
  · subst here
    simp [slots, push, fits]
  · rw [Function.update_of_ne here]
    simp [slots, push, same, Ne.symm here]

/-- A ring keeps following an inbox when an item comes. -/
theorem Follows.push (follows : ring.Follows inbox) (item : α) :
    (ring.push item).Follows (inbox.push capacity item) := by
  have positive : 0 < capacity := Nat.zero_lt_of_lt ring.headFits
  have count := follows.len
  have held := follows.held
  have counted := follows.counted
  by_cases full : ring.len = capacity
  · -- The oldest item gives way, and its slot takes the new one.
    have roomy : ring.makeRoom.head = (ring.head + 1) % capacity ∧
        ring.makeRoom.len = capacity - 1 ∧
        ring.makeRoom.droppedOldest = ring.droppedOldest + 1 := by
      simp [makeRoom, full]
    obtain ⟨headAfter, lenAfter, droppedAfter⟩ := roomy
    have tail : (ring.makeRoom.head + ring.makeRoom.len) % capacity = ring.head % capacity := by
      rw [headAfter, lenAfter, Nat.mod_add_mod,
        show ring.head + 1 + (capacity - 1) = ring.head + capacity by omega, Nat.add_mod_right]
    have lenPushed : (ring.push item).len = capacity := by
      show ring.makeRoom.len + 1 = capacity
      omega
    refine ⟨?_, ?_⟩
    · rw [lenPushed, slots_push, tail,
        show (ring.push item).head = (ring.head + 1) % capacity from headAfter, ringItems_mod,
        ringItems_overwrite _ _ _ positive]
      rw [full] at held
      rw [held]
      have longer : (inbox.waiting ++ [item]).length - capacity =
          inbox.waiting.length - capacity + 1 := by
        rw [List.length_append, List.length_singleton]
        omega
      have within : inbox.waiting.length - capacity + 1 ≤ inbox.waiting.length := by omega
      simp only [Inbox.push, longer, List.drop_append_of_le_length within, List.map_append,
        List.map_cons, List.map_nil, ← List.map_tail, List.tail_drop]
    · show ring.makeRoom.droppedOldest = _
      have late : capacity ≤ inbox.waiting.length := by omega
      rw [droppedAfter, counted]
      simp [Inbox.push, late]
  · -- There is a slot behind the others.
    have same : ring.makeRoom = ring := by rw [makeRoom, if_neg full]
    have room : ring.len < capacity := Nat.lt_of_le_of_ne ring.lenFits full
    have headPushed : (ring.push item).head = ring.head := by
      show ring.makeRoom.head = ring.head
      rw [same]
    have lenPushed : (ring.push item).len = ring.len + 1 := by
      show ring.makeRoom.len + 1 = ring.len + 1
      rw [same]
    refine ⟨?_, ?_⟩
    · rw [headPushed, lenPushed, slots_push, same, ringItems_push _ _ _ room, held]
      have none : inbox.waiting.length - capacity = 0 := by omega
      have still : (inbox.waiting ++ [item]).length - capacity = 0 := by
        rw [List.length_append, List.length_singleton]
        omega
      simp only [Inbox.push, none, still, List.drop_zero, List.map_append, List.map_cons,
        List.map_nil]
    · show ring.makeRoom.droppedOldest = _
      have early : ¬ capacity ≤ inbox.waiting.length := by omega
      rw [same, counted]
      simp [Inbox.push, early]

/-- Something is pending exactly if something waits. -/
theorem Follows.hasPending (follows : ring.Follows inbox) :
    ring.hasPending = !inbox.waiting.isEmpty := by
  have positive : 0 < capacity := Nat.zero_lt_of_lt ring.headFits
  have count := follows.len
  -- The ring counts what waits, up to a capacity that is not zero.
  cases waits : inbox.waiting with
  | nil => simp_all [LatestRing.hasPending]
  | cons first rest =>
    rw [waits, List.length_cons] at count
    simp only [LatestRing.hasPending, List.isEmpty_cons, Bool.not_false, decide_eq_true_eq]
    omega

/-- A ring hands out what an inbox does, and keeps following it. -/
theorem Follows.takeLatest (follows : ring.Follows inbox) (rewinds : Bool) :
    (ring.takeLatest rewinds).1 = inbox.takeLatest.1 ∧
      (ring.takeLatest rewinds).2.Follows inbox.takeLatest.2 := by
  have positive : 0 < capacity := Nat.zero_lt_of_lt ring.headFits
  have count := follows.len
  have held := follows.held
  -- An empty ring hands out nothing.
  by_cases empty : ring.len = 0
  · have nothing : inbox.waiting = [] := List.eq_nil_of_length_eq_zero (by omega)
    rw [LatestRing.takeLatest, if_pos empty]
    refine ⟨by rw [Inbox.takeLatest, nothing]; rfl, ⟨?_, follows.counted⟩⟩
    simp [Inbox.takeLatest, empty, ringItems]
  · rw [LatestRing.takeLatest, if_neg empty]
    have cleared : (([] : List α).drop (([] : List α).length - capacity)).map some = [] := by simp
    refine ⟨?_, ⟨cleared.symm ▸ rfl, follows.counted⟩⟩
    -- The last of the items held is the last one that waits.
    obtain ⟨before, length⟩ := Nat.exists_eq_succ_of_ne_zero empty
    have last := congrArg List.getLast? held
    rw [length, ringItems, List.range_succ, List.map_append, List.map_singleton,
      List.getLast?_concat, List.getLast?_map, List.getLast?_drop, if_neg (by omega)] at last
    have index : ring.head + ring.len - 1 = ring.head + before := by omega
    have slot : ring.slots ((ring.head + before) % capacity) =
        some (ring.packets.get ⟨(ring.head + before) % capacity, Nat.mod_lt _ positive⟩) := by
      rw [slots, Vector.getElem?_eq_getElem (Nat.mod_lt _ positive)]
      rfl
    rw [slot] at last
    simp only [index, Inbox.takeLatest] at last ⊢
    cases newest : inbox.waiting.getLast? with
    | none =>
      rw [newest] at last
      cases last
    | some item =>
      rw [newest] at last
      exact congrArg some (Option.some.inj (Option.some.inj last))

/-- To its reader a ring looks like a cell with the newest item in it, if there is one. -/
def Shows (ring : LatestRing capacity α) (cell : Option α) : Prop :=
  ∃ inbox, ring.Follows inbox ∧ inbox.waiting.getLast? = cell

/-- A new ring looks like an empty cell. -/
theorem new_shows (filler : α) (some : 0 < capacity) :
    (new filler some : LatestRing capacity α).Shows none :=
  ⟨.empty, new_follows filler some, rfl⟩

variable {cell : Option α}

/-- An item that comes takes the cell over. -/
theorem Shows.push (shows : ring.Shows cell) (item : α) : (ring.push item).Shows (some item) := by
  obtain ⟨inbox, follows, -⟩ := shows
  exact ⟨_, follows.push item, List.getLast?_concat⟩

/-- A read empties the cell. -/
theorem Shows.takeLatest (shows : ring.Shows cell) (rewinds : Bool) :
    (ring.takeLatest rewinds).1 = cell ∧ (ring.takeLatest rewinds).2.Shows none := by
  obtain ⟨inbox, follows, rfl⟩ := shows
  obtain ⟨newest, onward⟩ := follows.takeLatest rewinds
  exact ⟨newest, _, onward, rfl⟩

/-- Something is pending exactly if the cell is not empty. -/
theorem Shows.hasPending (shows : ring.Shows cell) : ring.hasPending = cell.isSome := by
  obtain ⟨inbox, follows, rfl⟩ := shows
  rw [follows.hasPending, Bool.eq_iff_iff]
  simp

end LatestRing

end Veloxity.Library
