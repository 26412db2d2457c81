import Veloxity.Boards.Mailbox

/-! When the frame queues of a mailbox deliver the frames of one priority in order of arrival. -/

namespace Veloxity

open Library

universe v

/-- The priority of a frame as a number. -/
def FrameSlot.level (slot : FrameSlot) : Nat := slot.priority.toNat

namespace FrameQueue

variable {maxBytes capacity : Nat} {β : Type v} [LinearOrder β]

/-- A scan of the first slots settles on the first of the best among them. -/
theorem scan_range' {better : UInt8 → UInt8 → Bool} {key : UInt8 → β}
    (compares : ∀ candidate best, better candidate best = true ↔ key best < key candidate)
    (slots : List FrameSlot) (count : Nat) :
    let best := (List.range' 1 count).foldl (fun best index =>
      if better (priorityAt slots index) (priorityAt slots best) then index else best) 0
    best ≤ count ∧ (∀ index < best, key (priorityAt slots index) < key (priorityAt slots best)) ∧
      ∀ index ≤ count, key (priorityAt slots index) ≤ key (priorityAt slots best) := by
  -- The induction is on the number of slots scanned after the first.
  induction count with
  | zero =>
    refine ⟨Nat.le_refl _, ?_, ?_⟩
    · intro index below
      exact absurd below (Nat.not_lt_zero _)
    · intro index within
      rw [Nat.le_zero.mp within]
      exact le_refl _
  | succ count ih =>
    obtain ⟨bounded, first, highest⟩ := ih
    rw [List.range'_concat, List.foldl_append, Nat.one_mul, Nat.add_comm 1 count]
    simp only [List.foldl_cons, List.foldl_nil]
    split
    · -- A better slot is above every slot before it.
      rename_i improves
      have higher := (compares _ _).mp improves
      refine ⟨Nat.le_refl _, ?_, ?_⟩
      · intro index below
        exact (highest index (by omega)).trans_lt higher
      · intro index within
        rcases Nat.lt_or_eq_of_le within with below | rfl
        · exact ((highest index (by omega)).trans_lt higher).le
        · exact le_refl _
    · -- Any other slot leaves the best one so far in place.
      rename_i fails
      have lower := not_lt.mp (mt (compares _ _).mpr fails)
      refine ⟨by omega, first, ?_⟩
      intro index within
      rcases Nat.lt_or_eq_of_le within with below | rfl
      · exact highest index (by omega)
      · exact lower

/-- The priority at an occupied slot is its frame's. -/
theorem priorityAt_eq {slots : List FrameSlot} {slot : Nat} (occupied : slot < slots.length) :
    priorityAt slots slot = slots[slot].priority := by
  rw [priorityAt, List.getD_eq_getElem _ _ occupied]

/-- A scan of all slots settles on the first of the best frames. -/
theorem scanSlots_spec {better : UInt8 → UInt8 → Bool} {key : UInt8 → β}
    (compares : ∀ candidate best, better candidate best = true ↔ key best < key candidate)
    {slots : List FrameSlot} (occupied : slots ≠ []) :
    ∃ before best after, slots = before ++ best :: after ∧
      scanSlots better slots = before.length ∧
      FirstBest (fun slot => key slot.priority) before best after := by
  have positive := List.length_pos_of_ne_nil occupied
  obtain ⟨bounded, first, highest⟩ := scan_range' compares slots (slots.length - 1)
  rw [← scanSlots] at bounded first highest
  have within : scanSlots better slots < slots.length := by omega
  -- The slot settled on splits the list: it beats all before it and ties at most with the rest.
  refine ⟨slots.take (scanSlots better slots), slots[scanSlots better slots],
    slots.drop (scanSlots better slots + 1), ?_, ?_, ?_, ?_⟩
  · rw [← List.drop_eq_getElem_cons within, List.take_append_drop]
  · rw [List.length_take, Nat.min_eq_left within.le]
  · intro other member
    obtain ⟨index, inside, rfl⟩ := List.getElem_of_mem member
    rw [List.length_take] at inside
    rw [List.getElem_take, ← priorityAt_eq, ← priorityAt_eq]
    exact first index (by omega)
  · intro other member
    obtain ⟨index, inside, rfl⟩ := List.getElem_of_mem member
    rw [List.length_drop] at inside
    rw [List.getElem_drop, ← priorityAt_eq, ← priorityAt_eq]
    exact highest _ (by omega)

/-- The highest slot holds the first of the frames of the highest priority. -/
theorem highestPrioritySlot_spec {slots : List FrameSlot} (occupied : slots ≠ []) :
    ∃ before best after, slots = before ++ best :: after ∧
      highestPrioritySlot slots = before.length ∧ FirstBest FrameSlot.level before best after := by
  -- Priorities are compared as they are.
  apply scanSlots_spec ?_ occupied
  intro candidate best
  rw [decide_eq_true_eq]
  exact UInt8.lt_iff_toNat_lt

/-- The lowest slot holds the first of the frames of the lowest priority. -/
theorem lowestPrioritySlot_spec {slots : List FrameSlot} (occupied : slots ≠ []) :
    ∃ before lowest after, slots = before ++ lowest :: after ∧
      lowestPrioritySlot slots = before.length ∧
      FirstBest (fun slot => OrderDual.toDual slot.level) before lowest after := by
  -- Looking for the lowest is looking for the highest in the reversed order.
  have compares (candidate best : UInt8) : decide (candidate < best) = true ↔
      OrderDual.toDual best.toNat < OrderDual.toDual candidate.toNat := by
    rw [decide_eq_true_eq, OrderDual.toDual_lt_toDual]
    exact UInt8.lt_iff_toNat_lt
  exact scanSlots_spec compares occupied

/-- The last frame leaves no hole behind. -/
theorem withoutSlot_last (before : List FrameSlot) (removed : FrameSlot) :
    withoutSlot (before ++ [removed]) before.length = before := by
  simp [withoutSlot]

/-- The hole of any other frame is filled with the last frame. -/
theorem withoutSlot_inner (before between : List FrameSlot) (removed last : FrameSlot) :
    withoutSlot (before ++ removed :: (between ++ [last])) before.length =
      before ++ last :: between := by
  have inner : before.length ≠ (before ++ removed :: (between ++ [last])).length - 1 := by
    simp only [List.length_append, List.length_cons, List.length_nil]
    omega
  have moved : (before ++ removed :: (between ++ [last])).getD
      ((before ++ removed :: (between ++ [last])).length - 1) default = last := by
    simp [List.getD_eq_getElem?_getD]
  -- The last frame takes the place of the removed one, and its own place is dropped.
  simp only [withoutSlot, if_pos inner, moved, List.set_append_right _ _ (Nat.le_refl _),
    Nat.sub_self, List.set_cons_zero]
  rw [← List.cons_append, ← List.append_assoc, List.dropLast_concat]

/-- Filling the hole moves the last frame past none of its own priority. -/
def RemovalKeepsOrder (slots : List FrameSlot) (slot : Nat) : Prop :=
  ∀ index < slots.length - 1, slot < index →
    priorityAt slots index ≠ priorityAt slots (slots.length - 1)

/-- Overwriting a slot puts the new frame before none of its own priority. -/
def ReplacementKeepsOrder (slots : List FrameSlot) (slot : Nat) (priority : UInt8) : Prop :=
  ∀ index < slots.length, slot < index → priorityAt slots index ≠ priority

/-- The priority of a slot past the ones before it. -/
theorem priorityAt_append_cons (before after : List FrameSlot) (slot : FrameSlot) :
    priorityAt (before ++ slot :: after) before.length = slot.priority := by
  simp [priorityAt, List.getD_eq_getElem?_getD]

/-- A member after a slot sits at a later index. -/
theorem exists_index_of_mem (before : List FrameSlot) (slot : FrameSlot) {after : List FrameSlot}
    {other : FrameSlot} (member : other ∈ after) :
    ∃ index, before.length < index ∧ index < (before ++ slot :: after).length ∧
      priorityAt (before ++ slot :: after) index = other.priority := by
  -- The member splits what follows the slot.
  obtain ⟨ahead, behind, rfl⟩ := List.append_of_mem member
  refine ⟨(before ++ slot :: ahead).length, ?_, ?_, ?_⟩
  · simp only [List.length_append, List.length_cons]
    omega
  · simp only [List.length_append, List.length_cons]
    omega
  · rw [← List.cons_append, ← List.append_assoc]
    exact priorityAt_append_cons _ _ _

/-- Frames of different priorities have different levels. -/
theorem level_ne {slot other : FrameSlot} (distinct : slot.priority ≠ other.priority) :
    slot.level ≠ other.level := by
  intro same
  exact distinct (UInt8.toNat_inj.mp same)

/-- Removing the highest frame keeps the others in order of arrival under the condition of the
removal. -/
theorem sameOrder_withoutSlot {slots before after arrivals : List FrameSlot} {best : FrameSlot}
    (split : slots = before ++ best :: after)
    (keeps : RemovalKeepsOrder slots before.length)
    (same : SameOrder FrameSlot.level (before ++ after) arrivals) :
    SameOrder FrameSlot.level (withoutSlot slots before.length) arrivals := by
  subst split
  rcases List.eq_nil_or_concat after with rfl | ⟨between, last, rfl⟩
  · rw [withoutSlot_last]
    rw [List.append_nil] at same
    exact same
  · rw [List.concat_eq_append] at *
    rw [withoutSlot_inner]
    intro level
    rw [← same level]
    apply sameOrder_move_last
    intro other member
    apply level_ne
    obtain ⟨index, later, within, priority⟩ := exists_index_of_mem before best member
    -- The indices of the frames in between are those before the last one.
    have lastAt : priorityAt (before ++ best :: (between ++ [last]))
        ((before ++ best :: (between ++ [last])).length - 1) = last.priority := by
      simp [priorityAt, List.getD_eq_getElem?_getD]
    have sameAt : priorityAt (before ++ best :: (between ++ [last])) index = other.priority := by
      rw [← priority, priorityAt, priorityAt, ← List.cons_append, ← List.append_assoc,
        List.getD_append _ _ _ _ within]
    have apart := keeps index (by
      simp only [List.length_append, List.length_cons, List.length_nil] at within ⊢
      omega) later
    rw [sameAt, lastAt] at apart
    exact apart

/-- Overwriting the lowest frame acts like its removal and an arrival under the replacement's
condition. -/
theorem sameOrder_replace {slots before after arrivals : List FrameSlot} {lowest added : FrameSlot}
    (split : slots = before ++ lowest :: after)
    (keeps : ReplacementKeepsOrder slots before.length added.priority)
    (same : SameOrder FrameSlot.level (before ++ after) arrivals) :
    SameOrder FrameSlot.level (slots.set before.length added) (arrivals ++ [added]) := by
  subst split
  have set : (before ++ lowest :: after).set before.length added = before ++ added :: after := by
    simp
  rw [set]
  intro level
  rw [← same.append added level, List.append_assoc]
  -- Frames behind the slot differ in priority from the new one, so moving it past them is harmless.
  apply sameOrder_move_last
  intro other member
  apply level_ne
  obtain ⟨index, later, within, priority⟩ := exists_index_of_mem before lowest member
  rw [← priority]
  exact keeps index within later

/-- A push in which a replacement, if there is one, keeps the order. -/
def PushKeepsOrder (queue : FrameQueue maxBytes capacity) (slot : Nat) (bytes : List UInt8)
    (priority : UInt8) : Prop :=
  bytes.length ≤ maxBytes → capacity ≤ queue.slots.length →
    priorityAt queue.slots slot < priority → ReplacementKeepsOrder queue.slots slot priority

/-- The abstract push: a frame that is not too long arrives at a stable queue. -/
def offer (maxBytes capacity : Nat) (arrivals : List FrameSlot) (bytes : List UInt8)
    (priority : UInt8) : Bool × List FrameSlot :=
  if maxBytes < bytes.length then (false, arrivals)
  else pushStable FrameSlot.level capacity arrivals ⟨bytes, priority⟩

/-- A push into the slots answers and orders like the arrival at a stable queue. -/
theorem pushFrame_sameOrder {queue : FrameQueue maxBytes capacity} {arrivals : List FrameSlot}
    (positive : 0 < capacity) (same : SameOrder FrameSlot.level queue.slots arrivals)
    {lowest : Option Nat}
    (chosen : queue.slots ≠ [] → lowest = some (lowestPrioritySlot queue.slots))
    {bytes : List UInt8} {priority : UInt8}
    (keeps : queue.PushKeepsOrder (lowestPrioritySlot queue.slots) bytes priority) :
    (queue.pushFrame lowest bytes priority).1 =
        (offer maxBytes capacity arrivals bytes priority).1 ∧
      SameOrder FrameSlot.level (queue.pushFrame lowest bytes priority).2.slots
        (offer maxBytes capacity arrivals bytes priority).2 := by
  unfold pushFrame offer
  -- A frame that is too long, or finds room, is treated alike on both sides.
  by_cases long : maxBytes < bytes.length
  · rw [dif_pos long, if_pos long]
    exact ⟨rfl, same⟩
  rw [dif_neg long, if_neg long, pushStable, ← same.perm.length_eq]
  by_cases room : queue.slots.length < capacity
  · rw [dif_pos room, if_pos room]
    exact ⟨rfl, same.append _⟩
  have occupied : queue.slots ≠ [] := by
    intro empty
    rw [empty, List.length_nil] at room
    exact room positive
  -- The slot the scan finds holds the frame that the stable queue gives up.
  obtain ⟨before, victim, after, split, at_slot, first⟩ := lowestPrioritySlot_spec occupied
  have dual := same.dual
  rw [split] at dual
  obtain ⟨ahead, behind, arrived, found, others⟩ := dual.firstBest first
  have plain : SameOrder FrameSlot.level (before ++ after) (ahead ++ behind) :=
    fun level => others (OrderDual.toDual level)
  have stored : priorityAt queue.slots before.length = victim.priority := by
    rw [split]
    exact priorityAt_append_cons before after victim
  rw [dif_neg room, if_neg room, chosen occupied, at_slot, arrived,
    takeFirstBest_of_firstBest found]
  simp only [stored]
  -- A full queue takes the frame only if it is of a higher priority than the victim.
  by_cases higher : victim.priority < priority
  · have levels : victim.level < FrameSlot.level ⟨bytes, priority⟩ :=
      UInt8.lt_iff_toNat_lt.mp higher
    rw [if_neg (UInt8.not_le.mpr higher), if_pos levels]
    refine ⟨rfl, ?_⟩
    apply sameOrder_replace split ?_ plain
    rw [at_slot] at keeps
    exact keeps (Nat.le_of_not_lt long) (Nat.le_of_not_lt room) (by rw [stored]; exact higher)
  · have levels : ¬ victim.level < FrameSlot.level ⟨bytes, priority⟩ :=
      mt UInt8.lt_iff_toNat_lt.mpr higher
    rw [if_pos (UInt8.not_lt.mp higher), if_neg levels]
    rw [arrived] at same
    exact ⟨rfl, same⟩

/-- The frame in the highest slot is the next one of a stable queue, which the removal of the slot
leaves in the same order. -/
theorem highestPrioritySlot_sameOrder {queue : FrameQueue maxBytes capacity}
    {arrivals : List FrameSlot} (occupied : queue.slots ≠ [])
    (same : SameOrder FrameSlot.level queue.slots arrivals) :
    ∃ rest, takeFirstBest FrameSlot.level arrivals =
        some (queue.slots.getD (highestPrioritySlot queue.slots) default, rest) ∧
      (RemovalKeepsOrder queue.slots (highestPrioritySlot queue.slots) →
        SameOrder FrameSlot.level
          (queue.removeSlot (highestPrioritySlot queue.slots)).slots rest) := by
  obtain ⟨before, best, after, split, at_slot, first⟩ := highestPrioritySlot_spec occupied
  -- The first best of the slots is the first best of the arrivals.
  rw [split] at same
  obtain ⟨ahead, behind, arrived, found, others⟩ := same.firstBest first
  have stored : queue.slots.getD before.length default = best := by
    rw [split, List.getD_append_right _ _ _ _ (Nat.le_refl _)]
    simp
  rw [at_slot, stored, arrived, takeFirstBest_of_firstBest found]
  refine ⟨_, rfl, ?_⟩
  intro keeps
  exact sameOrder_withoutSlot split keeps others

/-- Nothing is next in a stable queue that holds what an empty one does. -/
theorem takeFirstBest_of_empty {slots arrivals : List FrameSlot} (empty : slots = [])
    (same : SameOrder FrameSlot.level slots arrivals) :
    takeFirstBest FrameSlot.level arrivals = none := by
  rw [takeFirstBest_eq_none]
  subst empty
  exact same.perm.nil_eq.symm

end FrameQueue

/-- What the two cores do with a mailbox. -/
inductive MailboxEvent where
  | pushTx (bytes : List UInt8) (priority : UInt8)
  | popTx (out : Nat)
  | pushRx (bytes : List UInt8) (priority : UInt8)
  | popRx
  deriving DecidableEq, Repr

/-- What a mailbox answers. -/
inductive MailboxAnswer where
  | pushed (accepted : Bool)
  | copied (bytes : List UInt8)
  | taken (frame : Option (List UInt8))
  deriving DecidableEq, Repr

namespace MavlinkMailbox

/-- Let one event happen and answer it. -/
def act (mailbox : MavlinkMailbox) : MailboxEvent → MailboxAnswer × MavlinkMailbox
  | .pushTx bytes priority => (mailbox.pushTxFrame bytes priority).map .pushed id
  | .popTx out => (mailbox.popTxFrame out).map .copied id
  | .pushRx bytes priority => (mailbox.pushRxFrame bytes priority).map .pushed id
  | .popRx => mailbox.popRxFrame.map .taken id

/-- No event moves a frame before an earlier one of its priority: neither the last slot's frame
into the hole of a removed one, nor a new frame into the slot of the one it replaces. -/
def KeepsOrder (mailbox : MavlinkMailbox) : MailboxEvent → Prop
  | .pushTx bytes priority =>
    mailbox.tx.PushKeepsOrder mailbox.lowestTxPrioritySlot bytes priority
  | .popTx out =>
    (mailbox.tx.slots.getD mailbox.highestTxPrioritySlot default).bytes.length ≤ out →
      FrameQueue.RemovalKeepsOrder mailbox.tx.slots mailbox.highestTxPrioritySlot
  | .pushRx bytes priority =>
    mailbox.rx.PushKeepsOrder (FrameQueue.lowestPrioritySlot mailbox.rx.slots) bytes priority
  | .popRx => FrameQueue.RemovalKeepsOrder mailbox.rx.slots mailbox.highestRxPrioritySlot

end MavlinkMailbox

/-- The abstract mailbox: the frames of each direction in order of arrival. -/
structure StableMailbox where
  tx : List FrameSlot
  rx : List FrameSlot

namespace StableMailbox

/-- An abstract mailbox without frames. -/
def new : StableMailbox := ⟨[], []⟩

/-- Let one event happen to two stable priority queues and answer it. -/
def act (mailbox : StableMailbox) : MailboxEvent → MailboxAnswer × StableMailbox
  | .pushTx bytes priority =>
    let (accepted, tx) :=
      FrameQueue.offer mavlinkV1MaxFrameBytes txFrameCapacity mailbox.tx bytes priority
    (.pushed accepted, { mailbox with tx })
  | .popTx out =>
    match takeFirstBest FrameSlot.level mailbox.tx with
    | none => (.copied [], mailbox)
    | some (frame, rest) =>
      if out < frame.bytes.length then (.copied [], mailbox)
      else (.copied frame.bytes, { mailbox with tx := rest })
  | .pushRx bytes priority =>
    let (accepted, rx) :=
      FrameQueue.offer serialRxFrameMaxBytes rxFrameCapacity mailbox.rx bytes priority
    (.pushed accepted, { mailbox with rx })
  | .popRx =>
    match takeFirstBest FrameSlot.level mailbox.rx with
    | none => (.taken none, mailbox)
    | some (frame, rest) => (.taken (some frame.bytes), { mailbox with rx := rest })

end StableMailbox

/-- A mailbox beside the stable priority queues it should be. -/
structure MailboxPair where
  mailbox : MavlinkMailbox
  stable : StableMailbox

namespace MailboxPair

/-- Both before their first frame. -/
def new : MailboxPair := ⟨.new, .new⟩

/-- Let one event happen to both. -/
def step (pair : MailboxPair) (event : MailboxEvent) : MailboxPair :=
  ⟨(pair.mailbox.act event).2, (pair.stable.act event).2⟩

/-- The mailbox and the stable queues hold the same frames, those of each priority in the same
order. -/
structure Simulates (pair : MailboxPair) : Prop where
  tx : SameOrder FrameSlot.level pair.mailbox.tx.slots pair.stable.tx
  rx : SameOrder FrameSlot.level pair.mailbox.rx.slots pair.stable.rx

/-- The mailbox answers as the stable queues do, and holds the same frames afterwards. -/
structure Agrees (pair : MailboxPair) (event : MailboxEvent) : Prop where
  answer : (pair.mailbox.act event).1 = (pair.stable.act event).1
  tx : (pair.step event).mailbox.tx.slots.Perm (pair.step event).stable.tx
  rx : (pair.step event).mailbox.rx.slots.Perm (pair.step event).stable.rx

/-- Offering an outgoing frame is answered alike and keeps the simulation. -/
theorem Simulates.pushTx {pair : MailboxPair} (simulates : pair.Simulates) {bytes : List UInt8}
    {priority : UInt8} (keeps : pair.mailbox.KeepsOrder (.pushTx bytes priority)) :
    (pair.mailbox.act (.pushTx bytes priority)).1 = (pair.stable.act (.pushTx bytes priority)).1 ∧
      (pair.step (.pushTx bytes priority)).Simulates := by
  -- The slot that gives way is the lowest one, as the stable queue has it.
  have chosen (_ : pair.mailbox.tx.slots ≠ []) : some pair.mailbox.lowestTxPrioritySlot =
      some (FrameQueue.lowestPrioritySlot pair.mailbox.tx.slots) := rfl
  obtain ⟨accepted, ordered⟩ :=
    FrameQueue.pushFrame_sameOrder (by decide) simulates.tx chosen keeps
  exact ⟨congrArg MailboxAnswer.pushed accepted, ordered, simulates.rx⟩

/-- Offering an incoming frame is answered alike and keeps the simulation. -/
theorem Simulates.pushRx {pair : MailboxPair} (simulates : pair.Simulates) {bytes : List UInt8}
    {priority : UInt8} (keeps : pair.mailbox.KeepsOrder (.pushRx bytes priority)) :
    (pair.mailbox.act (.pushRx bytes priority)).1 = (pair.stable.act (.pushRx bytes priority)).1 ∧
      (pair.step (.pushRx bytes priority)).Simulates := by
  -- The slot that gives way is the lowest one, as the stable queue has it.
  have chosen (occupied : pair.mailbox.rx.slots ≠ []) : pair.mailbox.lowestRxPrioritySlot =
      some (FrameQueue.lowestPrioritySlot pair.mailbox.rx.slots) := by
    rw [MavlinkMailbox.lowestRxPrioritySlot, if_neg (mt List.length_eq_zero_iff.mp occupied)]
  obtain ⟨accepted, ordered⟩ :=
    FrameQueue.pushFrame_sameOrder (by decide) simulates.rx chosen keeps
  exact ⟨congrArg MailboxAnswer.pushed accepted, simulates.tx, ordered⟩

/-- Taking an outgoing frame is answered alike and keeps the simulation. -/
theorem Simulates.popTx {pair : MailboxPair} (simulates : pair.Simulates) {out : Nat}
    (keeps : pair.mailbox.KeepsOrder (.popTx out)) :
    (pair.mailbox.act (.popTx out)).1 = (pair.stable.act (.popTx out)).1 ∧
      (pair.step (.popTx out)).Simulates := by
  obtain ⟨tx, rx⟩ := simulates
  simp only [step, MavlinkMailbox.act, MavlinkMailbox.popTxFrame, StableMailbox.act]
  by_cases empty : pair.mailbox.tx.slots = []
  · rw [FrameQueue.takeFirstBest_of_empty empty tx, if_pos (by rw [empty, List.length_nil])]
    exact ⟨rfl, tx, rx⟩
  · obtain ⟨rest, next, ordered⟩ := FrameQueue.highestPrioritySlot_sameOrder empty tx
    rw [next, if_neg (mt List.length_eq_zero_iff.mp empty)]
    -- A buffer too short for the next frame leaves both as they were.
    by_cases short : out <
      (pair.mailbox.tx.slots.getD pair.mailbox.highestTxPrioritySlot default).bytes.length
    · have same := short
      rw [MavlinkMailbox.highestTxPrioritySlot] at same
      simp only [if_pos short, if_pos same]
      exact ⟨rfl, tx, rx⟩
    · have same := short
      rw [MavlinkMailbox.highestTxPrioritySlot] at same
      simp only [if_neg short, if_neg same]
      exact ⟨rfl, ordered (keeps (Nat.le_of_not_lt short)), rx⟩

/-- Taking an incoming frame is answered alike and keeps the simulation. -/
theorem Simulates.popRx {pair : MailboxPair} (simulates : pair.Simulates)
    (keeps : pair.mailbox.KeepsOrder .popRx) :
    (pair.mailbox.act .popRx).1 = (pair.stable.act .popRx).1 ∧ (pair.step .popRx).Simulates := by
  obtain ⟨tx, rx⟩ := simulates
  simp only [step, MavlinkMailbox.act, MavlinkMailbox.popRxFrame, StableMailbox.act]
  -- An empty queue answers nothing; otherwise the best slot is the oldest of its priority.
  by_cases empty : pair.mailbox.rx.slots = []
  · rw [FrameQueue.takeFirstBest_of_empty empty rx, if_pos (by rw [empty, List.length_nil])]
    exact ⟨rfl, tx, rx⟩
  · obtain ⟨rest, next, ordered⟩ := FrameQueue.highestPrioritySlot_sameOrder empty rx
    rw [next, if_neg (mt List.length_eq_zero_iff.mp empty)]
    exact ⟨rfl, tx, ordered keeps⟩

/-- An event that keeps the order is answered alike and keeps the simulation. -/
theorem Simulates.act {pair : MailboxPair} (simulates : pair.Simulates) {event : MailboxEvent}
    (keeps : pair.mailbox.KeepsOrder event) :
    (pair.mailbox.act event).1 = (pair.stable.act event).1 ∧ (pair.step event).Simulates := by
  -- Each event has its own lemma.
  cases event with
  | pushTx bytes priority => exact simulates.pushTx keeps
  | popTx out => exact simulates.popTx keeps
  | pushRx bytes priority => exact simulates.pushRx keeps
  | popRx => exact simulates.popRx keeps

/-- Along every run of a new mailbox in which no event moves a frame before an earlier one of its
priority, both queues answer as stable priority queues do and hold exactly their frames. -/
theorem agrees_along (events : List MailboxEvent)
    (ordered : Along (fun pair event => pair.mailbox.KeepsOrder event) step new events) :
    Along Agrees step new events := by
  have initial : Simulates new := ⟨SameOrder.refl _ _, SameOrder.refl _ _⟩
  -- The simulation is the invariant, and makes both answers the same.
  apply along_of_along Simulates ?_ initial ordered
  intro pair event simulates keeps
  obtain ⟨answer, next⟩ := simulates.act keeps
  exact ⟨⟨answer, next.tx.perm, next.rx.perm⟩, next⟩

/-- Whether an event keeps the order is decided by scanning the slots. -/
instance (mailbox : MavlinkMailbox) : ∀ event, Decidable (mailbox.KeepsOrder event)
  | .pushTx bytes priority => inferInstanceAs (Decidable (
      bytes.length ≤ mavlinkV1MaxFrameBytes → txFrameCapacity ≤ mailbox.tx.slots.length →
        FrameQueue.priorityAt mailbox.tx.slots mailbox.lowestTxPrioritySlot < priority →
        ∀ index < mailbox.tx.slots.length, mailbox.lowestTxPrioritySlot < index →
          FrameQueue.priorityAt mailbox.tx.slots index ≠ priority))
  | .popTx out => inferInstanceAs (Decidable (
      (mailbox.tx.slots.getD mailbox.highestTxPrioritySlot default).bytes.length ≤ out →
        ∀ index < mailbox.tx.slots.length - 1, mailbox.highestTxPrioritySlot < index →
          FrameQueue.priorityAt mailbox.tx.slots index ≠
            FrameQueue.priorityAt mailbox.tx.slots (mailbox.tx.slots.length - 1)))
  | .pushRx bytes priority => inferInstanceAs (Decidable (
      bytes.length ≤ serialRxFrameMaxBytes → rxFrameCapacity ≤ mailbox.rx.slots.length →
        FrameQueue.priorityAt mailbox.rx.slots
          (FrameQueue.lowestPrioritySlot mailbox.rx.slots) < priority →
        ∀ index < mailbox.rx.slots.length,
          FrameQueue.lowestPrioritySlot mailbox.rx.slots < index →
          FrameQueue.priorityAt mailbox.rx.slots index ≠ priority))
  | .popRx => inferInstanceAs (Decidable (
      ∀ index < mailbox.rx.slots.length - 1, mailbox.highestRxPrioritySlot < index →
        FrameQueue.priorityAt mailbox.rx.slots index ≠
          FrameQueue.priorityAt mailbox.rx.slots (mailbox.rx.slots.length - 1)))

/-- A request to read the parameter of an index, as a frame with blank check bytes. -/
def readRequest (index : UInt8) : List UInt8 :=
  [0xFE, 20, index, 255, 190, 20, index, 0, 1, 1] ++ List.replicate 16 0 ++ [0, 0]

/-- A heartbeat frame with blank check bytes. -/
def heartbeatFrame : List UInt8 := [0xFE, 9, 0, 255, 190, 0, 0, 0, 0, 0, 6, 8, 0, 4, 3, 0, 0]

/-- A heartbeat overtakes two parameter requests, which are then taken in the order they came. -/
theorem heartbeatAhead_agrees :
    Along Agrees step new
      [.pushRx (readRequest 0) 128, .pushRx (readRequest 1) 128, .pushRx heartbeatFrame 224,
        .popRx, .popRx, .popRx] :=
  agrees_along _ (by decide)

/-- After three parameter requests the second pop takes the third one. -/
theorem thirdRequest_overtakes :
    ¬ Along Agrees step new
      [.pushRx (readRequest 0) 128, .pushRx (readRequest 1) 128, .pushRx (readRequest 2) 128,
        .popRx, .popRx] := by
  intro lawful
  -- The first pop moved the third request into the first one's slot.
  have answer := (along_iff_split.mp lawful
    [.pushRx (readRequest 0) 128, .pushRx (readRequest 1) 128, .pushRx (readRequest 2) 128, .popRx]
    .popRx [] rfl).answer
  revert answer
  decide

end MailboxPair

end Veloxity
