import Mathlib.Data.List.GetD
import Mathlib.Data.List.Infix
import Veloxity.Library.Run
import Veloxity.Library.StableQueue

/-! The frame queues between the two cores of an RP2350 board. -/

namespace Veloxity

open Library

/-- A frame in its slot: the bytes up to its length, and its priority. -/
structure FrameSlot where
  bytes : List UInt8
  priority : UInt8
  deriving DecidableEq, Repr, Inhabited

/-- The occupied slots of a frame queue, and how many frames gave way to a higher one. -/
structure FrameQueue (maxBytes capacity : Nat) where
  slots : List FrameSlot
  replaced : UInt32
  bounded : slots.length ≤ capacity
  fits : ∀ slot ∈ slots, slot.bytes.length ≤ maxBytes

namespace FrameQueue

variable {maxBytes capacity : Nat}

/-- A queue with no occupied slot. -/
def new : FrameQueue maxBytes capacity where
  slots := []
  replaced := 0
  bounded := Nat.zero_le _
  fits := by simp

/-- The priority stored at a slot. -/
def priorityAt (slots : List FrameSlot) (slot : Nat) : UInt8 := (slots.getD slot default).priority

/-- The slot a scan over the occupied slots settles on. -/
def scanSlots (better : UInt8 → UInt8 → Bool) (slots : List FrameSlot) : Nat :=
  (List.range' 1 (slots.length - 1)).foldl (fun best index =>
    if better (priorityAt slots index) (priorityAt slots best) then index else best) 0

/-- The first slot of the highest priority. -/
def highestPrioritySlot (slots : List FrameSlot) : Nat := scanSlots (· > ·) slots

/-- The first slot of the lowest priority. -/
def lowestPrioritySlot (slots : List FrameSlot) : Nat := scanSlots (· < ·) slots

/-- The occupied slots once the last one has been moved into a hole. -/
def withoutSlot (slots : List FrameSlot) (slot : Nat) : List FrameSlot :=
  let last := slots.length - 1
  if slot ≠ last then (slots.set slot (slots.getD last default)).dropLast else slots.dropLast

/-- A slot that remains was occupied before. -/
theorem mem_of_mem_withoutSlot {slots : List FrameSlot} {slot : Nat} {other : FrameSlot}
    (member : other ∈ withoutSlot slots slot) : other ∈ slots := by
  simp only [withoutSlot] at member
  -- The last slot fills the gap, and it was occupied before.
  split at member
  · have among := List.mem_of_mem_dropLast member
    rcases List.mem_or_eq_of_mem_set among with among | moved
    · exact among
    · cases slots with
      | nil => simp at among
      | cons first rest =>
        rw [moved, List.getD_eq_getElem _ _ (by simp)]
        exact List.getElem_mem _
  · exact List.mem_of_mem_dropLast member

/-- One slot fewer is occupied after a removal. -/
theorem length_withoutSlot (slots : List FrameSlot) (slot : Nat) :
    (withoutSlot slots slot).length = slots.length - 1 := by
  simp only [withoutSlot]
  split
  · rw [List.length_dropLast, List.length_set]
  · rw [List.length_dropLast]

/-- Free a slot. -/
def removeSlot (queue : FrameQueue maxBytes capacity) (slot : Nat) :
    FrameQueue maxBytes capacity where
  slots := withoutSlot queue.slots slot
  replaced := queue.replaced
  bounded := by
    have bounded := queue.bounded
    rw [length_withoutSlot]
    omega
  fits := by
    intro other member
    exact queue.fits other (mem_of_mem_withoutSlot member)

/-- Store a frame in a new slot, or in the given lowest one if all are occupied and the frame's
priority is higher. -/
def pushFrame (queue : FrameQueue maxBytes capacity) (lowest : Option Nat) (bytes : List UInt8)
    (priority : UInt8) : Bool × FrameQueue maxBytes capacity :=
  if fits : maxBytes < bytes.length then (false, queue)
  else if room : queue.slots.length < capacity then
    (true, {
      slots := queue.slots ++ [⟨bytes, priority⟩]
      replaced := queue.replaced
      bounded := by
        rw [List.length_append, List.length_singleton]
        omega
      fits := by
        intro slot member
        rcases List.mem_append.mp member with held | added
        · exact queue.fits slot held
        · cases List.mem_singleton.mp added
          exact Nat.le_of_not_lt fits })
  else
    match lowest with
    | none => (false, queue)
    | some slot =>
      if priority ≤ priorityAt queue.slots slot then (false, queue)
      else (true, {
        slots := queue.slots.set slot ⟨bytes, priority⟩
        replaced := queue.replaced + 1
        bounded := by
          rw [List.length_set]
          exact queue.bounded
        fits := by
          intro other member
          rcases List.mem_or_eq_of_mem_set member with held | rfl
          · exact queue.fits other held
          · exact Nat.le_of_not_lt fits })

end FrameQueue

/-- The longest frame the outgoing queue stores. -/
def mavlinkV1MaxFrameBytes : Nat := 263

/-- The slots of the outgoing queue. -/
def txFrameCapacity : Nat := 64

/-- The longest frame the incoming queue stores. -/
def serialRxFrameMaxBytes : Nat := 280

/-- The slots of the incoming queue. -/
def rxFrameCapacity : Nat := 32

/-- The outgoing and the incoming frames. -/
structure MavlinkMailbox where
  tx : FrameQueue mavlinkV1MaxFrameBytes txFrameCapacity
  rx : FrameQueue serialRxFrameMaxBytes rxFrameCapacity

namespace MavlinkMailbox

/-- A mailbox with both queues empty. -/
def new : MavlinkMailbox := ⟨.new, .new⟩

/-- The first outgoing slot of the highest priority. -/
def highestTxPrioritySlot (mailbox : MavlinkMailbox) : Nat :=
  FrameQueue.highestPrioritySlot mailbox.tx.slots

/-- The first outgoing slot of the lowest priority. -/
def lowestTxPrioritySlot (mailbox : MavlinkMailbox) : Nat :=
  FrameQueue.lowestPrioritySlot mailbox.tx.slots

/-- The first incoming slot of the highest priority. -/
def highestRxPrioritySlot (mailbox : MavlinkMailbox) : Nat :=
  FrameQueue.highestPrioritySlot mailbox.rx.slots

/-- The first incoming slot of the lowest priority, if any is occupied. -/
def lowestRxPrioritySlot (mailbox : MavlinkMailbox) : Option Nat :=
  if mailbox.rx.slots.length = 0 then none
  else some (FrameQueue.lowestPrioritySlot mailbox.rx.slots)

/-- Free an outgoing slot. -/
def removeTxSlot (mailbox : MavlinkMailbox) (slot : Nat) : MavlinkMailbox :=
  { mailbox with tx := mailbox.tx.removeSlot slot }

/-- Free an incoming slot. -/
def removeRxSlot (mailbox : MavlinkMailbox) (slot : Nat) : MavlinkMailbox :=
  { mailbox with rx := mailbox.rx.removeSlot slot }

/-- Offer an outgoing frame, reporting whether it was accepted. -/
def pushTxFrame (mailbox : MavlinkMailbox) (bytes : List UInt8) (priority : UInt8) :
    Bool × MavlinkMailbox :=
  let (accepted, tx) := mailbox.tx.pushFrame (some mailbox.lowestTxPrioritySlot) bytes priority
  (accepted, { mailbox with tx })

/-- Offer an incoming frame, reporting whether it was accepted. -/
def pushRxFrame (mailbox : MavlinkMailbox) (bytes : List UInt8) (priority : UInt8) :
    Bool × MavlinkMailbox :=
  let (accepted, rx) := mailbox.rx.pushFrame mailbox.lowestRxPrioritySlot bytes priority
  (accepted, { mailbox with rx })

/-- Copy the next outgoing frame into a buffer that is long enough for it; the bytes copied are
those whose count the call returns. -/
def popTxFrame (mailbox : MavlinkMailbox) (out : Nat) : List UInt8 × MavlinkMailbox :=
  if mailbox.tx.slots.length = 0 then ([], mailbox)
  else
    let slot := mailbox.highestTxPrioritySlot
    let bytes := (mailbox.tx.slots.getD slot default).bytes
    if out < bytes.length then ([], mailbox)
    else (bytes, mailbox.removeTxSlot slot)

/-- Take the next incoming frame out. -/
def popRxFrame (mailbox : MavlinkMailbox) : Option (List UInt8) × MavlinkMailbox :=
  if mailbox.rx.slots.length = 0 then (none, mailbox)
  else
    let slot := mailbox.highestRxPrioritySlot
    let bytes := (mailbox.rx.slots.getD slot default).bytes
    (some bytes, mailbox.removeRxSlot slot)

end MavlinkMailbox

end Veloxity
