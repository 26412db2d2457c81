import Veloxity.Boards.Mailbox
import Veloxity.Comms.Parser

/-! One core of an RP2350 board parses what is received, the other one takes the frames. -/

namespace Veloxity

open Library

/-- The priority of a received message. -/
def mavlinkRxPriority (messageId : UInt8) : UInt8 :=
  match messageId with
  | 0 | 23 | 111 | 188 => 224
  | 20 | 21 | 180 | 193 | 195 => 128
  | _ => 32

/-- The two cores, with a record of the bytes received, of the frames the parser has put out, of
those the other core has taken and of those that found no room or gave way to others. -/
structure ReceivingCores where
  /-- There is none any more once the core that receives has panicked. -/
  parser : Option MavlinkParser
  mailbox : MavlinkMailbox
  received : List UInt8
  emitted : List (List UInt8)
  taken : List (List UInt8)
  lost : List FrameSlot

/-- What the cores do. -/
inductive ReceivingStep where
  /-- The first core reads a byte. -/
  | uartRx (byte : UInt8)
  /-- The second core takes a frame. -/
  | serialRxFrameRead
  deriving DecidableEq, Repr

/-- The byte that a step reads, if it reads one. -/
def ReceivingStep.byte : ReceivingStep → Option UInt8
  | .uartRx byte => some byte
  | .serialRxFrameRead => none

namespace ReceivingCores

/-- Nothing has been received. -/
def new : ReceivingCores := ⟨some .new, .new, [], [], [], []⟩

/-- Offer a frame to the other core, and record which one is lost if there is no room for all. -/
def pushRxFrame (cores : ReceivingCores) (bytes : List UInt8) (priority : UInt8) :
    ReceivingCores :=
  let (accepted, mailbox) := cores.mailbox.pushRxFrame bytes priority
  let lost :=
    if ¬ accepted then [⟨bytes, priority⟩]
    else if cores.mailbox.rx.slots.length < rxFrameCapacity then []
    else
      let slot := FrameQueue.lowestPrioritySlot cores.mailbox.rx.slots
      [cores.mailbox.rx.slots.getD slot default]
  { cores with mailbox, lost := cores.lost ++ lost }

/-- The task that receives reads a byte. -/
def uartRxTask (cores : ReceivingCores) (byte : UInt8) : ReceivingCores :=
  match cores.parser with
  | none => cores
  | some parser =>
    let cores := { cores with received := cores.received ++ [byte] }
    match parser.feedByte byte with
    | .error _ => { cores with parser := none }
    | .ok (parser, none) => { cores with parser := some parser }
    | .ok (parser, some frame) =>
      let bytes := frame.data.toList.take frame.len
      let cores := { cores with parser := some parser, emitted := cores.emitted ++ [bytes] }
      cores.pushRxFrame bytes (mavlinkRxPriority frame.data[5])

/-- What a step of either core does. -/
def step (cores : ReceivingCores) : ReceivingStep → ReceivingCores
  | .uartRx byte => cores.uartRxTask byte
  | .serialRxFrameRead =>
    match cores.mailbox.popRxFrame with
    | (none, mailbox) => { cores with mailbox }
    | (some bytes, mailbox) => { cores with mailbox, taken := cores.taken ++ [bytes] }

/-- The frames that wait for the other core. -/
def held (cores : ReceivingCores) : List (List UInt8) :=
  cores.mailbox.rx.slots.map FrameSlot.bytes

/-- When a byte is read, frames of a priority from a level on do not fill the queue. -/
def RoomFor (level : UInt8) (cores : ReceivingCores) : ReceivingStep → Prop
  | .uartRx _ =>
    (cores.mailbox.rx.slots.filter fun slot => level ≤ slot.priority).length < rxFrameCapacity
  | .serialRxFrameRead => True

instance (level : UInt8) (cores : ReceivingCores) (input : ReceivingStep) :
    Decidable (cores.RoomFor level input) := by
  cases input <;> unfold RoomFor <;> infer_instance

end ReceivingCores

end Veloxity
