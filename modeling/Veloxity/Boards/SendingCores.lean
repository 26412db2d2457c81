import Veloxity.Boards.DownlinkLaws
import Veloxity.Boards.Mailbox
import Veloxity.Comms.FrameEncoder

/-! One core of an RP2350 board hands over messages, the other encodes and sends them. -/

namespace Veloxity

open Library

variable {Payload : DownlinkKind → Type}

/-- What the two cores share for sending: frames that are encoded already, and messages, with a
log of the calls about them. -/
structure SharedMavlinkMailbox (Payload : DownlinkKind → Type) where
  frames : MavlinkMailbox
  downlink : LoggedDownlink Payload

namespace SharedMavlinkMailbox

/-- An empty mailbox. -/
def new : SharedMavlinkMailbox Payload := ⟨.new, .new⟩

/-- Take outgoing frames out, one after the other, for as long as there is room for the next. -/
def drainTxBatch : Nat → Nat → MavlinkMailbox → List UInt8 × MavlinkMailbox
  | 0, _, mailbox => ([], mailbox)
  | turns + 1, room, mailbox =>
    if room = 0 then ([], mailbox)
    else
      let (bytes, mailbox) := mailbox.popTxFrame room
      if bytes.length = 0 then ([], mailbox)
      else
        let (later, mailbox) := drainTxBatch turns (room - bytes.length) mailbox
        (bytes ++ later, mailbox)

/-- Take as many outgoing frames out as fit into a buffer. -/
def drainTxBatchInto (mailbox : SharedMavlinkMailbox Payload) (out : Nat) :
    List UInt8 × SharedMavlinkMailbox Payload :=
  -- Each turn of the loop but the last frees a slot.
  let (bytes, frames) := drainTxBatch (mailbox.frames.tx.slots.length + 1) out mailbox.frames
  (bytes, { mailbox with frames })

/-- Take the next message out. -/
def popDownlinkMessage (mailbox : SharedMavlinkMailbox Payload) :
    Option (QueuedDownlinkMessage Payload) × SharedMavlinkMailbox Payload :=
  (mailbox.downlink.mailbox.popDownlinkMessage.1,
    { mailbox with downlink := mailbox.downlink.step .pop })

/-- What the board offers for sending: messages are always taken over, even if only to be
dropped. -/
def serialTx : SerialTx (SharedMavlinkMailbox Payload) Payload where
  enqueueDownlink mailbox systemId msg priority :=
    some { mailbox with downlink := mailbox.downlink.step (.push ⟨systemId, msg⟩ priority) }
  writePriority mailbox bytes priority :=
    { mailbox with frames := (mailbox.frames.pushTxFrame bytes priority).2 }

end SharedMavlinkMailbox

/-- The two cores, with a record of the messages sent, of those taken out, each with whether the
port took its bytes, and of the bytes the port has taken. -/
structure SendingCores (Payload : DownlinkKind → Type) where
  sent : List (QueuedDownlinkMessage Payload)
  interface : MavlinkInterface
  mailbox : SharedMavlinkMailbox Payload
  encoder : MavlinkFrameEncoder
  taken : List (QueuedDownlinkMessage Payload × Bool)
  wire : List UInt8

/-- What the cores do. -/
inductive SendingStep (Payload : DownlinkKind → Type) where
  /-- The first core sends a message. -/
  | send (systemId : UInt8) (msg : DownlinkMessage Payload)
  /-- The second core makes a turn, and the port takes its bytes or none of them. -/
  | uartTx (written : Bool)

namespace SendingCores

variable (format : PayloadFormat Payload)

/-- Nothing has been sent. -/
def new : SendingCores Payload := ⟨[], .new, .new, .new, [], []⟩

/-- One turn of the task that sends: encoded frames go first, and then a message. -/
def uartTxTask (cores : SendingCores Payload) (written : Bool) : SendingCores Payload :=
  let (batch, mailbox) := cores.mailbox.drainTxBatchInto uartTxBatchBytes
  if batch.length ≠ 0 then
    { cores with mailbox, wire := if written then cores.wire ++ batch else cores.wire }
  else
    match mailbox.popDownlinkMessage with
    | (none, mailbox) => { cores with mailbox }
    | (some queued, mailbox) =>
      let (bytes, encoder) :=
        cores.encoder.encodeDownlink format queued.systemId queued.msg uartTxBatchBytes
      { cores with
        mailbox, encoder
        taken := cores.taken ++ [(queued, written)]
        wire := if written then cores.wire ++ bytes.getD [] else cores.wire }

/-- What a step of either core does. -/
def step (cores : SendingCores Payload) : SendingStep Payload → SendingCores Payload
  | .send systemId msg =>
    let (interface, mailbox) := cores.interface.sendDownlinkOrMessage format
      SharedMavlinkMailbox.serialTx cores.mailbox systemId msg
    { cores with sent := cores.sent ++ [⟨systemId, msg⟩], interface, mailbox }
  | .uartTx written => cores.uartTxTask format written

/-- The frames of the messages taken out whose bytes the port has taken, each under the number of
its message among all that were taken out. -/
def sentFrames (taken : List (QueuedDownlinkMessage Payload × Bool)) : List V1Frame :=
  (((numberedFrames format mavCompIdRosflightFirmware 0 (taken.map Prod.fst)).zip
    (taken.map Prod.snd)).map fun sent => if sent.2 then sent.1 else none).reduceOption

/-- The critical messages among those taken out. -/
def takenCritical (taken : List (QueuedDownlinkMessage Payload × Bool)) :
    List (QueuedDownlinkMessage Payload) :=
  (taken.map Prod.fst).filter fun queued => downlinkTelemetryStream queued.msg = none

end SendingCores

end Veloxity
