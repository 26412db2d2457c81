import Mathlib.Logic.Function.Basic
import Veloxity.Core.FlightFloat
import Veloxity.Library.BoundedQueue
import Veloxity.Library.Run

/-! The decoded messages the flight core of an RP2350 board hands to the core that sends them. -/

namespace Veloxity

open Library

/-- The kinds of message the vehicle sends. -/
inductive DownlinkKind where
  | heartbeat
  | paramValue
  | status
  | timesync
  | version
  | outputRaw
  | attitude
  | baro
  | diffPressure
  | imu
  | mag
  | rcRaw
  | range
  | gnss
  | cmdAck
  | rcChannels
  | batteryStatus
  | statustext
  | hardError
  deriving DecidableEq, Repr

/-- A message of some kind with that kind's payload, which the mailbox never looks into. -/
structure DownlinkMessage (Payload : DownlinkKind → Type) where
  kind : DownlinkKind
  payload : Payload kind

/-- A message together with the system that sends it. -/
structure QueuedDownlinkMessage (Payload : DownlinkKind → Type) where
  systemId : UInt8
  msg : DownlinkMessage Payload

/-- The critical messages the mailbox stores. -/
def downlinkCriticalCapacity : Nat := 64

/-- The streams whose messages replace one another. -/
abbrev downlinkTelemetryStreams : Nat := 10

/-- The slot of a message that a later one may replace. -/
def downlinkTelemetryStream {Payload : DownlinkKind → Type} (msg : DownlinkMessage Payload) :
    Option (Fin downlinkTelemetryStreams) :=
  match msg.kind with
  | .outputRaw => some 0
  | .attitude => some 1
  | .baro => some 2
  | .diffPressure => some 3
  | .imu => some 4
  | .mag => some 5
  | .rcRaw | .rcChannels => some 6
  | .range => some 7
  | .gnss => some 8
  | .batteryStatus => some 9
  | .heartbeat | .paramValue | .status | .timesync | .version | .cmdAck | .statustext
  | .hardError => none

/-- The priority from which on no message is replaced. -/
def defaultTxPriority : UInt8 := 128

/-- The critical messages, the newest message of each stream, and the streams in the order in
which they are to be sent. -/
structure DownlinkMailbox (Payload : DownlinkKind → Type) where
  downlinkReplaced : UInt32
  downlinkCritical : BoundedQueue downlinkCriticalCapacity (QueuedDownlinkMessage Payload)
  downlinkTelemetry : Fin downlinkTelemetryStreams → Option (QueuedDownlinkMessage Payload)
  downlinkTelemetryReady :
    BoundedQueue downlinkTelemetryStreams (Fin downlinkTelemetryStreams)

namespace DownlinkMailbox

variable {Payload : DownlinkKind → Type}

/-- A mailbox without messages. -/
def new : DownlinkMailbox Payload where
  downlinkReplaced := 0
  downlinkCritical := .empty
  downlinkTelemetry _ := none
  downlinkTelemetryReady := .empty

/-- Offer a message to the critical queue, reporting whether there was room for it. -/
def pushCritical (mailbox : DownlinkMailbox Payload) (msg : QueuedDownlinkMessage Payload) :
    Bool × DownlinkMailbox Payload :=
  let (downlinkCritical, accepted) := mailbox.downlinkCritical.push msg
  (accepted, { mailbox with downlinkCritical })

/-- Offer a message, reporting whether it was accepted. -/
def pushDownlinkMessage (mailbox : DownlinkMailbox Payload)
    (msg : QueuedDownlinkMessage Payload) (priority : UInt8) :
    Bool × DownlinkMailbox Payload :=
  if defaultTxPriority ≤ priority then mailbox.pushCritical msg
  else
    match downlinkTelemetryStream msg.msg with
    | none => mailbox.pushCritical msg
    | some stream =>
      let replaced := (mailbox.downlinkTelemetry stream).isSome
      let downlinkTelemetry := Function.update mailbox.downlinkTelemetry stream (some msg)
      if replaced then
        (true, { mailbox with
          downlinkTelemetry
          downlinkReplaced := mailbox.downlinkReplaced + 1 })
      else
        let (downlinkTelemetryReady, accepted) := mailbox.downlinkTelemetryReady.push stream
        (accepted, { mailbox with downlinkTelemetry, downlinkTelemetryReady })

/-- Take ready streams out until one of them has a message in its slot. -/
def takeReady (slots : Fin downlinkTelemetryStreams → Option (QueuedDownlinkMessage Payload)) :
    List (Fin downlinkTelemetryStreams) →
      Option (QueuedDownlinkMessage Payload) ×
        (Fin downlinkTelemetryStreams → Option (QueuedDownlinkMessage Payload)) ×
        List (Fin downlinkTelemetryStreams)
  | [] => (none, slots, [])
  | stream :: ready =>
    match slots stream with
    | some msg => (some msg, Function.update slots stream none, ready)
    | none => takeReady slots ready

/-- Streams that remain ready were ready before. -/
theorem length_takeReady
    (slots : Fin downlinkTelemetryStreams → Option (QueuedDownlinkMessage Payload))
    (ready : List (Fin downlinkTelemetryStreams)) :
    (takeReady slots ready).2.2.length ≤ ready.length := by
  -- Each turn of the loop takes one stream out.
  induction ready with
  | nil => exact Nat.le_refl _
  | cons stream ready ih =>
    rw [takeReady, List.length_cons]
    split
    · exact Nat.le_succ _
    · exact Nat.le_succ_of_le ih

/-- Take the next message out: a critical one if any is queued. -/
def popDownlinkMessage (mailbox : DownlinkMailbox Payload) :
    Option (QueuedDownlinkMessage Payload) × DownlinkMailbox Payload :=
  match mailbox.downlinkCritical.pop with
  | some (msg, downlinkCritical) => (some msg, { mailbox with downlinkCritical })
  | none =>
    let ready := mailbox.downlinkTelemetryReady
    let taken := takeReady mailbox.downlinkTelemetry ready.items
    (taken.1, { mailbox with
      downlinkTelemetry := taken.2.1
      downlinkTelemetryReady :=
        ⟨taken.2.2, Nat.le_trans (length_takeReady mailbox.downlinkTelemetry ready.items)
          ready.bounded⟩ })

end DownlinkMailbox

/-- What the two cores ask of the mailbox. -/
inductive DownlinkCall (Payload : DownlinkKind → Type) where
  | push (msg : QueuedDownlinkMessage Payload) (priority : UInt8)
  | pop

end Veloxity
