import Mathlib.Data.List.Basic

/-! The radio bridge packs whole telemetry frames of a byte stream into packets. -/

namespace Veloxity

/-- What a run of the packer in C could do besides returning. -/
inductive PackerFault where
  /-- A copy reads or writes outside a buffer. -/
  | overrun
  /-- A loop is still running after the turns it was given. -/
  | stillRunning
  deriving DecidableEq, Repr

/-- The first byte of a frame. -/
def mavlinkV1Stx : UInt8 := 0xfe

/-- The bytes before a frame's payload. -/
def mavlinkV1HeaderLen : Nat := 6

/-- The bytes after a frame's payload. -/
def mavlinkV1ChecksumLen : Nat := 2

/-- The bytes of the longest frame. -/
def mavlinkV1MaxFrameLen : Nat := 263

/-- The bytes of the packet buffer. -/
def mavlinkFramePackerMaxPacket : Nat := 237

/-- The bytes of the receive buffer. -/
def framePackerRxSize : Nat := 526

/-- Copy bytes of a source from an offset on behind the bytes a buffer holds. -/
def memcpy (size : Nat) (held source : List UInt8) (offset len : Nat) :
    Except PackerFault (List UInt8) :=
  if held.length + len ≤ size ∧ offset + len ≤ source.length then
    .ok (held ++ (source.drop offset).take len)
  else .error .overrun

/-- Move bytes a buffer holds from an offset on to its front, where only they remain. -/
def memmove (size : Nat) (held : List UInt8) (offset len : Nat) :
    Except PackerFault (List UInt8) :=
  if held.length ≤ size ∧ offset + len ≤ held.length then
    .ok ((held.drop offset).take len)
  else .error .overrun

/-- The bytes received and not yet used, the packet being filled, and the counters. -/
structure MavlinkFramePacker where
  rx : List UInt8
  packet : List UInt8
  maxPacketLen : Nat
  frames : UInt32
  drops : UInt32
  deriving DecidableEq, Repr

namespace MavlinkFramePacker

/-- An empty packer for packets of at most the given length. -/
def init (maxPacketLen : Nat) : MavlinkFramePacker where
  rx := []
  packet := []
  maxPacketLen :=
    if mavlinkFramePackerMaxPacket < maxPacketLen then mavlinkFramePackerMaxPacket
    else maxPacketLen
  frames := 0
  drops := 0

/-- Drop the received bytes before the next one that may start a frame. -/
def compactRx (packer : MavlinkFramePacker) : Except PackerFault MavlinkFramePacker :=
  let start := packer.rx.findIdx (· == mavlinkV1Stx)
  if start = 0 then .ok packer
  else if start < packer.rx.length then do
    let rx ← memmove framePackerRxSize packer.rx start (packer.rx.length - start)
    return { packer with rx }
  else .ok { packer with rx := [] }

end MavlinkFramePacker

/-- A packer at work, with the packets it has handed out, the times it discarded a full receive
buffer, and every state it has been in. -/
structure Packing where
  packer : MavlinkFramePacker
  emitted : List (List UInt8)
  discards : Nat
  passed : List MavlinkFramePacker
  deriving DecidableEq, Repr

namespace Packing

/-- A packer that has just been set up. -/
def start (maxPacketLen : Nat) : Packing where
  packer := .init maxPacketLen
  emitted := []
  discards := 0
  passed := [.init maxPacketLen]

/-- The packer changes its state. -/
def become (packing : Packing) (packer : MavlinkFramePacker) : Packing :=
  { packing with packer, passed := packing.passed ++ [packer] }

variable (emit : List UInt8 → Bool)

/-- Hand out the packet being filled, and count it as dropped if it is not accepted. -/
def flush (packing : Packing) : Packing :=
  let packer := packing.packer
  if packer.packet.length = 0 then packing
  else
    let drops := if emit packer.packet then packer.drops else packer.drops + 1
    { packing with emitted := packing.emitted ++ [packer.packet] }.become
      { packer with packet := [], drops }

/-- Skip the first byte of a frame that fits into no packet. -/
def skipFrame (packing : Packing) : Except PackerFault Packing := do
  let packer := packing.packer
  let rx ← memmove framePackerRxSize packer.rx 1 (packer.rx.length - 1)
  let packing := packing.become { packer with rx, drops := packer.drops + 1 }
  return packing.become (← packing.packer.compactRx)

/-- Move the first frame received into a packet that has room for it. -/
def takeFrame (packing : Packing) (frameLen : Nat) : Except PackerFault Packing := do
  let packer := packing.packer
  let packing :=
    if 0 < packer.packet.length ∧ packer.maxPacketLen < packer.packet.length + frameLen then
      packing.flush emit
    else packing
  let packer := packing.packer
  let packet ← memcpy mavlinkFramePackerMaxPacket packer.packet packer.rx 0 frameLen
  let packing := packing.become { packer with packet, frames := packer.frames + 1 }
  let packer := packing.packer
  let rx ← memmove framePackerRxSize packer.rx frameLen (packer.rx.length - frameLen)
  let packing := packing.become { packer with rx }
  return packing.become (← packing.packer.compactRx)

/-- One turn of the loop over the received bytes, which may find that it has to wait. -/
def frameTurn (packing : Packing) : Except PackerFault (Option Packing) := do
  let packer := packing.packer
  match packer.rx with
  | first :: second :: _ =>
    if packer.rx.length < mavlinkV1HeaderLen then return none
    else if first ≠ mavlinkV1Stx then return some (packing.become (← packer.compactRx))
    else
      let frameLen := mavlinkV1HeaderLen + second.toNat + mavlinkV1ChecksumLen
      if mavlinkV1MaxFrameLen < frameLen ∨ packer.maxPacketLen < frameLen then
        return some (← packing.skipFrame)
      else if packer.rx.length < frameLen then return none
      else return some (← packing.takeFrame emit frameLen)
  | _ => return none

/-- The loop over the received bytes, for at most some turns. -/
def frameLoop : Nat → Packing → Except PackerFault Packing
  | 0, _ => .error .stillRunning
  | turns + 1, packing => do
    match ← packing.frameTurn emit with
    | some next => frameLoop turns next
    | none => return packing

/-- One turn of the loop over the bytes of a call: as many as there is room for. -/
def copyTurn (bytes : List UInt8) (offset : Nat) (packing : Packing) :
    Except PackerFault (Nat × Packing) := do
  let packer := packing.packer
  let packing :=
    if framePackerRxSize - packer.rx.length = 0 then
      { packing with discards := packing.discards + 1 }.become
        { packer with rx := [], drops := packer.drops + 1 }
    else packing
  let packer := packing.packer
  let room := framePackerRxSize - packer.rx.length
  let copyLen := min (bytes.length - offset) room
  let rx ← memcpy framePackerRxSize packer.rx bytes offset copyLen
  let packing := packing.become { packer with rx }
  let packing := packing.become (← packing.packer.compactRx)
  -- Each turn of the inner loop uses up a byte at least.
  let packing ← frameLoop emit (packing.packer.rx.length + 1) packing
  return (offset + copyLen, packing)

/-- The loop over the bytes of a call, for at most some turns. -/
def copyLoop (bytes : List UInt8) : Nat → Nat → Packing → Except PackerFault Packing
  | 0, _, _ => .error .stillRunning
  | turns + 1, offset, packing =>
    if offset < bytes.length then do
      let (offset, packing) ← copyTurn emit bytes offset packing
      copyLoop bytes turns offset packing
    else return packing

/-- Give the packer some bytes. -/
def push (packing : Packing) (bytes : List UInt8) : Except PackerFault Packing :=
  copyLoop emit bytes (bytes.length + 1) 0 packing

/-- Give the packer chunks of bytes one after the other. -/
def pushAll (packing : Packing) (chunks : List (List UInt8)) : Except PackerFault Packing :=
  chunks.foldlM (push emit) packing

end Packing

end Veloxity
