import Veloxity.Library.Passage
import Veloxity.Tools.BridgePacket
import Veloxity.Tools.FramePacker

/-! One radio bridge: its queues, the packets it sends and the packets it takes. -/

namespace Veloxity

open Library

/-- The address of a radio station. -/
abbrev MacAddress := Vector UInt8 6

/-- The address that every station listens to. -/
def broadcastMac : MacAddress := Vector.replicate 6 0xff

/-- The station at the other end, as far as it is known. -/
structure BridgePeer where
  mac : MacAddress
  learned : Bool
  registered : Bool
  deriving DecidableEq, Repr

/-- What a bridge counts for its diagnostics. -/
structure BridgeCounters where
  sendOk : UInt32 := 0
  sendFail : UInt32 := 0
  rxPackets : UInt32 := 0
  rxDrops : UInt32 := 0
  rxBadCrc : UInt32 := 0
  rxBadPeer : UInt32 := 0
  rxSeqGaps : UInt32 := 0
  localRxMavlinkFrames : UInt32 := 0
  localRxMavlinkDrops : UInt32 := 0
  localRxBytes : UInt32 := 0
  localTxBytes : UInt32 := 0
  espnowTxBytes : UInt32 := 0
  espnowRxBytes : UInt32 := 0
  deriving DecidableEq, Repr

/-- The state of a bridge that its tasks and callbacks share. -/
structure Bridge (config : BridgeConfig) where
  peer : BridgePeer
  txSeq : UInt16
  lastRxSeq : Option UInt16
  outbound : BoundedQueue config.queueDepth (List UInt8)
  inbound : BoundedQueue config.queueDepth (List UInt8)
  counters : BridgeCounters

/-- Append an item to a queue, at the cost of its oldest one if it is full; tells whether that one
was dropped and whether the item was accepted. -/
def queueSendDropOldest {depth : Nat} (queue : BoundedQueue depth (List UInt8))
    (item : List UInt8) : BoundedQueue depth (List UInt8) × Bool × Bool :=
  match queue.push item with
  | (queue, true) => (queue, false, true)
  | (queue, false) =>
    match queue.pop with
    | none => (queue, false, false)
    | some (_, rest) =>
      let (queue, sent) := rest.push item
      (queue, true, sent)

/-- What the radio answers while a packet is sent. -/
structure RadioAnswers where
  /-- The peer could be registered. -/
  peerAdded : Bool
  /-- The packet was accepted for sending. -/
  accepted : Bool
  /-- The end of sending was reported in time. -/
  reported : Bool
  deriving DecidableEq, Repr

/-- A packet on the air. -/
structure RadioFrame where
  target : MacAddress
  data : List UInt8
  deriving DecidableEq, Repr

namespace Bridge

variable {config : BridgeConfig} (crc16Le : UInt16 → List UInt8 → UInt16) (role : BridgeRole)

/-- A bridge that has just been started, with the peer of its build options. -/
def start (peerMac : MacAddress) : Bridge config where
  peer := ⟨peerMac, false, false⟩
  txSeq := 0
  lastRxSeq := none
  outbound := .empty
  inbound := .empty
  counters := {}

/-- Change the counters. -/
def count (bridge : Bridge config) (change : BridgeCounters → BridgeCounters) : Bridge config :=
  { bridge with counters := change bridge.counters }

/-- Count a dropped packet, if one was. -/
def countDrop (bridge : Bridge config) (dropped : Bool) : Bridge config :=
  if dropped then bridge.count fun counters => { counters with rxDrops := counters.rxDrops + 1 }
  else bridge

/-- Report of the radio that a packet was or was not received. -/
def sendCb (bridge : Bridge config) (success : Bool) : Bridge config :=
  bridge.count fun counters =>
    if success then { counters with sendOk := counters.sendOk + 1 }
    else { counters with sendFail := counters.sendFail + 1 }

/-- Whether packets are missing between the last accepted one and this one. -/
def seqGap (bridge : Bridge config) (seq : UInt16) : Bool :=
  match bridge.lastRxSeq with
  | some last => seq != last + 1
  | none => false

/-- Take note of the number of an accepted packet. -/
def noteSeq (bridge : Bridge config) (seq : UInt16) : Bridge config :=
  let bridge := if bridge.seqGap seq then
      bridge.count fun counters => { counters with rxSeqGaps := counters.rxSeqGaps + 1 }
    else bridge
  { bridge with lastRxSeq := some seq }

/-- Hand the payload of an accepted packet to the local port's queue. -/
def takePayload (bridge : Bridge config) (packet : BridgePacket) : Bridge config :=
  let item := packet.payload.take packet.len.toNat
  let (inbound, dropped, sent) := queueSendDropOldest bridge.inbound item
  let bridge := { bridge with inbound }.countDrop dropped
  if sent then
    bridge.count fun counters => { counters with
      rxPackets := counters.rxPackets + 1
      espnowRxBytes := counters.espnowRxBytes + packet.len.toUInt32 }
  else bridge.countDrop true

/-- Take the sender of an accepted packet for the peer, if none is known. -/
def learnPeer (bridge : Bridge config) (source : MacAddress) : Bridge config :=
  if bridge.peer.learned then bridge else { bridge with peer := ⟨source, true, false⟩ }

/-- A packet arrives from a station. -/
def recvCb (bridge : Bridge config) (source : MacAddress) (data : List UInt8) : Bridge config :=
  match BridgePacket.inspect crc16Le config role data with
  | .error .short => bridge
  | .error .malformed => bridge.countDrop true
  | .error .badCrc =>
    bridge.count fun counters => { counters with rxBadCrc := counters.rxBadCrc + 1 }
  | .ok packet =>
    -- A peer is learned from the first packet that is as it should be, if peers are learned at all.
    if (bridge.peer.learned ∧ source ≠ bridge.peer.mac) ∨
        (¬ bridge.peer.learned ∧ ¬ config.autoLearn) then
      bridge.count fun counters => { counters with rxBadPeer := counters.rxBadPeer + 1 }
    else ((bridge.learnPeer source).noteSeq packet.seq).takePayload packet

/-- Whether a packet from the local port is one that is queued for the air. -/
def enqueueAccepts (config : BridgeConfig) (buf : List UInt8) : Bool :=
  !(buf.length = 0 ∨ config.payloadMax < buf.length)

/-- Queue a packet of the local port's frames for the air. -/
def enqueueLocalFrame (bridge : Bridge config) (buf : List UInt8) : Bridge config × Bool :=
  if buf.length = 0 ∨ config.payloadMax < buf.length then
    (bridge.count fun counters =>
      { counters with localRxMavlinkDrops := counters.localRxMavlinkDrops + 1 }, false)
  else
    let (outbound, dropped, sent) := queueSendDropOldest bridge.outbound buf
    let bridge := { bridge with outbound }.countDrop dropped
    if sent then (bridge, true) else (bridge.countDrop true, false)

/-- Count a packet that could not be sent. -/
def countSendFail (bridge : Bridge config) : Bridge config :=
  bridge.count fun counters => { counters with sendFail := counters.sendFail + 1 }

/-- Send a payload to the peer, or to everyone while none is known; what was accepted by the radio
is on the air, whatever it reports later. -/
def sendPayload (bridge : Bridge config) (buf : List UInt8) (answers : RadioAnswers) :
    Bridge config × Option RadioFrame :=
  if bridge.peer.learned ∧ ¬ bridge.peer.registered ∧ ¬ answers.peerAdded then
    (bridge.countSendFail, none)
  else
    let peer :=
      if bridge.peer.learned then { bridge.peer with registered := true } else bridge.peer
    let target := if bridge.peer.learned then bridge.peer.mac else broadcastMac
    let packet := BridgePacket.build crc16Le role bridge.txSeq buf
    let bridge := { bridge with peer, txSeq := bridge.txSeq + 1 }
    if ¬ answers.accepted then (bridge.countSendFail, none)
    else
      let frame : RadioFrame := ⟨target, packet.bytes⟩
      if ¬ answers.reported then (bridge.countSendFail, some frame)
      else
        (bridge.count fun counters =>
          { counters with espnowTxBytes := counters.espnowTxBytes + UInt32.ofNat buf.length },
          some frame)

/-- One turn of the task that sends what is queued for the air. -/
def espnowTxTask (bridge : Bridge config) (answers : RadioAnswers) :
    Bridge config × Option RadioFrame :=
  match bridge.outbound.pop with
  | none => (bridge, none)
  | some (item, outbound) => { bridge with outbound }.sendPayload crc16Le role item answers

/-- One turn of the task that writes to the local port, which takes some of the bytes. -/
def localTxTask (bridge : Bridge config) (writable : Nat) : Bridge config × List UInt8 × Bool :=
  match bridge.inbound.pop with
  | none => (bridge, [], true)
  | some (item, inbound) =>
    let written := item.take writable
    let bridge := { bridge with inbound }
    if written.length = item.length then
      (bridge.count fun counters =>
        { counters with localTxBytes := counters.localTxBytes + UInt32.ofNat written.length },
        written, true)
    else (bridge.countDrop true, written, false)

/-- Copy the counters of the frame packer. -/
def copyPackerCounts (bridge : Bridge config) (packer : MavlinkFramePacker) : Bridge config :=
  bridge.count fun counters => { counters with
    localRxMavlinkFrames := packer.frames
    localRxMavlinkDrops := packer.drops }

section Counting

variable (bridge : Bridge config)

@[simp] theorem count_peer (change : BridgeCounters → BridgeCounters) :
    (bridge.count change).peer = bridge.peer := rfl

@[simp] theorem count_txSeq (change : BridgeCounters → BridgeCounters) :
    (bridge.count change).txSeq = bridge.txSeq := rfl

@[simp] theorem count_lastRxSeq (change : BridgeCounters → BridgeCounters) :
    (bridge.count change).lastRxSeq = bridge.lastRxSeq := rfl

@[simp] theorem count_outbound (change : BridgeCounters → BridgeCounters) :
    (bridge.count change).outbound = bridge.outbound := rfl

@[simp] theorem count_inbound (change : BridgeCounters → BridgeCounters) :
    (bridge.count change).inbound = bridge.inbound := rfl

@[simp] theorem countDrop_peer (dropped : Bool) :
    (bridge.countDrop dropped).peer = bridge.peer := by
  cases dropped <;> rfl

@[simp] theorem countDrop_txSeq (dropped : Bool) :
    (bridge.countDrop dropped).txSeq = bridge.txSeq := by
  cases dropped <;> rfl

@[simp] theorem countDrop_lastRxSeq (dropped : Bool) :
    (bridge.countDrop dropped).lastRxSeq = bridge.lastRxSeq := by
  cases dropped <;> rfl

@[simp] theorem countDrop_outbound (dropped : Bool) :
    (bridge.countDrop dropped).outbound = bridge.outbound := by
  cases dropped <;> rfl

@[simp] theorem countDrop_inbound (dropped : Bool) :
    (bridge.countDrop dropped).inbound = bridge.inbound := by
  cases dropped <;> rfl

@[simp] theorem noteSeq_peer (seq : UInt16) : (bridge.noteSeq seq).peer = bridge.peer := by
  simp only [noteSeq]
  split <;> rfl

@[simp] theorem noteSeq_txSeq (seq : UInt16) : (bridge.noteSeq seq).txSeq = bridge.txSeq := by
  simp only [noteSeq]
  split <;> rfl

@[simp] theorem noteSeq_lastRxSeq (seq : UInt16) : (bridge.noteSeq seq).lastRxSeq = some seq := rfl

@[simp] theorem noteSeq_outbound (seq : UInt16) :
    (bridge.noteSeq seq).outbound = bridge.outbound := by
  simp only [noteSeq]
  split <;> rfl

@[simp] theorem noteSeq_inbound (seq : UInt16) : (bridge.noteSeq seq).inbound = bridge.inbound := by
  simp only [noteSeq]
  split <;> rfl

theorem noteSeq_rxPackets (seq : UInt16) :
    (bridge.noteSeq seq).counters.rxPackets = bridge.counters.rxPackets := by
  simp only [noteSeq]
  split <;> rfl

theorem noteSeq_rxSeqGaps (seq : UInt16) :
    (bridge.noteSeq seq).counters.rxSeqGaps =
      if bridge.seqGap seq then bridge.counters.rxSeqGaps + 1 else bridge.counters.rxSeqGaps := by
  simp only [noteSeq]
  split <;> rfl

variable (source : MacAddress)

theorem learnPeer_peer : (bridge.learnPeer source).peer =
    if bridge.peer.learned then bridge.peer else ⟨source, true, false⟩ := by
  rw [learnPeer]
  split <;> rfl

@[simp] theorem learnPeer_txSeq : (bridge.learnPeer source).txSeq = bridge.txSeq := by
  rw [learnPeer]
  split <;> rfl

@[simp] theorem learnPeer_outbound : (bridge.learnPeer source).outbound = bridge.outbound := by
  rw [learnPeer]
  split <;> rfl

@[simp] theorem learnPeer_inbound : (bridge.learnPeer source).inbound = bridge.inbound := by
  rw [learnPeer]
  split <;> rfl

@[simp] theorem learnPeer_counters : (bridge.learnPeer source).counters = bridge.counters := by
  rw [learnPeer]
  split <;> rfl

@[simp] theorem learnPeer_seqGap (seq : UInt16) :
    (bridge.learnPeer source).seqGap seq = bridge.seqGap seq := by
  rw [learnPeer]
  split <;> rfl

end Counting

end Bridge

/-- Sending to a queue always succeeds, and costs the oldest item exactly when there is no room. -/
theorem queueSendDropOldest_spec {depth : Nat} (some_depth : 0 < depth)
    (queue : BoundedQueue depth (List UInt8)) (item : List UInt8) :
    (queueSendDropOldest queue item).2.2 = true ∧
      (((queueSendDropOldest queue item).2.1 = false ∧
          (queueSendDropOldest queue item).1.items = queue.items ++ [item]) ∨
        ∃ oldest rest, queue.items = oldest :: rest ∧ queue.items.length = depth ∧
          (queueSendDropOldest queue item).2.1 = true ∧
          (queueSendDropOldest queue item).1.items = rest ++ [item]) := by
  by_cases room : queue.items.length < depth
  · obtain ⟨accepted, items⟩ := BoundedQueue.push_of_room queue room item
    have pushed : queue.push item = ((queue.push item).1, true) := Prod.ext rfl accepted
    rw [queueSendDropOldest, pushed]
    exact ⟨rfl, .inl ⟨rfl, items⟩⟩
  · -- A full queue has an oldest item, and room for another without it.
    rcases held : queue.items with - | ⟨oldest, rest⟩
    · rw [held] at room
      exact absurd some_depth room
    · obtain ⟨bounded, popped⟩ := BoundedQueue.pop_of_items held
      have smaller : rest.length < depth := by
        have full := queue.bounded
        rw [held, List.length_cons] at full
        omega
      obtain ⟨accepted, items⟩ :=
        BoundedQueue.push_of_room ⟨rest, bounded⟩ smaller item
      have sent : queueSendDropOldest queue item =
          ((BoundedQueue.push ⟨rest, bounded⟩ item).1, true,
            (BoundedQueue.push ⟨rest, bounded⟩ item).2) := by
        rw [queueSendDropOldest, BoundedQueue.push_of_full (Nat.not_lt.mp room)]
        simp only [popped]
      rw [sent]
      have full : (oldest :: rest).length = depth :=
        Nat.le_antisymm (held ▸ queue.bounded) (held ▸ Nat.not_lt.mp room)
      exact ⟨accepted, .inr ⟨oldest, rest, rfl, full, rfl, items⟩⟩

end Veloxity
