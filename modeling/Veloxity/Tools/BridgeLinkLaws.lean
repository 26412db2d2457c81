import Veloxity.Tools.BridgeLink
import Veloxity.Tools.BridgeReceive

/-! Packets cross a radio link in order: none is altered, repeated or made up, and each that does
not arrive is counted as lost. -/

namespace Veloxity

open Library

namespace PackerScan

variable {emit : List UInt8 → Bool} {limit : Nat} {scan next : PackerScan}

/-- The packets handed out are neither empty nor too long, and the one being filled has room. -/
structure Tidy (limit : Nat) (scan : PackerScan) : Prop where
  limited : scan.packer.maxPacketLen = limit
  filling : scan.packer.packet.length ≤ limit
  emitted : ∀ packet ∈ scan.emitted, packet ≠ [] ∧ packet.length ≤ limit

/-- A packet that is not empty can be handed out. -/
theorem Tidy.sent (tidy : Tidy limit scan) (filled : scan.packer.packet ≠ []) :
    Tidy limit (scan.sent emit) where
  -- The packet handed out is the one being filled, which is neither empty nor too long.
  limited := tidy.limited
  filling := Nat.zero_le _
  emitted := by
    intro packet member
    rcases List.mem_append.mp member with before | last
    · exact tidy.emitted packet before
    · rw [List.mem_singleton.mp last]
      exact ⟨filled, tidy.filling⟩

/-- Making room for a frame hands out a packet at most. -/
theorem Tidy.makeRoom (tidy : Tidy limit scan) (emit : List UInt8 → Bool) (frameLen : Nat) :
    Tidy limit (scan.makeRoom emit frameLen) ∧
      scan.emitted <+: (scan.makeRoom emit frameLen).emitted := by
  rw [PackerScan.makeRoom]
  -- A packet is handed out only if the frame does not fit behind what it holds.
  split
  · rename_i full
    exact ⟨tidy.sent (List.ne_nil_of_length_pos full.1), List.prefix_append _ _⟩
  · exact ⟨tidy, List.prefix_refl _⟩

/-- A step of the scan keeps its packets tidy and takes none of them back. -/
theorem Tidy.step (tidy : Tidy limit scan) (stepped : scan.step emit = some next) :
    Tidy limit next ∧ scan.emitted <+: next.emitted := by
  rcases step_cases stepped with
    ⟨first, rest, received, noise, rfl⟩ |
      ⟨second, rest, received, ⟨header, oversized, rfl⟩ | ⟨fits, whole, rfl⟩⟩
  · exact ⟨⟨tidy.limited, tidy.filling, tidy.emitted⟩, List.prefix_refl _⟩
  · exact ⟨⟨tidy.limited, tidy.filling, tidy.emitted⟩, List.prefix_refl _⟩
  · obtain ⟨roomy, grown⟩ := tidy.makeRoom emit (frameLength second)
    -- There is room for the frame behind those in the packet.
    have room : (scan.makeRoom emit (frameLength second)).packer.packet.length +
        frameLength second ≤ scan.packer.maxPacketLen := makeRoom_fits fits
    refine ⟨⟨roomy.limited, ?_, roomy.emitted⟩, grown⟩
    rw [tidy.limited] at room
    simp only [packed, List.length_append, List.length_take]
    omega

/-- The packets stay tidy wherever the scan leads. -/
theorem Tidy.reaches (tidy : Tidy limit scan) (reached : Reaches (PackerScan.step emit) scan next) :
    Tidy limit next ∧ scan.emitted <+: next.emitted := by
  -- One step after the other keeps the packets tidy and adds to them at the end.
  induction reached with
  | refl => exact ⟨tidy, List.prefix_refl _⟩
  | tail _ stepped ih =>
    obtain ⟨here, grown⟩ := ih
    obtain ⟨later, more⟩ := here.step stepped
    exact ⟨later, grown.trans more⟩

/-- More bytes change no packet. -/
theorem Tidy.feed (tidy : Tidy limit scan) (bytes : List UInt8) : Tidy limit (scan.feed bytes) :=
  ⟨tidy.limited, tidy.filling, tidy.emitted⟩

end PackerScan

namespace WaitingPacker

variable {config : BridgeConfig} (packer : WaitingPacker config)

/-- Pushed bytes are scanned as far as they reach. -/
theorem scan_push (bytes : List UInt8) :
    Reaches (PackerScan.step (Bridge.enqueueAccepts config)) (packer.packing.scan.feed bytes)
      (packer.push bytes).packing.scan := by
  obtain ⟨last, accepted, settled, _⟩ := Packing.push_spec _ packer.sound packer.waits bytes
  -- The push is the one that is known to succeed.
  rw [push]
  split
  · rename_i packing pushed
    obtain rfl := Except.ok.inj (pushed.symm.trans accepted)
    exact settled.1
  · rename_i fault pushed
    cases pushed.symm.trans accepted

/-- The packets a packer has handed out are tidy. -/
def Tidy (packer : WaitingPacker config) : Prop :=
  PackerScan.Tidy config.payloadMax packer.packing.scan

/-- A packer starts tidy. -/
theorem start_tidy : (start : WaitingPacker config).Tidy where
  limited := if_neg (Nat.not_lt.mpr config.payload_fits)
  filling := Nat.zero_le _
  emitted := fun _ absent => absurd absent List.not_mem_nil

variable {packer}

/-- Pushing adds packets behind those handed out before. -/
theorem Tidy.push (tidy : packer.Tidy) (bytes : List UInt8) :
    (packer.push bytes).Tidy ∧ packer.packing.emitted <+: (packer.push bytes).packing.emitted :=
  (PackerScan.Tidy.feed tidy bytes).reaches (packer.scan_push bytes)

/-- Flushing adds a packet at most. -/
theorem Tidy.flush (tidy : packer.Tidy) :
    packer.flush.Tidy ∧ packer.packing.emitted <+: packer.flush.packing.emitted := by
  -- An empty packet is not handed out; another one is handed out whole.
  by_cases empty : packer.packing.packer.packet = []
  · have same : packer.packing.flush (Bridge.enqueueAccepts config) = packer.packing := by
      rw [Packing.flush, if_pos (by rw [empty]; rfl)]
    simp only [WaitingPacker.flush, Tidy, same]
    exact ⟨tidy, List.prefix_refl _⟩
  · obtain ⟨shown, _⟩ := Packing.flush_spec (Bridge.enqueueAccepts config) packer.sound
      (List.length_pos_of_ne_nil empty)
    refine ⟨?_, ?_⟩
    · show PackerScan.Tidy _ _
      rw [WaitingPacker.flush, shown]
      exact PackerScan.Tidy.sent tidy empty
    · have emitted := congrArg PackerScan.emitted shown
      exact ⟨[packer.packing.packer.packet], emitted.symm⟩

end WaitingPacker

/-- The payload of a packet on the air. -/
def RadioFrame.payload (frame : RadioFrame) : List UInt8 :=
  frame.data.drop bridgePacketHeaderLen

/-- The bytes behind the header of a built packet are its payload. -/
theorem payload_build (crc16Le : UInt16 → List UInt8 → UInt16) (role : BridgeRole)
    (target : MacAddress) (seq : UInt16) (payload : List UInt8) :
    RadioFrame.payload ⟨target, (BridgePacket.build crc16Le role seq payload).bytes⟩ = payload := by
  show ((BridgePacket.build crc16Le role seq payload).header ++ payload).drop _ = payload
  rw [List.drop_left' (BridgePacket.length_header _)]

namespace Bridge

variable {config : BridgeConfig} (crc16Le : UInt16 → List UInt8 → UInt16) (role : BridgeRole)

/-- A packet of the packer goes into the queue, or takes its oldest packet's place. -/
theorem enqueueLocalFrame_spec (bridge : Bridge config) {packet : List UInt8} (some : packet ≠ [])
    (fits : packet.length ≤ config.payloadMax) :
    DropsOldest bridge.outbound.items packet (bridge.enqueueLocalFrame packet).1.outbound.items ∧
      (bridge.enqueueLocalFrame packet).1.inbound = bridge.inbound ∧
      (bridge.enqueueLocalFrame packet).1.peer = bridge.peer := by
  have deep : 0 < config.queueDepth := by have := config.some_depth; omega
  obtain ⟨sent, taken⟩ := queueSendDropOldest_spec deep bridge.outbound packet
  have accepted : ¬ (packet.length = 0 ∨ config.payloadMax < packet.length) := by
    have := List.length_pos_of_ne_nil some
    omega
  simp only [enqueueLocalFrame, if_neg accepted, sent, if_true]
  refine ⟨?_, by simp, by simp⟩
  rw [countDrop_outbound]
  -- What was dropped, if anything, was the oldest packet.
  rcases taken with ⟨_, items⟩ | ⟨oldest, rest, held, _, _, items⟩
  · exact .inl items
  · exact .inr ⟨oldest, rest, held, items⟩

/-- With nothing queued, nothing is sent. -/
theorem espnowTxTask_of_none {bridge : Bridge config} (popped : bridge.outbound.pop = none)
    (answers : RadioAnswers) : bridge.espnowTxTask crc16Le role answers = (bridge, none) := by
  rw [espnowTxTask, popped]

/-- The oldest queued packet is the one that is sent. -/
theorem espnowTxTask_of_some {bridge : Bridge config} {item : List UInt8}
    {outbound : BoundedQueue config.queueDepth (List UInt8)}
    (popped : bridge.outbound.pop = some (item, outbound)) (answers : RadioAnswers) :
    bridge.espnowTxTask crc16Le role answers =
      ({ bridge with outbound } : Bridge config).sendPayload crc16Le role item answers := by
  rw [espnowTxTask, popped]

section Sending

variable (bridge : Bridge config) (item : List UInt8) (answers : RadioAnswers)

@[simp] theorem sendPayload_outbound :
    (bridge.sendPayload crc16Le role item answers).1.outbound = bridge.outbound := by
  simp only [sendPayload]
  split <;> [rfl; split] <;> [rfl; split] <;> rfl

@[simp] theorem sendPayload_inbound :
    (bridge.sendPayload crc16Le role item answers).1.inbound = bridge.inbound := by
  simp only [sendPayload]
  split <;> [rfl; split] <;> [rfl; split] <;> rfl

@[simp] theorem sendPayload_lastRxSeq :
    (bridge.sendPayload crc16Le role item answers).1.lastRxSeq = bridge.lastRxSeq := by
  simp only [sendPayload]
  split <;> [rfl; split] <;> [rfl; split] <;> rfl

@[simp] theorem sendPayload_rxSeqGaps :
    (bridge.sendPayload crc16Le role item answers).1.counters.rxSeqGaps =
      bridge.counters.rxSeqGaps := by
  simp only [sendPayload]
  split <;> [rfl; split] <;> [rfl; split] <;> rfl

/-- Sending may register the peer, but keeps who it is. -/
theorem sendPayload_peer :
    (bridge.sendPayload crc16Le role item answers).1.peer.mac = bridge.peer.mac ∧
      (bridge.sendPayload crc16Le role item answers).1.peer.learned = bridge.peer.learned := by
  -- Registering sets a flag of the peer and nothing else.
  have registered : (if bridge.peer.learned = true then
      { bridge.peer with registered := true } else bridge.peer).mac = bridge.peer.mac ∧
      (if bridge.peer.learned = true then
        { bridge.peer with registered := true } else bridge.peer).learned =
          bridge.peer.learned := by
    split <;> exact ⟨rfl, rfl⟩
  simp only [sendPayload]
  split <;> [exact ⟨rfl, rfl⟩; split] <;> [exact registered; split] <;> exact registered

/-- A payload is refused before it has a number or with one, or is on the air under its number. -/
theorem sendPayload_cases :
    ((bridge.sendPayload crc16Le role item answers).2 = none ∧
      ((bridge.sendPayload crc16Le role item answers).1.txSeq = bridge.txSeq ∨
        (bridge.sendPayload crc16Le role item answers).1.txSeq = bridge.txSeq + 1)) ∨
    ((bridge.sendPayload crc16Le role item answers).2 =
        some ⟨if bridge.peer.learned then bridge.peer.mac else broadcastMac,
          (BridgePacket.build crc16Le role bridge.txSeq item).bytes⟩ ∧
      (bridge.sendPayload crc16Le role item answers).1.txSeq = bridge.txSeq + 1) := by
  simp only [sendPayload]
  -- A peer that cannot be added stops the payload first, then the radio may refuse the packet.
  split
  · exact .inl ⟨rfl, .inl rfl⟩
  · split
    · exact .inl ⟨rfl, .inr rfl⟩
    · split <;> exact .inr ⟨rfl, rfl⟩

end Sending

/-- With nothing received, nothing is written. -/
theorem localTxTask_of_none {bridge : Bridge config} (popped : bridge.inbound.pop = none)
    (writable : Nat) : bridge.localTxTask writable = (bridge, [], true) := by
  rw [localTxTask, popped]

section Writing

variable {bridge : Bridge config} {item : List UInt8}
  {inbound : BoundedQueue config.queueDepth (List UInt8)}

/-- Writing changes only the queue it takes from, and counters. -/
theorem localTxTask_frame (popped : bridge.inbound.pop = some (item, inbound)) (writable : Nat) :
    (bridge.localTxTask writable).1.outbound = bridge.outbound ∧
      (bridge.localTxTask writable).1.inbound = inbound ∧
      (bridge.localTxTask writable).1.peer = bridge.peer ∧
      (bridge.localTxTask writable).1.txSeq = bridge.txSeq ∧
      (bridge.localTxTask writable).1.lastRxSeq = bridge.lastRxSeq ∧
      (bridge.localTxTask writable).1.counters.rxSeqGaps = bridge.counters.rxSeqGaps := by
  rw [localTxTask, popped]
  dsimp only
  split <;> exact ⟨rfl, rfl, rfl, rfl, rfl, rfl⟩

/-- A port that takes a packet whole or not at all takes it whole or loses it. -/
theorem localTxTask_output (popped : bridge.inbound.pop = some (item, inbound)) (writable : Nat)
    (orderly : writable = 0 ∨ item.length ≤ writable) :
    (bridge.localTxTask writable).2 = (item, true) ∨
      (bridge.localTxTask writable).2 = ([], false) := by
  rw [localTxTask, popped]
  dsimp only
  by_cases fits : item.length ≤ writable
  · rw [List.take_of_length_le fits, if_pos rfl]
    exact .inl rfl
  · -- A port that does not take all takes nothing.
    have nothing : writable = 0 := by omega
    rw [nothing, List.take_zero, if_neg (by simp only [List.length_nil]; omega)]
    exact .inr rfl

end Writing

end Bridge

end Veloxity
