import Veloxity.Tools.Bridge

/-! What a radio bridge takes from the air: exactly the packets of its peer. -/

namespace Veloxity

open Library

namespace Bridge

variable {config : BridgeConfig} {crc16Le : UInt16 → List UInt8 → UInt16} {role : BridgeRole}

/-- A bridge listens to its peer, or to anyone while it may still learn who that is. -/
def Admits (bridge : Bridge config) (source : MacAddress) : Prop :=
  if bridge.peer.learned then source = bridge.peer.mac else config.autoLearn = true

/-- A packet was not taken: nothing but counters of other packets has changed. -/
structure Refused (bridge next : Bridge config) : Prop where
  peer : next.peer = bridge.peer
  txSeq : next.txSeq = bridge.txSeq
  lastRxSeq : next.lastRxSeq = bridge.lastRxSeq
  outbound : next.outbound = bridge.outbound
  inbound : next.inbound = bridge.inbound
  rxPackets : next.counters.rxPackets = bridge.counters.rxPackets
  rxSeqGaps : next.counters.rxSeqGaps = bridge.counters.rxSeqGaps

/-- A packet was taken: its payload is queued, its sender is the peer and its number is noted. -/
structure Accepted (bridge : Bridge config) (source : MacAddress) (seq : UInt16)
    (payload : List UInt8) (next : Bridge config) : Prop where
  peer : next.peer = if bridge.peer.learned then bridge.peer else ⟨source, true, false⟩
  txSeq : next.txSeq = bridge.txSeq
  lastRxSeq : next.lastRxSeq = some seq
  outbound : next.outbound = bridge.outbound
  inbound : DropsOldest bridge.inbound.items payload next.inbound.items
  room : bridge.inbound.items.length < config.queueDepth →
    next.inbound.items = bridge.inbound.items ++ [payload]
  rxPackets : next.counters.rxPackets = bridge.counters.rxPackets + 1
  rxSeqGaps : next.counters.rxSeqGaps =
    if bridge.seqGap seq then bridge.counters.rxSeqGaps + 1 else bridge.counters.rxSeqGaps

/-- Queuing a payload always succeeds. -/
theorem takePayload_spec (bridge : Bridge config) (packet : BridgePacket)
    (whole : packet.payload.take packet.len.toNat = packet.payload) :
    (bridge.takePayload packet).peer = bridge.peer ∧
      (bridge.takePayload packet).txSeq = bridge.txSeq ∧
      (bridge.takePayload packet).lastRxSeq = bridge.lastRxSeq ∧
      (bridge.takePayload packet).outbound = bridge.outbound ∧
      DropsOldest bridge.inbound.items packet.payload
        (bridge.takePayload packet).inbound.items ∧
      (bridge.inbound.items.length < config.queueDepth →
        (bridge.takePayload packet).inbound.items = bridge.inbound.items ++ [packet.payload]) ∧
      (bridge.takePayload packet).counters.rxPackets = bridge.counters.rxPackets + 1 ∧
      (bridge.takePayload packet).counters.rxSeqGaps = bridge.counters.rxSeqGaps := by
  have deep : 0 < config.queueDepth := by have := config.some_depth; omega
  obtain ⟨sent, taken⟩ := queueSendDropOldest_spec deep bridge.inbound packet.payload
  -- The second attempt finds the room that the first one made.
  simp only [takePayload, whole, sent, if_true]
  refine ⟨by simp, by simp, by simp, by simp, ?_, fun room => ?_, ?_, ?_⟩
  · rw [count_inbound, countDrop_inbound]
    rcases taken with ⟨_, items⟩ | ⟨oldest, rest, held, _, _, items⟩
    · exact .inl items
    · exact .inr ⟨oldest, rest, held, items⟩
  · rw [count_inbound, countDrop_inbound]
    rcases taken with ⟨_, items⟩ | ⟨_, _, _, full, _⟩
    · exact items
    · exact absurd full room.ne
  · cases (queueSendDropOldest bridge.inbound packet.payload).2.1 <;> rfl
  · cases (queueSendDropOldest bridge.inbound packet.payload).2.1 <;> rfl

/-- A packet that is taken is one the peer built around a payload that fits, from a sender the
bridge listens to; any other one is refused. -/
theorem recvCb_cases (crc16Le : UInt16 → List UInt8 → UInt16) (role : BridgeRole)
    (bridge : Bridge config) (source : MacAddress) (data : List UInt8) :
    (Refused bridge (bridge.recvCb crc16Le role source data) ∧
        ¬ (bridge.Admits source ∧ ∃ seq payload, payload.length ≤ config.payloadMax ∧
          data = (BridgePacket.build crc16Le role.peer seq payload).bytes)) ∨
      (bridge.Admits source ∧ ∃ seq payload, payload.length ≤ config.payloadMax ∧
        data = (BridgePacket.build crc16Le role.peer seq payload).bytes ∧
        Accepted bridge source seq payload (bridge.recvCb crc16Le role source data)) := by
  cases inspected : BridgePacket.inspect crc16Le config role data with
  | error refusal =>
    refine .inl ⟨?_, ?_⟩
    · cases refusal <;> simp only [recvCb, inspected] <;> exact ⟨rfl, rfl, rfl, rfl, rfl, rfl, rfl⟩
    · -- A packet of the peer would have passed.
      rintro ⟨_, seq, payload, fits, rfl⟩
      rw [BridgePacket.inspect_build fits] at inspected
      cases inspected
  | ok packet =>
    obtain ⟨seq, payload, fits, rfl, rfl⟩ := BridgePacket.inspect_eq_ok_iff.mp inspected
    have whole : (BridgePacket.build crc16Le role.peer seq payload).payload.take
        (BridgePacket.build crc16Le role.peer seq payload).len.toNat = payload := by
      show payload.take (UInt16.ofNat payload.length).toNat = payload
      rw [BridgePacket.toNat_len fits, List.take_length]
    by_cases stranger : (bridge.peer.learned ∧ source ≠ bridge.peer.mac) ∨
        (¬ bridge.peer.learned ∧ ¬ config.autoLearn)
    · refine .inl ⟨?_, ?_⟩
      · simp only [recvCb, inspected, if_pos stranger]
        exact ⟨rfl, rfl, rfl, rfl, rfl, rfl, rfl⟩
      · rintro ⟨admitted, _⟩
        simp only [Admits] at admitted
        split at admitted <;> simp_all
    · have admitted : bridge.Admits source := by
        simp only [Admits]
        split <;> simp_all
      refine .inr ⟨admitted, seq, payload, fits, rfl, ?_⟩
      simp only [recvCb, inspected, if_neg stranger]
      -- The bridge before the payload is queued differs in its peer and the noted number only.
      obtain ⟨peer, txSeq, lastRxSeq, outbound, inbound, room, rxPackets, rxSeqGaps⟩ :=
        takePayload_spec ((bridge.learnPeer source).noteSeq seq)
          (BridgePacket.build crc16Le role.peer seq payload) whole
      rw [noteSeq_peer, learnPeer_peer] at peer
      rw [noteSeq_txSeq, learnPeer_txSeq] at txSeq
      rw [noteSeq_outbound, learnPeer_outbound] at outbound
      rw [noteSeq_inbound, learnPeer_inbound] at inbound room
      rw [noteSeq_rxPackets, learnPeer_counters] at rxPackets
      rw [noteSeq_rxSeqGaps, learnPeer_seqGap, learnPeer_counters] at rxSeqGaps
      exact ⟨peer, txSeq, lastRxSeq, outbound, inbound, room, rxPackets, rxSeqGaps⟩

/-- What a queue has taken stands at its end. -/
theorem getLast?_of_dropsOldest {α : Type} {before after : List α} {item : α}
    (taken : DropsOldest before item after) : after.getLast? = some item := by
  rcases taken with rfl | ⟨_, _, _, rfl⟩
  · exact List.getLast?_concat
  · exact List.getLast?_concat

/-- A packet is taken with one number and one payload only. -/
theorem Accepted.unique {bridge next : Bridge config} {source other : MacAddress}
    {seq later : UInt16} {payload rest : List UInt8}
    (first : Accepted bridge source seq payload next)
    (second : Accepted bridge other later rest next) : seq = later ∧ payload = rest := by
  have number := first.lastRxSeq.symm.trans second.lastRxSeq
  -- The number is the last one noted, and the payload the last one queued.
  have queued := (getLast?_of_dropsOldest first.inbound).symm.trans
    (getLast?_of_dropsOldest second.inbound)
  exact ⟨Option.some.inj number, Option.some.inj queued⟩

/-- A refused packet is not one that was taken. -/
theorem Refused.not_accepted {bridge next : Bridge config} {source : MacAddress} {seq : UInt16}
    {payload : List UInt8} (refused : Refused bridge next) :
    ¬ Accepted bridge source seq payload next := by
  intro accepted
  have same := congrArg UInt32.toNat (refused.rxPackets.symm.trans accepted.rxPackets)
  have := bridge.counters.rxPackets.toNat_lt
  -- Counting one more packet changes the counter, even where it starts again.
  simp only [UInt32.toNat_add, UInt32.reduceToNat] at same
  omega

/-- A bridge takes a packet with a number and a payload exactly if it listens to the sender and the
bytes are what the other end builds from that number and that payload, and the payload fits; a
packet that is no such one is refused and leaves no trace but in the counters. -/
theorem recvCb_takes_iff (bridge : Bridge config) (source : MacAddress) (data : List UInt8) :
    (∀ seq payload,
      Accepted bridge source seq payload (bridge.recvCb crc16Le role source data) ↔
        bridge.Admits source ∧ payload.length ≤ config.payloadMax ∧
          data = (BridgePacket.build crc16Le role.peer seq payload).bytes) ∧
    ((∀ seq payload, ¬ (bridge.Admits source ∧ payload.length ≤ config.payloadMax ∧
        data = (BridgePacket.build crc16Le role.peer seq payload).bytes)) →
      Refused bridge (bridge.recvCb crc16Le role source data)) := by
  -- A packet that is taken shows the number and the payload it was built from.
  rcases recvCb_cases crc16Le role bridge source data with
    ⟨refused, foreign⟩ | ⟨admitted, seq, payload, fits, built, accepted⟩
  · refine ⟨fun seq payload => iff_of_false refused.not_accepted ?_, fun _ => refused⟩
    rintro ⟨admitted, fits, built⟩
    exact foreign ⟨admitted, seq, payload, fits, built⟩
  · refine ⟨fun other rest => ⟨fun taken => ?_, ?_⟩, fun foreign => ?_⟩
    · obtain ⟨rfl, rfl⟩ := accepted.unique taken
      exact ⟨admitted, fits, built⟩
    · rintro ⟨_, also, same⟩
      have read : BridgePacket.inspect crc16Le config role data =
          .ok (BridgePacket.build crc16Le role.peer other rest) := by
        rw [same, BridgePacket.inspect_build also]
      rw [built, BridgePacket.inspect_build fits] at read
      -- The same bytes are built from one number and one payload.
      obtain rfl : seq = other := congrArg BridgePacket.seq (Except.ok.inj read)
      obtain rfl : payload = rest := congrArg BridgePacket.payload (Except.ok.inj read)
      exact accepted
    · exact absurd ⟨admitted, fits, built⟩ (foreign seq payload)

end Bridge

end Veloxity
