import Veloxity.Library.Passage
import Veloxity.Tools.BridgeLinkLaws

/-! Whatever happens on a radio link, each direction passes packets on in order. -/

namespace Veloxity

open Library

namespace BridgeRole

@[simp] theorem ne_peer (role : BridgeRole) : role ≠ role.peer := role.peer_ne.symm

/-- A role is another one or its peer. -/
theorem eq_or_eq_peer (one other : BridgeRole) : one = other ∨ one = other.peer := by
  cases one <;> cases other <;> simp [peer]

end BridgeRole

/-- The checksum that the ROM of the radio computes, as its documentation has it. -/
def espCrc16Le (crc : UInt16) (bytes : List UInt8) : UInt16 :=
  let turn := fun (crc : UInt16) (_ : Nat) =>
    if crc &&& 1 = 1 then (crc >>> 1) ^^^ 0x8408 else crc >>> 1
  ~~~ bytes.foldl (fun crc byte => (List.range 8).foldl turn (crc ^^^ byte.toUInt16)) (~~~ crc)

namespace RadioLink

variable {config : BridgeConfig}

/-- The passage of packets from a bridge to the local port of its peer. -/
def passage (link : RadioLink config) (role : BridgeRole) : Passage (List UInt8) where
  entered := (link.station role).packer.packing.emitted
  waiting := (link.station role).pending
  first := (link.station role).bridge.outbound.items
  between := (link.air role).map RadioFrame.payload
  second := (link.station role.peer).bridge.inbound.items
  delivered := (link.station role.peer).written
  lost := link.lost role

section Passages

variable (link : RadioLink config) (role : BridgeRole)

theorem passage_setStation (station : BridgeStation config) :
    (link.setStation role station).passage role = { link.passage role with
      entered := station.packer.packing.emitted
      waiting := station.pending
      first := station.bridge.outbound.items } := by
  simp [passage]

theorem passage_peer_setStation (station : BridgeStation config) :
    (link.setStation role station).passage role.peer = { link.passage role.peer with
      second := station.bridge.inbound.items
      delivered := station.written } := by
  simp [passage]

theorem passage_setAir (frames : List RadioFrame) :
    (link.setAir role frames).passage role = { link.passage role with
      between := frames.map RadioFrame.payload } := by
  simp [passage]

theorem passage_peer_setAir (frames : List RadioFrame) :
    (link.setAir role frames).passage role.peer = link.passage role.peer := by
  simp [passage]

theorem passage_lose (packets : Nat) :
    (link.lose role packets).passage role = { link.passage role with
      lost := (link.passage role).lost + packets } := by
  simp [passage]

theorem passage_peer_lose (packets : Nat) :
    (link.lose role packets).passage role.peer = link.passage role.peer := by
  simp [passage]

end Passages

/-- A direction moves if the other one keeps still. -/
theorem moves_of_one {link next : RadioLink config} (role : BridgeRole)
    (moved : (link.passage role).Moves (next.passage role))
    (still : next.passage role.peer = link.passage role.peer) (direction : BridgeRole) :
    (link.passage direction).Moves (next.passage direction) := by
  rcases direction.eq_or_eq_peer role with rfl | rfl
  · exact moved
  · rw [still]
    exact .rest

section Laws

variable (crc16Le : UInt16 → List UInt8 → UInt16) (macs : BridgeRole → MacAddress)

/-- A packet on the air is one that its sender built around a fitting payload for its peer. -/
structure Aired (config : BridgeConfig) (role : BridgeRole) (frame : RadioFrame) : Prop where
  target : frame.target = broadcastMac ∨ frame.target = macs role.peer
  built : ∃ seq payload, payload.length ≤ config.payloadMax ∧
    frame.data = (BridgePacket.build crc16Le role seq payload).bytes

/-- What is always true of two bridges and the air between them. -/
structure Sound (link : RadioLink config) : Prop where
  tidy : ∀ role, (link.station role).packer.Tidy
  orderly : ∀ role, (link.passage role).Orderly
  aired : ∀ role, ∀ frame ∈ link.air role, Aired crc16Le macs config role frame
  peers : ∀ role, (link.station role).bridge.peer.learned = true →
    (link.station role).bridge.peer.mac = macs role.peer

/-- Two bridges that have just been started are sound. -/
theorem start_sound (peerMacs : BridgeRole → MacAddress) :
    Sound crc16Le macs (start peerMacs : RadioLink config) where
  tidy _ := WaitingPacker.start_tidy
  orderly _ := Passage.orderly_empty
  aired _ _ absent := absurd absent List.not_mem_nil
  peers _ learned := by cases learned

variable {crc16Le macs} {link : RadioLink config}

/-- The packets on their way are those of the packer, none of them empty or too long. -/
theorem Sound.fits (sound : Sound crc16Le macs link) (role : BridgeRole) :
    ∀ packet ∈ (link.passage role).held, packet ≠ [] ∧ packet.length ≤ config.payloadMax :=
  (sound.orderly role).forall_held (sound.tidy role).emitted

/-- The packets written at one port are among those packed at the other, and with no packet lost
they are the first ones. -/
theorem Sound.written (sound : Sound crc16Le macs link) (role : BridgeRole) :
    (link.station role.peer).written.Sublist (link.station role).packer.packing.emitted ∧
      (link.lost role = 0 →
        (link.station role.peer).written <+: (link.station role).packer.packing.emitted) := by
  -- Without a loss nothing is missing between what was written and what was packed.
  have passed := sound.orderly role
  refine ⟨passed.delivered_sublist, ?_⟩
  intro lossless
  have whole : (link.passage role).lost = 0 := lossless
  rw [Passage.Orderly, whole] at passed
  exact ⟨_, passed.eq_of_lossless⟩

/-- A change of one station leaves the link sound if its packer stays tidy, its peer is the one it
should be, and the packets only move. -/
theorem Sound.of_moves (sound : Sound crc16Le macs link) {next : RadioLink config}
    (role : BridgeRole) {station : BridgeStation config}
    (changed : next.station = Function.update link.station role station)
    (tidy : station.packer.Tidy)
    (peers : station.bridge.peer.learned = true → station.bridge.peer.mac = macs role.peer)
    (aired : ∀ direction, ∀ frame ∈ next.air direction, Aired crc16Le macs config direction frame)
    (moved : ∀ direction, (link.passage direction).Moves (next.passage direction)) :
    Sound crc16Le macs next ∧
      ∀ direction, (link.passage direction).Moves (next.passage direction) := by
  -- The changed station keeps its promises by assumption, and the other one is as it was.
  refine ⟨⟨?_, fun direction => (sound.orderly direction).moves (moved direction), aired, ?_⟩,
    moved⟩
  · intro direction
    rcases direction.eq_or_eq_peer role with rfl | rfl
    · simpa [changed] using tidy
    · simpa [changed] using sound.tidy role.peer
  · intro direction
    rcases direction.eq_or_eq_peer role with rfl | rfl
    · simpa [changed] using peers
    · simpa [changed] using sound.peers role.peer

/-- Packets that a packer hands out wait for the queue in front of the air. -/
theorem moves_packer {role : BridgeRole} {packer : WaitingPacker config}
    (station : BridgeStation config) (none_waits : (link.station role).pending = [])
    (grown : (link.station role).packer.packing.emitted <+: packer.packing.emitted)
    (packs : station.packer = packer)
    (pending : station.pending =
      packer.packing.emitted.drop (link.station role).packer.packing.emitted.length)
    (outbound : station.bridge.outbound = (link.station role).bridge.outbound)
    (inbound : station.bridge.inbound = (link.station role).bridge.inbound)
    (written : station.written = (link.station role).written) :
    ∀ direction,
      (link.passage direction).Moves ((link.setStation role station).passage direction) := by
  obtain ⟨items, entered⟩ := grown
  -- What was handed out since is what waits now.
  have waiting : station.pending = items := by rw [pending, ← entered, List.drop_left]
  refine moves_of_one role ?_ ?_
  · rw [passage_setStation, packs, ← entered, waiting, outbound]
    exact .enter items none_waits
  · rw [passage_peer_setStation, inbound, written]
    simp [passage]

/-- Reading the local port leaves the link sound, and moves its packets as they may. -/
theorem step_localRead (sound : Sound crc16Le macs link) (role : BridgeRole) (bytes : List UInt8) :
    Sound crc16Le macs (link.step crc16Le macs (.localRead role bytes)) ∧
      ∀ direction, (link.passage direction).Moves
        ((link.step crc16Le macs (.localRead role bytes)).passage direction) := by
  simp only [step]
  -- A packer that waits for the queue reads nothing.
  split
  · exact ⟨sound, fun _ => .rest⟩
  · rename_i reads
    obtain ⟨_, none_waits⟩ := not_or.mp reads
    obtain ⟨tidy, grown⟩ := (sound.tidy role).push bytes
    -- What the packer has handed out since enters the passage behind what was there.
    have moved := moves_packer { link.station role with
        bridge := ((link.station role).bridge.count fun counters => { counters with
          localRxBytes := counters.localRxBytes + UInt32.ofNat bytes.length }).copyPackerCounts
            ((link.station role).packer.push bytes).packing.packer
        packer := (link.station role).packer.push bytes
        pending := ((link.station role).packer.push bytes).packing.emitted.drop
          (link.station role).packer.packing.emitted.length
        read := (link.station role).read ++ bytes }
      (not_not.mp none_waits) grown rfl rfl rfl rfl rfl
    exact sound.of_moves role rfl tidy (sound.peers role) sound.aired moved

/-- So does a local port that has fallen idle. -/
theorem step_localIdle (sound : Sound crc16Le macs link) (role : BridgeRole) :
    Sound crc16Le macs (link.step crc16Le macs (.localIdle role)) ∧
      ∀ direction, (link.passage direction).Moves
        ((link.step crc16Le macs (.localIdle role)).passage direction) := by
  simp only [step]
  -- A packer that waits for the queue is not flushed.
  split
  · exact ⟨sound, fun _ => .rest⟩
  · rename_i none_waits
    obtain ⟨tidy, grown⟩ := (sound.tidy role).flush
    -- A packet that flushing hands out enters the passage.
    have moved := moves_packer { link.station role with
        bridge := (link.station role).bridge.copyPackerCounts
          (link.station role).packer.flush.packing.packer
        packer := (link.station role).packer.flush
        pending := (link.station role).packer.flush.packing.emitted.drop
          (link.station role).packer.packing.emitted.length }
      (not_not.mp none_waits) grown rfl rfl rfl rfl rfl
    exact sound.of_moves role rfl tidy (sound.peers role) sound.aired moved

/-- So does queueing a packet that has been packed. -/
theorem step_queueFrame (sound : Sound crc16Le macs link) (role : BridgeRole) :
    Sound crc16Le macs (link.step crc16Le macs (.queueFrame role)) ∧
      ∀ direction, (link.passage direction).Moves
        ((link.step crc16Le macs (.queueFrame role)).passage direction) := by
  simp only [step]
  split
  · exact ⟨sound, fun _ => .rest⟩
  · rename_i packet pending waits
    -- The packet offered was handed out by the packer, so the bridge does not reject it.
    have member : packet ∈ (link.passage role).held := by
      simp [Passage.held, Passage.underWay, passage, waits]
    obtain ⟨some, fits⟩ := sound.fits role packet member
    obtain ⟨taken, inbound, peer⟩ :=
      (link.station role).bridge.enqueueLocalFrame_spec some fits
    refine sound.of_moves role rfl (sound.tidy role) ?_ sound.aired (moves_of_one role ?_ ?_)
    · simpa only [peer] using sound.peers role
    · rw [passage_lose, passage_setStation]
      exact .queue waits taken
    · rw [passage_peer_lose, passage_peer_setStation, inbound]
      simp [passage]

/-- The oldest queued packet goes on the air or is lost. -/
theorem moves_send {role : BridgeRole} (item : List UInt8) {bridge : Bridge config}
    (queued : (link.station role).bridge.outbound.items = item :: bridge.outbound.items)
    (inbound : bridge.inbound = (link.station role).bridge.inbound) {frame : Option RadioFrame}
    (carries : ∀ sent ∈ frame, sent.payload = item) :
    ∀ direction, (link.passage direction).Moves
      ((((link.setBridge role bridge).setAir role (link.air role ++ frame.toList)).lose role
        ((link.station role).bridge.outbound.items.length -
          (bridge.outbound.items.length + frame.toList.length))).passage direction) := by
  refine moves_of_one role ?_ ?_
  · rw [passage_lose, passage_setAir, setBridge, passage_setStation, queued, List.length_cons]
    -- A packet that is not sent is lost, and one that is sent goes on the air as it was queued.
    cases frame with
    | none =>
      have unsent : (link.passage role).Moves _ := .unsent queued
      simpa [passage, Nat.add_sub_cancel_left] using unsent
    | some sent =>
      have moved : (link.passage role).Moves _ := .send queued
      simpa [passage, carries sent rfl] using moved
  · rw [passage_peer_lose, passage_peer_setAir, setBridge, passage_peer_setStation, inbound]
    simp [passage]

/-- So does sending the oldest queued packet. -/
theorem step_sendNext (sound : Sound crc16Le macs link) (role : BridgeRole)
    (answers : RadioAnswers) :
    Sound crc16Le macs (link.step crc16Le macs (.sendNext role answers)) ∧
      ∀ direction, (link.passage direction).Moves
        ((link.step crc16Le macs (.sendNext role answers)).passage direction) := by
  cases popped : (link.station role).bridge.outbound.pop with
  | none =>
    have nothing := Bridge.espnowTxTask_of_none crc16Le role popped answers
    -- The step puts everything back where it was.
    have same : link.step crc16Le macs (.sendNext role answers) = link := by
      simp [step, nothing, setBridge, setStation, setAir, lose]
    rw [same]
    exact ⟨sound, fun _ => .rest⟩
  | some entry =>
    obtain ⟨item, outbound⟩ := entry
    have queued := BoundedQueue.items_of_pop popped
    have member : item ∈ (link.passage role).held := by
      simp [Passage.held, Passage.underWay, passage, queued]
    have fits : item.length ≤ config.payloadMax := (sound.fits role item member).2
    simp only [step, Bridge.espnowTxTask_of_some crc16Le role popped]
    generalize held : { (link.station role).bridge with outbound } = before
    obtain ⟨mac, learned⟩ := before.sendPayload_peer crc16Le role item answers
    -- What is put on the air carries the item, to the peer or to everyone.
    have aired : ∀ sent ∈ (before.sendPayload crc16Le role item answers).2,
        sent.payload = item ∧ Aired crc16Le macs config role sent := by
      intro sent onAir
      rcases before.sendPayload_cases crc16Le role item answers with
        ⟨refused, _⟩ | ⟨accepted, _⟩
      · rw [refused] at onAir
        cases onAir
      · rw [accepted] at onAir
        obtain rfl := Option.some.inj onAir
        refine ⟨payload_build _ _ _ _ _, ?_, before.txSeq, item, fits, rfl⟩
        subst held
        split
        · rename_i knows
          exact .inr (sound.peers role knows)
        · exact .inl rfl
    refine sound.of_moves role rfl (sound.tidy role) ?_ ?_
      (moves_send item ?_ ?_ fun sent onAir => (aired sent onAir).1)
    · subst held
      rw [mac, learned]
      exact sound.peers role
    · intro direction frame onAir
      rcases direction.eq_or_eq_peer role with rfl | rfl
      · simp only [lose_air, setAir_air, Function.update_self, List.mem_append,
          Option.mem_toList] at onAir
        exact onAir.elim (sound.aired direction frame) fun sent => (aired frame sent).2
      · exact sound.aired _ frame (by simpa [setBridge] using onAir)
    · subst held
      simpa using queued
    · subst held
      simp

/-- So does a report of the radio on a packet that it has sent. -/
theorem step_sendReport (sound : Sound crc16Le macs link) (role : BridgeRole) (success : Bool) :
    Sound crc16Le macs (link.step crc16Le macs (.sendReport role success)) ∧
      ∀ direction, (link.passage direction).Moves
        ((link.step crc16Le macs (.sendReport role success)).passage direction) := by
  -- A report only changes counters.
  refine sound.of_moves role rfl (sound.tidy role) (sound.peers role) sound.aired ?_
  refine moves_of_one role ?_ ?_
  · have same : (link.step crc16Le macs (.sendReport role success)).passage role =
        link.passage role := by
      simp only [step, setBridge, passage_setStation, Bridge.sendCb, Bridge.count_outbound]
      rfl
    rw [same]
    exact .rest
  · simp only [step, setBridge, passage_peer_setStation, Bridge.sendCb, Bridge.count_inbound]
    simp [passage]

/-- So does the loss of a packet on the air. -/
theorem step_vanish (sound : Sound crc16Le macs link) (role : BridgeRole) :
    Sound crc16Le macs (link.step crc16Le macs (.vanish role)) ∧
      ∀ direction, (link.passage direction).Moves
        ((link.step crc16Le macs (.vanish role)).passage direction) := by
  simp only [step]
  split
  · exact ⟨sound, fun _ => .rest⟩
  · rename_i frame rest onAir
    -- Both stations stay as they are, and the air of one direction loses its first packet.
    have same : (link.setAir role rest).station =
        Function.update link.station role (link.station role) := by simp
    refine sound.of_moves role same (sound.tidy role) (sound.peers role) ?_
      (moves_of_one role ?_ ?_)
    · intro direction other member
      rcases direction.eq_or_eq_peer role with rfl | rfl
      · refine sound.aired direction other ?_
        rw [onAir]
        exact List.mem_cons_of_mem _ (by simpa using member)
      · exact sound.aired _ other (by simpa using member)
    · rw [passage_lose, passage_setAir]
      exact .vanish
        (show (link.passage role).between = frame.payload :: rest.map RadioFrame.payload by
        simp [passage, onAir])
    · rw [passage_peer_lose, passage_peer_setAir]

/-- So does a packet of a stranger, once the peer is known. -/
theorem step_foreign (sound : Sound crc16Le macs link) {role : BridgeRole} {source : MacAddress}
    {data : List UInt8} (orderly : Orderly macs link (.foreign role source data)) :
    Sound crc16Le macs (link.step crc16Le macs (.foreign role source data)) ∧
      ∀ direction, (link.passage direction).Moves
        ((link.step crc16Le macs (.foreign role source data)).passage direction) := by
  obtain ⟨learned, stranger⟩ := orderly
  have refused : Bridge.Refused (link.station role).bridge
      ((link.station role).bridge.recvCb crc16Le role source data) := by
    rcases (link.station role).bridge.recvCb_cases crc16Le role source data with
      ⟨refused, _⟩ | ⟨admitted, _⟩
    · exact refused
    · -- A bridge that knows its peer does not listen to anyone else.
      rw [Bridge.Admits, if_pos learned, sound.peers role learned] at admitted
      exact absurd admitted stranger
  refine sound.of_moves role rfl (sound.tidy role) ?_ sound.aired (moves_of_one role ?_ ?_)
  · simpa only [refused.peer] using sound.peers role
  · have same : (link.step crc16Le macs (.foreign role source data)).passage role =
        link.passage role := by
      simp only [step, setBridge, passage_setStation, refused.outbound]
      rfl
    rw [same]
    exact .rest
  · simp only [step, setBridge, passage_peer_setStation, refused.inbound]
    simp [passage]

/-- The oldest packet received is delivered whole or lost. -/
theorem moves_write {role : BridgeRole} (item : List UInt8) {bridge : Bridge config}
    (arrived : (link.station role).bridge.inbound.items = item :: bridge.inbound.items)
    (outbound : bridge.outbound = (link.station role).bridge.outbound) (some : item ≠ [])
    {output : List UInt8 × Bool} (wrote : output = (item, true) ∨ output = ([], false)) :
    ∀ direction, (link.passage direction).Moves
      (((link.setStation role { link.station role with
        bridge
        written := if output.1 = [] then (link.station role).written
          else (link.station role).written ++ [output.1] }).lose role.peer
            (if output.2 then 0 else 1)).passage direction) := by
  -- The packet leaves the bridge; whether it is written decides if it counts as lost.
  have second : (link.passage role.peer).second = item :: bridge.inbound.items := by
    simpa [passage] using arrived
  refine moves_of_one role.peer ?_ ?_
  · rw [passage_lose, passage_peer_setStation]
    rcases wrote with rfl | rfl
    · have moved := Passage.Moves.deliver second
      simpa [some, passage] using moved
    · have moved := Passage.Moves.refuse second
      simpa [passage] using moved
  · rw [passage_peer_lose, BridgeRole.peer_peer, passage_setStation, outbound]
    rfl

/-- So does writing the oldest packet received to the local port. -/
theorem step_localWrite (sound : Sound crc16Le macs link) {role : BridgeRole} {writable : Nat}
    (orderly : Orderly macs link (.localWrite role writable)) :
    Sound crc16Le macs (link.step crc16Le macs (.localWrite role writable)) ∧
      ∀ direction, (link.passage direction).Moves
        ((link.step crc16Le macs (.localWrite role writable)).passage direction) := by
  -- Without a packet there is nothing to write.
  cases popped : (link.station role).bridge.inbound.pop with
  | none =>
    have same : link.step crc16Le macs (.localWrite role writable) = link := by
      simp [step, Bridge.localTxTask_of_none popped, setStation, lose]
    rw [same]
    exact ⟨sound, fun _ => .rest⟩
  | some entry =>
    obtain ⟨item, inbound⟩ := entry
    have arrived := BoundedQueue.items_of_pop popped
    have member : item ∈ (link.passage role.peer).held := by
      simp [Passage.held, Passage.underWay, passage, arrived]
    obtain ⟨outboundNow, inboundNow, peerNow, _⟩ :=
      Bridge.localTxTask_frame popped writable
    -- An orderly write takes the packet whole or not at all.
    have wrote := Bridge.localTxTask_output popped writable (orderly item (by rw [arrived]; rfl))
    refine sound.of_moves role rfl (sound.tidy role) ?_ sound.aired
      (moves_write item ?_ outboundNow (sound.fits role.peer item member).1 wrote)
    · have peers := sound.peers role
      rw [← peerNow] at peers
      exact peers
    · rw [inboundNow]
      exact arrived

/-- The oldest packet on the air is queued at the other end or lost. -/
theorem moves_arrive {role : BridgeRole} {frame : RadioFrame} {rest : List RadioFrame}
    (onAir : link.air role = frame :: rest) {bridge : Bridge config}
    (outbound : bridge.outbound = (link.station role.peer).bridge.outbound)
    (taken : bridge.inbound = (link.station role.peer).bridge.inbound ∨
      DropsOldest (link.station role.peer).bridge.inbound.items frame.payload
        bridge.inbound.items) :
    ∀ direction, (link.passage direction).Moves
      ((((link.setBridge role.peer bridge).setAir role rest).lose role
        ((link.station role.peer).bridge.inbound.items.length + 1 -
          bridge.inbound.items.length)).passage direction) := by
  -- The frame leaves the air, whether the bridge accepts its payload or not.
  have between : (link.passage role).between = frame.payload :: rest.map RadioFrame.payload := by
    simp [passage, onAir]
  have changed : (link.setBridge role.peer bridge).passage role =
      { link.passage role with second := bridge.inbound.items } := by
    simp [passage, setBridge]
  refine moves_of_one role ?_ ?_
  · rw [passage_lose, passage_setAir, changed]
    rcases taken with refused | accepted
    · have moved := Passage.Moves.vanish between
      simpa [refused, passage] using moved
    · exact .arrive between accepted
  · rw [passage_peer_lose, passage_peer_setAir, setBridge, passage_setStation, outbound]
    rfl

/-- So does the arrival of the oldest packet on the air. -/
theorem step_arrive (sound : Sound crc16Le macs link) (role : BridgeRole) :
    Sound crc16Le macs (link.step crc16Le macs (.arrive role)) ∧
      ∀ direction, (link.passage direction).Moves
        ((link.step crc16Le macs (.arrive role)).passage direction) := by
  simp only [step]
  split
  · exact ⟨sound, fun _ => .rest⟩
  · rename_i frame rest onAir
    -- Only packets that the other end has built are on the air.
    have aired : Aired crc16Le macs config role frame :=
      sound.aired role frame (by rw [onAir]; exact List.mem_cons_self)
    rw [if_pos aired.target]
    have received := (link.station role.peer).bridge.recvCb_cases crc16Le role.peer
      (macs role) frame.data
    generalize (link.station role.peer).bridge.recvCb crc16Le role.peer (macs role) frame.data =
      bridge at received ⊢
    -- A refused packet is lost, and an accepted one is queued.
    have outcome : bridge.outbound = (link.station role.peer).bridge.outbound ∧
        (bridge.inbound = (link.station role.peer).bridge.inbound ∨ DropsOldest
          (link.station role.peer).bridge.inbound.items frame.payload bridge.inbound.items) ∧
        (bridge.peer.learned = true → bridge.peer.mac = macs role) := by
      rcases received with ⟨refused, _⟩ | ⟨_, seq, payload, _, built, accepted⟩
      · refine ⟨refused.outbound, .inl refused.inbound, ?_⟩
        simpa [refused.peer] using sound.peers role.peer
      · obtain ⟨target, data⟩ := frame
        obtain rfl : data = _ := built
        refine ⟨accepted.outbound, .inr ?_, ?_⟩
        · rw [payload_build]
          exact accepted.inbound
        · rw [accepted.peer]
          split
          · simpa using sound.peers role.peer
          · exact fun _ => rfl
    obtain ⟨outbound, taken, peers⟩ := outcome
    refine sound.of_moves role.peer rfl (sound.tidy role.peer) (by simpa using peers) ?_
      (moves_arrive onAir outbound taken)
    intro direction other member
    rcases direction.eq_or_eq_peer role with rfl | rfl
    · refine sound.aired direction other ?_
      rw [onAir]
      exact List.mem_cons_of_mem _ (by simpa using member)
    · exact sound.aired _ other (by simpa [setBridge] using member)

/-- An orderly event leaves the link sound and moves the packets of each direction. -/
theorem step_spec (sound : Sound crc16Le macs link) {event : LinkEvent}
    (orderly : Orderly macs link event) :
    Sound crc16Le macs (link.step crc16Le macs event) ∧
      ∀ direction, (link.passage direction).Moves
        ((link.step crc16Le macs event).passage direction) := by
  -- One lemma stands for each event.
  cases event with
  | localRead role bytes => exact step_localRead sound role bytes
  | localIdle role => exact step_localIdle sound role
  | queueFrame role => exact step_queueFrame sound role
  | sendNext role answers => exact step_sendNext sound role answers
  | sendReport role success => exact step_sendReport sound role success
  | arrive role => exact step_arrive sound role
  | vanish role => exact step_vanish sound role
  | foreign role source data => exact step_foreign sound orderly
  | localWrite role writable => exact step_localWrite sound orderly

/-- Two bridges that have just been started stay sound whatever happens. -/
theorem run_sound (peerMacs : BridgeRole → MacAddress) {events : List LinkEvent}
    (orderly :
      Along (Orderly macs) (step crc16Le macs) (start peerMacs : RadioLink config) events) :
    Sound crc16Le macs (run (step crc16Le macs) (start peerMacs : RadioLink config) events) := by
  -- Soundness is what each orderly event preserves.
  refine run_invariant_along ?_ (start_sound crc16Le macs peerMacs) orderly
  intro link event sound lawful
  exact (step_spec sound lawful).1

/-- In any run each direction delivers the packets handed out at its other end, whole and in order:
none is altered, repeated or made up, and those that are neither delivered nor under way are counted
as lost. -/
theorem run_passes_on (peerMacs : BridgeRole → MacAddress) {events : List LinkEvent}
    (orderly : Along (Orderly macs) (step crc16Le macs) (start peerMacs : RadioLink config) events)
    (role : BridgeRole) :
    let link := run (step crc16Le macs) (start peerMacs : RadioLink config) events
    let emitted := (link.station role).packer.packing.emitted
    let written := (link.station role.peer).written
    let underWay := (link.passage role).underWay
    written.Sublist emitted ∧ (written ++ underWay).Sublist emitted ∧
      emitted.length = written.length + underWay.length + link.lost role ∧
      (link.lost role = 0 → written ++ underWay = emitted) := by
  intro link emitted written underWay
  -- What is held, delivered and lost adds up to what was handed out.
  have passed := (run_sound peerMacs orderly).orderly role
  refine ⟨passed.delivered_sublist, passed.ordered, ?_, ?_⟩
  · have counted := passed.counted
    rwa [Passage.held, List.length_append] at counted
  · intro lossless
    have whole : (link.passage role).lost = 0 := lossless
    rw [Passage.Orderly, whole] at passed
    exact passed.eq_of_lossless

/-- A local port with room for the longest packet takes each one whole. -/
theorem Sound.orderly_localWrite (sound : Sound crc16Le macs link) (role : BridgeRole)
    {writable : Nat} (room : config.payloadMax ≤ writable) :
    Orderly macs link (.localWrite role writable) := by
  intro item first
  refine .inr ((sound.fits role.peer item ?_).2.trans room)
  have member := List.mem_of_mem_head? first
  simp [Passage.held, Passage.underWay, passage, member]

end Laws

/-- Bridges with the largest packets there are, which learn their peers. -/
def learningConfig : BridgeConfig := ⟨237, 16, true, by decide, by decide, by decide, by decide⟩

/-- Two such bridges after some events, each under an address of its own. -/
def learningLink (events : List LinkEvent) : RadioLink learningConfig :=
  run (step espCrc16Le fun role => Vector.replicate 6 role.code)
    (start fun _ => broadcastMac) events

/-- Bytes that are read at one port are packed and sent, and what arrives is written at the
other. -/
def carryEvents (role : BridgeRole) (bytes : List UInt8) : List LinkEvent :=
  [.localRead role bytes, .localIdle role, .queueFrame role, .sendNext role ⟨true, true, true⟩,
    .arrive role] ++ [.localWrite role.peer 237]

/-- Nothing is asked of the surroundings when bytes are carried but room for the longest packet. -/
theorem carryEvents_orderly (role : BridgeRole) (bytes : List UInt8) :
    Along (Orderly fun role => Vector.replicate 6 role.code)
      (step espCrc16Le fun role => Vector.replicate 6 role.code)
      (start fun _ => broadcastMac : RadioLink learningConfig) (carryEvents role bytes) := by
  have carried : Along (Orderly fun role => Vector.replicate 6 role.code)
      (step espCrc16Le fun role => Vector.replicate 6 role.code)
      (start fun _ => broadcastMac : RadioLink learningConfig)
      [.localRead role bytes, .localIdle role, .queueFrame role,
        .sendNext role ⟨true, true, true⟩, .arrive role] :=
    ⟨trivial, trivial, trivial, trivial, trivial, trivial⟩
  -- Only the last event is written by the surroundings.
  have written := Sound.orderly_localWrite (run_sound _ carried) role.peer (Nat.le_refl 237)
  exact (along_append _ [.localWrite role.peer 237]).mpr ⟨carried, written, trivial⟩

/-- A frame read on the ground is sent, and written in the air. -/
theorem run_passes_on_frame :
    (learningLink (carryEvents .ground [0xfe, 0, 0, 1, 1, 0, 3, 7])).lost .ground = 0 ∧
      ((learningLink (carryEvents .ground [0xfe, 0, 0, 1, 1, 0, 3, 7])).station .air).written =
        [[0xfe, 0, 0, 1, 1, 0, 3, 7]] := by
  have lossless :
      (learningLink (carryEvents .ground [0xfe, 0, 0, 1, 1, 0, 3, 7])).lost .ground = 0 := by
    decide +kernel
  have arrived : ((learningLink (carryEvents .ground [0xfe, 0, 0, 1, 1, 0, 3, 7])).passage
      .ground).underWay = [] := by decide +kernel
  have emitted : ((learningLink (carryEvents .ground [0xfe, 0, 0, 1, 1, 0, 3, 7])).station
      .ground).packer.packing.emitted = [[0xfe, 0, 0, 1, 1, 0, 3, 7]] := by decide +kernel
  have passes := run_passes_on (fun _ => broadcastMac)
    (carryEvents_orderly .ground [0xfe, 0, 0, 1, 1, 0, 3, 7]) .ground
  rw [learningLink] at lossless arrived emitted ⊢
  generalize run _ _ _ = link at lossless arrived emitted passes ⊢
  -- With nothing lost and nothing under way, all that was handed out is written.
  have written := passes.2.2.2 lossless
  rw [arrived, emitted, List.append_nil] at written
  exact ⟨lossless, written⟩

end RadioLink

end Veloxity
