import Veloxity.Library.SequenceNumbers
import Veloxity.Tools.BridgeRun

/-! A bridge reports no more gaps in the packets of its peer than packets were lost. -/

namespace Veloxity

open Library

/-- The number of a packet on the air. -/
def RadioFrame.seq (frame : RadioFrame) : UInt16 :=
  (BridgePacket.ofBytes frame.data).seq

/-- A built packet carries its number. -/
theorem seq_build (crc16Le : UInt16 → List UInt8 → UInt16) (role : BridgeRole)
    (target : MacAddress) (seq : UInt16) (payload : List UInt8) :
    RadioFrame.seq ⟨target, (BridgePacket.build crc16Le role seq payload).bytes⟩ = seq := by
  rw [RadioFrame.seq, BridgePacket.ofBytes_bytes]
  rfl

namespace Bridge

variable {config : BridgeConfig} (bridge : Bridge config)

@[simp] theorem countDrop_rxSeqGaps (dropped : Bool) :
    (bridge.countDrop dropped).counters.rxSeqGaps = bridge.counters.rxSeqGaps := by
  cases dropped <;> rfl

/-- Queuing a packet for the air leaves the numbers alone. -/
theorem enqueueLocalFrame_numbers (packet : List UInt8) :
    (bridge.enqueueLocalFrame packet).1.txSeq = bridge.txSeq ∧
      (bridge.enqueueLocalFrame packet).1.lastRxSeq = bridge.lastRxSeq ∧
      (bridge.enqueueLocalFrame packet).1.counters.rxSeqGaps = bridge.counters.rxSeqGaps := by
  simp only [enqueueLocalFrame]
  split
  · exact ⟨rfl, rfl, rfl⟩
  · split <;> simp

/-- A report on a packet that was sent leaves the numbers alone. -/
theorem sendCb_rxSeqGaps (success : Bool) :
    (bridge.sendCb success).counters.rxSeqGaps = bridge.counters.rxSeqGaps := by
  cases success <;> rfl

/-- A bridge is surprised by the numbers it counts as gaps. -/
theorem seqGap_eq_surprising (seq : UInt16) :
    bridge.seqGap seq = SequenceNumbers.surprising (· + 1) bridge.lastRxSeq seq := by
  -- Before the first packet no number is a surprise.
  cases held : bridge.lastRxSeq with
  | none => simp [seqGap, SequenceNumbers.surprising, held]
  | some last =>
    by_cases expected : seq = last + 1 <;>
      simp [seqGap, SequenceNumbers.surprising, held, expected]

end Bridge

namespace RadioLink

variable {config : BridgeConfig} {crc16Le : UInt16 → List UInt8 → UInt16}
  {macs : BridgeRole → MacAddress} {link next : RadioLink config}

/-- The numbers of the packets from a bridge to its peer. -/
def numbering (link : RadioLink config) (role : BridgeRole) : SequenceNumbers UInt16 where
  upcoming := (link.station role).bridge.txSeq
  onWay := (link.air role).map RadioFrame.seq
  last := (link.station role.peer).bridge.lastRxSeq
  counted := (link.station role.peer).bridge.counters.rxSeqGaps.toNat
  lost := link.lost role

/-- Losing packets never makes up for lost ones. -/
theorem lost_le_lose (role : BridgeRole) (packets : Nat) (direction : BridgeRole) :
    link.lost direction ≤ (link.lose role packets).lost direction := by
  rcases direction.eq_or_eq_peer role with rfl | rfl <;> simp

/-- The numbers of a station that does not look at them stay as they are. -/
theorem numbering_rest (role : BridgeRole) {station : BridgeStation config}
    (changed : next.station = Function.update link.station role station)
    (txSeq : station.bridge.txSeq = (link.station role).bridge.txSeq)
    (lastRxSeq : station.bridge.lastRxSeq = (link.station role).bridge.lastRxSeq)
    (rxSeqGaps : station.bridge.counters.rxSeqGaps =
      (link.station role).bridge.counters.rxSeqGaps)
    (air : next.air = link.air) (lost : ∀ direction, link.lost direction ≤ next.lost direction)
    {direction : BridgeRole} :
    (link.numbering direction).Moves (· + 1) (next.numbering direction) := by
  -- The numbers of a direction are kept by both of its stations.
  have same : next.numbering direction =
      { link.numbering direction with lost := next.lost direction } := by
    rcases direction.eq_or_eq_peer role with rfl | rfl <;>
      simp [numbering, changed, txSeq, lastRxSeq, rxSeqGaps, air]
  rw [same]
  exact .rest (lost direction)

/-- Only the numbers of one direction move. -/
theorem numbering_of_one (role : BridgeRole)
    (moved : (link.numbering role).Moves (· + 1) (next.numbering role))
    (still : next.numbering role.peer = link.numbering role.peer) {direction : BridgeRole} :
    (link.numbering direction).Moves (· + 1) (next.numbering direction) := by
  rcases direction.eq_or_eq_peer role with rfl | rfl
  · exact moved
  · rw [still]
    exact .rest (Nat.le_refl _)

/-- The next queued packet is sent with its number, or lost with or without one. -/
theorem numbering_sendNext (role : BridgeRole) (answers : RadioAnswers) (direction : BridgeRole) :
    (link.numbering direction).Moves (· + 1)
      ((link.step crc16Le macs (.sendNext role answers)).numbering direction) := by
  -- Without a queued packet nothing is sent.
  cases popped : (link.station role).bridge.outbound.pop with
  | none =>
    have nothing := Bridge.espnowTxTask_of_none crc16Le role popped answers
    have same : link.step crc16Le macs (.sendNext role answers) = link := by
      simp [step, nothing, setBridge, setStation, setAir, lose]
    rw [same]
    exact .rest (Nat.le_refl _)
  | some entry =>
    obtain ⟨item, outbound⟩ := entry
    have queued := BoundedQueue.items_of_pop popped
    simp only [step, Bridge.espnowTxTask_of_some crc16Le role popped, queued, List.length_cons]
    have outboundNow := ({ (link.station role).bridge with outbound } :
      Bridge config).sendPayload_outbound crc16Le role item answers
    rw [outboundNow]
    refine numbering_of_one role ?_ ?_
    · rcases ({ (link.station role).bridge with outbound } : Bridge config).sendPayload_cases
          crc16Le role item answers with ⟨refused, number⟩ | ⟨sent, number⟩
      · rw [refused]
        -- A packet that is refused is lost, with its number if it was given one.
        have lost : outbound.items.length + 1 -
            (outbound.items.length + (none : Option RadioFrame).toList.length) = 1 := by simp
        rw [lost]
        rcases number with kept | given
        · have moved : (link.numbering role).Moves (· + 1) _ :=
            .rest (Nat.le_succ (link.numbering role).lost)
          simpa [numbering, setBridge, kept] using moved
        · have moved : (link.numbering role).Moves (· + 1) _ :=
            .skip (Nat.lt_succ_self (link.numbering role).lost)
          simpa [numbering, setBridge, given] using moved
      · rw [sent]
        have moved : (link.numbering role).Moves (· + 1) _ := .send
        simpa [numbering, setBridge, number, seq_build] using moved
    · simp [numbering, setBridge]

/-- The oldest packet on the air is read at the other end, or lost. -/
theorem numbering_arrive (sound : Sound crc16Le macs link) (role direction : BridgeRole) :
    (link.numbering direction).Moves (· + 1)
      ((link.step crc16Le macs (.arrive role)).numbering direction) := by
  simp only [step]
  split
  · exact .rest (Nat.le_refl _)
  · rename_i frame rest onAir
    have aired : Aired crc16Le macs config role frame :=
      sound.aired role frame (by rw [onAir]; exact List.mem_cons_self)
    -- The first number on its way leaves the air, whether or not it is read.
    have first : (link.numbering role).onWay = frame.seq :: rest.map RadioFrame.seq := by
      simp [numbering, onAir]
    rw [if_pos aired.target]
    rcases (link.station role.peer).bridge.recvCb_cases crc16Le role.peer (macs role)
      frame.data with ⟨refused, _⟩ | ⟨_, seq, payload, _, built, accepted⟩
    · refine numbering_of_one role ?_ (by simp [numbering, setBridge, refused.txSeq])
      have moved : (link.numbering role).Moves (· + 1) _ :=
        .vanish first (Nat.lt_succ_self (link.numbering role).lost)
      simpa [numbering, setBridge, refused.lastRxSeq, refused.rxSeqGaps, refused.inbound]
        using moved
    · refine numbering_of_one role ?_ (by simp [numbering, setBridge, accepted.txSeq])
      have numbered : frame.seq = seq := by
        obtain ⟨target, data⟩ := frame
        obtain rfl : data = _ := built
        exact seq_build _ _ _ _ _
      -- The counter may start anew, but never grows by more than the gap.
      have counts : ((link.station role.peer).bridge.recvCb crc16Le role.peer (macs role)
          frame.data).counters.rxSeqGaps.toNat ≤
            (link.numbering role).counted +
              if SequenceNumbers.surprising (· + 1) (link.numbering role).last frame.seq then 1
              else 0 := by
        have grown : ∀ surprised : Bool, (if surprised then
            (link.station role.peer).bridge.counters.rxSeqGaps + 1
            else (link.station role.peer).bridge.counters.rxSeqGaps).toNat ≤
              (link.station role.peer).bridge.counters.rxSeqGaps.toNat +
                if surprised then 1 else 0 := by
          intro surprised
          cases surprised with
          | false => exact Nat.le_refl _
          | true =>
            simp only [if_true, UInt32.toNat_add]
            exact Nat.mod_le _ _
        rw [accepted.rxSeqGaps, Bridge.seqGap_eq_surprising, numbered]
        exact grown _
      have moved := SequenceNumbers.Moves.read first counts
        (Nat.le_add_right (link.numbering role).lost
          ((link.station role.peer).bridge.inbound.items.length + 1 -
            ((link.station role.peer).bridge.recvCb crc16Le role.peer (macs role)
              frame.data).inbound.items.length))
      rw [numbered] at moved
      simpa [numbering, setBridge, accepted.lastRxSeq] using moved

/-- The oldest packet on the air is lost. -/
theorem numbering_vanish (role direction : BridgeRole) :
    (link.numbering direction).Moves (· + 1)
      ((link.step crc16Le macs (.vanish role)).numbering direction) := by
  simp only [step]
  split
  · exact .rest (Nat.le_refl _)
  · rename_i frame rest onAir
    -- The number of the lost packet leaves the air, and one more is counted as lost.
    refine numbering_of_one role ?_ (by simp [numbering])
    have first : (link.numbering role).onWay = frame.seq :: rest.map RadioFrame.seq := by
      simp [numbering, onAir]
    have moved : (link.numbering role).Moves (· + 1) _ :=
      .vanish first (Nat.lt_succ_self (link.numbering role).lost)
    simpa [numbering] using moved

/-- Whatever happens, the numbers of both directions move as they may. -/
theorem numbering_step (sound : Sound crc16Le macs link) {event : LinkEvent}
    (orderly : Orderly macs link event) (direction : BridgeRole) :
    (link.numbering direction).Moves (· + 1)
      ((link.step crc16Le macs event).numbering direction) := by
  -- Only sending, arriving and getting lost touch the numbers.
  cases event with
  | localRead role bytes =>
    simp only [step]
    split
    · exact .rest (Nat.le_refl _)
    · apply numbering_rest role
      · rfl
      all_goals first | rfl | exact fun _ => Nat.le_refl _
  | localIdle role =>
    simp only [step]
    split
    · exact .rest (Nat.le_refl _)
    · apply numbering_rest role
      · rfl
      all_goals first | rfl | exact fun _ => Nat.le_refl _
  | queueFrame role =>
    simp only [step]
    split
    · exact .rest (Nat.le_refl _)
    · rename_i packet pending waits
      obtain ⟨txSeq, lastRxSeq, rxSeqGaps⟩ :=
        (link.station role).bridge.enqueueLocalFrame_numbers packet
      apply numbering_rest role
      · rfl
      · exact txSeq
      · exact lastRxSeq
      · exact rxSeqGaps
      · rfl
      · exact lost_le_lose role _
  | sendNext role answers => exact numbering_sendNext role answers direction
  | sendReport role success =>
    apply numbering_rest role
    · rfl
    · rfl
    · rfl
    · exact (link.station role).bridge.sendCb_rxSeqGaps success
    · rfl
    · exact fun _ => Nat.le_refl _
  | arrive role => exact numbering_arrive sound role direction
  | vanish role => exact numbering_vanish role direction
  | foreign role source data =>
    obtain ⟨learned, stranger⟩ := orderly
    rcases (link.station role).bridge.recvCb_cases crc16Le role source data with
      ⟨refused, _⟩ | ⟨admitted, _⟩
    · apply numbering_rest role
      · rfl
      · exact refused.txSeq
      · exact refused.lastRxSeq
      · exact refused.rxSeqGaps
      · rfl
      · exact fun _ => Nat.le_refl _
    · -- A bridge that knows its peer does not listen to anyone else.
      rw [Bridge.Admits, if_pos learned, sound.peers role learned] at admitted
      exact absurd admitted stranger
  | localWrite role writable =>
    cases popped : (link.station role).bridge.inbound.pop with
    | none =>
      have same : link.step crc16Le macs (.localWrite role writable) = link := by
        simp [step, Bridge.localTxTask_of_none popped, setStation, lose]
      rw [same]
      exact .rest (Nat.le_refl _)
    | some entry =>
      -- Writing to the port loses a packet at most, and reads no number.
      obtain ⟨_, _, _, txSeq, lastRxSeq, rxSeqGaps⟩ := Bridge.localTxTask_frame popped writable
      apply numbering_rest role
      · rfl
      · exact txSeq
      · exact lastRxSeq
      · exact rxSeqGaps
      · rfl
      · exact lost_le_lose role.peer _

/-- The link is sound and every gap is explained by a packet that was lost. -/
def Accounted (crc16Le : UInt16 → List UInt8 → UInt16) (macs : BridgeRole → MacAddress)
    (link : RadioLink config) : Prop :=
  Sound crc16Le macs link ∧ ∀ direction, (link.numbering direction).Explained (· + 1)

/-- Along a run every gap is explained. -/
theorem run_accounted (peerMacs : BridgeRole → MacAddress) {events : List LinkEvent}
    (orderly :
      Along (Orderly macs) (step crc16Le macs) (start peerMacs : RadioLink config) events) :
    Accounted crc16Le macs
      (run (step crc16Le macs) (start peerMacs : RadioLink config) events) := by
  refine run_invariant_along ?_ ⟨start_sound crc16Le macs peerMacs, fun _ => Nat.le_refl 0⟩ orderly
  rintro link event ⟨sound, explained⟩ lawful
  exact ⟨(step_spec sound lawful).1, fun direction =>
    (explained direction).moves (numbering_step sound lawful direction)⟩

/-- The gaps that a bridge has counted are no more than the packets of its peer that were lost. -/
theorem run_gaps_le_lost (peerMacs : BridgeRole → MacAddress) {events : List LinkEvent}
    (orderly : Along (Orderly macs) (step crc16Le macs) (start peerMacs : RadioLink config) events)
    (role : BridgeRole) :
    let link := run (step crc16Le macs) (start peerMacs : RadioLink config) events
    (link.station role.peer).bridge.counters.rxSeqGaps.toNat ≤ link.lost role :=
  Nat.le_trans (Nat.le_add_right _ _) ((run_accounted peerMacs orderly).2 role)

/-- Of three packets the one in the middle is lost, and the other end notices. -/
theorem run_gaps_le_lost_middle :
    ∃ link : RadioLink ⟨237, 16, true, by decide, by decide, by decide, by decide⟩,
      link = run (step espCrc16Le fun role => Vector.replicate 6 role.code)
        (start fun _ => broadcastMac)
        [.localRead .ground [0xfe, 0, 0, 1, 1, 0, 3, 7], .localIdle .ground, .queueFrame .ground,
          .localRead .ground [0xfe, 0, 1, 1, 1, 0, 3, 7], .localIdle .ground, .queueFrame .ground,
          .localRead .ground [0xfe, 0, 2, 1, 1, 0, 3, 7], .localIdle .ground, .queueFrame .ground,
          .sendNext .ground ⟨true, true, true⟩, .sendNext .ground ⟨true, true, true⟩,
          .sendNext .ground ⟨true, true, true⟩, .arrive .ground, .vanish .ground,
          .arrive .ground] ∧
      (link.station .air).bridge.counters.rxSeqGaps = 1 ∧ link.lost .ground = 1 ∧
      (link.station BridgeRole.ground.peer).bridge.counters.rxSeqGaps.toNat ≤
        link.lost .ground := by
  refine ⟨_, rfl, by decide +kernel, by decide +kernel, run_gaps_le_lost _ ?_ .ground⟩
  -- None of these events asks anything of the surroundings.
  exact ⟨trivial, trivial, trivial, trivial, trivial, trivial, trivial, trivial, trivial, trivial,
    trivial, trivial, trivial, trivial, trivial, trivial⟩

end RadioLink

end Veloxity
