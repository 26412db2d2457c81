import Veloxity.Boards.ReceivingCoresLaws
import Veloxity.Boards.SendingCoresLaws
import Veloxity.Tools.BridgeFrames

/-! The frames of an RP2350 board on their way over a radio link, from end to end. -/

namespace Veloxity

open Library

/-- The second byte of a frame announces its payload. -/
theorem V1Frame.announced (frame : V1Frame) :
    frame.payload.length.toUInt8.toNat = frame.payload.length := by
  have bounded := frame.bounded
  rw [Nat.toUInt8, UInt8.toNat_ofNat']
  exact Nat.mod_eq_of_lt (by omega)

/-- The bytes of a frame behind its first two. -/
def V1Frame.body (frame : V1Frame) : List UInt8 :=
  (frame.header ++ frame.payload).tail ++
    [frame.checksum.toUInt8, (frame.checksum >>> 8).toUInt8]

/-- A frame is as long as its second byte announces. -/
theorem V1Frame.whole (frame : V1Frame) :
    (mavlinkV1Stx :: frame.payload.length.toUInt8 :: frame.body).length =
      8 + frame.payload.length.toUInt8.toNat := by
  rw [frame.announced]
  simp [V1Frame.body, V1Frame.header]
  omega

/-- A frame that fits into a packet is a piece without noise. -/
def V1Frame.piece {limit : Nat} (frame : V1Frame) (fits : frame.wire.length ≤ limit) :
    FramedPiece limit where
  noise := []
  second := frame.payload.length.toUInt8
  body := frame.body
  quiet := List.not_mem_nil
  whole := frame.whole
  fits := by
    rw [frame.announced, ← frame.length_wire]
    exact fits

/-- Frames that fit into packets are pieces of the same bytes, without noise between them. -/
theorem exists_pieces {limit : Nat} (frames : List V1Frame)
    (fits : ∀ frame ∈ frames, frame.wire.length ≤ limit) :
    ∃ pieces : List (FramedPiece limit), FramedPiece.Silent pieces ∧
      pieces.flatMap FramedPiece.bytes = frames.flatMap V1Frame.wire ∧
        pieces.map FramedPiece.frame = frames.map V1Frame.wire := by
  induction frames with
  | nil => exact ⟨[], List.forall_mem_nil _, rfl, rfl⟩
  | cons frame rest ih =>
    obtain ⟨pieces, silent, bytes, frames⟩ :=
      ih fun other member => fits other (List.mem_cons_of_mem _ member)
    -- The piece of the first frame comes in front of those of the others.
    refine ⟨frame.piece (fits frame List.mem_cons_self) :: pieces,
      List.forall_mem_cons.mpr ⟨rfl, silent⟩, ?_, ?_⟩
    · rw [List.flatMap_cons, List.flatMap_cons, bytes]
      rfl
    · rw [List.map_cons, List.map_cons, frames]
      rfl

/-- Messages that carry the bytes of their payload. -/
def PayloadFormat.verbatim :
    PayloadFormat fun _ => { payload : List UInt8 // payload.length ≤ 255 } where
  bytes msg := some msg.payload.val
  bounded msg payload given := by
    rw [← Option.some.inj given]
    exact msg.payload.property

/-- A heartbeat of a quadrotor. -/
def heartbeatMessage : DownlinkMessage fun _ => { payload : List UInt8 // payload.length ≤ 255 } :=
  ⟨.heartbeat, [0, 0, 0, 0, 2, 0, 0, 0, 3], by decide⟩

namespace RadioLink

variable {config : BridgeConfig} {crc16Le : UInt16 → List UInt8 → UInt16}
  {macs : BridgeRole → MacAddress}

/-- With whole frames in the packers of a sound link, frames that are sent into one port leave the
other one as some of them, in order; with no packet lost they are the first ones, and once nothing
is on its way they are all that was read. -/
theorem Sound.delivers_wires {link : RadioLink config} (sound : Sound crc16Le macs link)
    (whole : link.CarriesWhole) (role : BridgeRole) {frames : List V1Frame}
    (fits : ∀ frame ∈ frames, frame.wire.length ≤ config.payloadMax)
    (stream : (link.station role).read <+: frames.flatMap V1Frame.wire) :
    ∃ delivered : List V1Frame,
      (link.station role.peer).written.flatten = delivered.flatMap V1Frame.wire ∧
      delivered.Sublist frames ∧ (link.lost role = 0 → delivered <+: frames) ∧
      (link.lost role = 0 → link.Idle role →
        delivered.flatMap V1Frame.wire = (link.station role).read) := by
  obtain ⟨pieces, silent, bytes, same⟩ := exists_pieces frames fits
  rw [← bytes] at stream
  obtain ⟨written, flat, among, lossless⟩ := sound.delivers_frames whole role stream
  have all := sound.delivers_all whole silent stream
  rw [same] at among lossless
  -- The frames written are the bytes of some of the frames sent.
  by_cases nothing : link.lost role = 0
  · obtain ⟨delivered, first, wires⟩ := List.prefix_map_iff.mp (lossless nothing)
    have read : (link.station role.peer).written.flatten = delivered.flatMap V1Frame.wire := by
      rw [flat, wires, List.flatMap_def]
    exact ⟨delivered, read, first.sublist, fun _ => first,
      fun lossless idle => read.symm.trans (all lossless idle)⟩
  · obtain ⟨delivered, sublist, wires⟩ := List.sublist_map_iff.mp among
    refine ⟨delivered, ?_, sublist, fun lossless => absurd lossless nothing,
      fun lossless => absurd lossless nothing⟩
    rw [flat, wires, List.flatMap_def]

section Uplink

/-- Of the frames sent on the ground some are written in the air, in order, and the core that takes
frames is handed exactly those of them that are complete in what the other core has read. With no
packet lost and nothing on its way they are all that was read on the ground, and behind the radio
only frames of a priority below one whose frames never fill the queue are lost. -/
theorem uplink_reaches_core (peerMacs : BridgeRole → MacAddress) {events : List LinkEvent}
    (orderly : Along (Orderly macs) (step crc16Le macs) (start peerMacs : RadioLink config) events)
    {frames : List V1Frame}
    (fits : ∀ frame ∈ frames, frame.wire.length ≤ config.payloadMax)
    (stream : ((run (step crc16Le macs) (start peerMacs : RadioLink config) events).station
      .ground).read <+: frames.flatMap V1Frame.wire)
    {steps : List ReceivingStep} {level : UInt8}
    (room : Along (ReceivingCores.RoomFor level) ReceivingCores.step .new steps)
    (line : steps.filterMap ReceivingStep.byte <+:
      ((run (step crc16Le macs) (start peerMacs : RadioLink config) events).station
        .air).written.flatten) :
    let link := run (step crc16Le macs) (start peerMacs : RadioLink config) events
    let cores := run ReceivingCores.step .new steps
    cores.parser ≠ none ∧
    ∃ delivered : List V1Frame,
      (link.station .air).written.flatten = delivered.flatMap V1Frame.wire ∧
      delivered.Sublist frames ∧ (link.lost .ground = 0 → delivered <+: frames) ∧
      (link.lost .ground = 0 → link.Idle .ground →
        delivered.flatMap V1Frame.wire = (link.station .ground).read) ∧
      cores.emitted = (V1Frame.complete delivered
        (steps.filterMap ReceivingStep.byte).length).map V1Frame.wire ∧
      cores.emitted.Perm (cores.taken ++ cores.held ++ cores.lost.map FrameSlot.bytes) ∧
      ∀ slot ∈ cores.lost, mavlinkRxPriority (slot.bytes.getD 5 0) < level := by
  intro link cores
  -- The bridges deliver whole frames, and the other core parses what it reads of them.
  have sound : cores.Sound := ReceivingCores.run_sound steps
  obtain ⟨delivered, written, among, lossless, idle⟩ :=
    (run_sound peerMacs orderly).delivers_wires
      (run_carriesWhole crc16Le macs peerMacs events) .ground fits stream
  obtain ⟨front, all⟩ := ReceivingCores.run_received steps
  -- A front of the delivered frames never makes the parser panic, so it reads every byte.
  have clean : steps.filterMap ReceivingStep.byte <+: delivered.flatMap V1Frame.wire := by
    rw [← written]
    exact line
  obtain ⟨present, emitted⟩ := sound.reads (front.trans clean)
  rw [← all present]
  exact ⟨present, delivered, written, among, lossless, idle, emitted, sound.accounted.kept,
    (ReceivingCores.run_spares room).lost⟩

/-- A heartbeat from the ground is written in the air, where nothing of it is on its way any more,
and put out on the board. -/
theorem uplink_reaches_core_heartbeat :
    (learningLink (carryEvents .ground MavlinkParser.heartbeatFrame.wire)).Idle .ground ∧
    ∃ delivered : List V1Frame,
      delivered.flatMap V1Frame.wire = MavlinkParser.heartbeatFrame.wire ∧
      (run ReceivingCores.step .new
        (MavlinkParser.heartbeatFrame.wire.map ReceivingStep.uartRx)).emitted =
          (V1Frame.complete delivered 8).map V1Frame.wire := by
  -- Nothing is lost or left on the way, so what is delivered is all that was read.
  have lossless :
      (learningLink (carryEvents .ground MavlinkParser.heartbeatFrame.wire)).lost .ground = 0 := by
    decide +kernel
  have idle : (learningLink (carryEvents .ground MavlinkParser.heartbeatFrame.wire)).Idle .ground :=
    ⟨by decide +kernel, by decide +kernel, by decide +kernel⟩
  have read : ((learningLink (carryEvents .ground MavlinkParser.heartbeatFrame.wire)).station
      .ground).read = MavlinkParser.heartbeatFrame.wire := by decide +kernel
  have bytes : (MavlinkParser.heartbeatFrame.wire.map ReceivingStep.uartRx).filterMap
      ReceivingStep.byte = MavlinkParser.heartbeatFrame.wire := by decide +kernel
  have fits : ∀ frame ∈ [MavlinkParser.heartbeatFrame],
      frame.wire.length ≤ learningConfig.payloadMax := by decide +kernel
  have room : Along (ReceivingCores.RoomFor 0) ReceivingCores.step .new
      (MavlinkParser.heartbeatFrame.wire.map ReceivingStep.uartRx) := by decide +kernel
  -- The heartbeat is one frame, it fits a packet, and the queue never fills.
  obtain ⟨-, delivered, -, -, -, all, emitted, -, -⟩ := uplink_reaches_core
    (fun _ => broadcastMac) (carryEvents_orderly .ground MavlinkParser.heartbeatFrame.wire) fits
    ⟨[], by decide +kernel⟩ room ⟨[], by decide +kernel⟩
  rw [bytes] at emitted
  rw [learningLink] at lossless idle read ⊢
  generalize run _ _ _ = link at lossless idle read all ⊢
  exact ⟨idle, delivered, (all lossless idle).trans read, emitted⟩

end Uplink

section Downlink

variable {Payload : DownlinkKind → Type} {format : PayloadFormat Payload}

/-- The frames of the messages that a board sends are read back on the ground as some of those
sent, in order and with the numbers they were sent under; only packets lost on the way can be
missing. -/
theorem downlink_read_back (peerMacs : BridgeRole → MacAddress) {events : List LinkEvent}
    (orderly : Along (Orderly macs) (step crc16Le macs) (start peerMacs : RadioLink config) events)
    {sends : List (SendingStep Payload)}
    (fits : ∀ frame ∈ SendingCores.sentFrames format
      (run (SendingCores.step format) .new sends).taken, frame.wire.length ≤ config.payloadMax)
    (line : ((run (step crc16Le macs) (start peerMacs : RadioLink config) events).station
      .air).read <+: (run (SendingCores.step format) .new sends).wire) :
    let link := run (step crc16Le macs) (start peerMacs : RadioLink config) events
    let cores := run (SendingCores.step format) .new sends
    ∃ delivered : List V1Frame, delivered.Sublist (SendingCores.sentFrames format cores.taken) ∧
      (link.lost .air = 0 → delivered <+: SendingCores.sentFrames format cores.taken) ∧
      ∃ next emitted, MavlinkParser.new.feedBytes (link.station .ground).written.flatten =
          .ok (next, emitted) ∧
        emitted.map CompleteFrame.bytes = delivered.map V1Frame.wire := by
  intro link cores
  -- The wire of the board is the frames sent, one after the other.
  have sound : cores.Sound format := SendingCores.run_sound sends
  rw [sound.wire] at line
  obtain ⟨delivered, written, among, lossless, _⟩ := (run_sound peerMacs orderly).delivers_wires
    (run_carriesWhole crc16Le macs peerMacs events) .air fits line
  -- A fresh parser reads the delivered frames back one by one.
  obtain ⟨next, emitted, fed, -, bytes⟩ := MavlinkParser.feedBytes_wires
    (show MavlinkParser.new.state = .waitingForStart from rfl) delivered
  refine ⟨delivered, among, lossless, next, emitted, ?_, bytes⟩
  rw [← fed]
  exact congrArg _ written

/-- A heartbeat from the board is read back on the ground. -/
theorem downlink_read_back_heartbeat :
    ∃ link : RadioLink ⟨237, 16, true, by decide, by decide, by decide, by decide⟩,
      (link.station .ground).written.flatten =
        [254, 9, 0, 1, 250, 0, 0, 0, 0, 0, 2, 0, 0, 0, 3, 183, 32] ∧
      ∃ delivered : List V1Frame, delivered.Sublist (SendingCores.sentFrames .verbatim
          (run (SendingCores.step .verbatim) .new
            [.send 1 heartbeatMessage, .uartTx true]).taken) ∧
        ∃ next emitted, MavlinkParser.new.feedBytes (link.station .ground).written.flatten =
            .ok (next, emitted) ∧
          emitted.map CompleteFrame.bytes = delivered.map V1Frame.wire := by
  -- The events are orderly one by one, and the packet written is whole.
  have carried : Along (Orderly fun role => Vector.replicate 6 role.code)
      (step espCrc16Le fun role => Vector.replicate 6 role.code)
      (start fun _ => broadcastMac :
        RadioLink ⟨237, 16, true, by decide, by decide, by decide, by decide⟩)
      [.localRead .air [254, 9, 0, 1, 250, 0, 0, 0, 0, 0, 2, 0, 0, 0, 3, 183, 32],
        .localIdle .air, .queueFrame .air, .sendNext .air ⟨true, true, true⟩, .arrive .air] :=
    ⟨trivial, trivial, trivial, trivial, trivial, trivial⟩
  have written := Sound.orderly_localWrite (run_sound _ carried) .ground (Nat.le_refl 237)
  have orderly := (along_append _ [.localWrite .ground 237]).mpr ⟨carried, written, trivial⟩
  have fits : ∀ frame ∈ SendingCores.sentFrames .verbatim (run (SendingCores.step .verbatim) .new
      [.send 1 heartbeatMessage, .uartTx true]).taken, frame.wire.length ≤ 237 := by
    decide +kernel
  have line : (run (SendingCores.step .verbatim) .new
      [.send 1 heartbeatMessage, .uartTx true]).wire =
        [254, 9, 0, 1, 250, 0, 0, 0, 0, 0, 2, 0, 0, 0, 3, 183, 32] := by
    decide +kernel
  -- The bridge has read the whole heartbeat that the board wrote.
  obtain ⟨delivered, among, -, readBack⟩ := downlink_read_back _ orderly fits
    ⟨[], by rw [line]; decide +kernel⟩
  exact ⟨_, by decide +kernel, delivered, among, readBack⟩

end Downlink

end RadioLink

end Veloxity
