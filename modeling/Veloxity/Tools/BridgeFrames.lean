import Mathlib.Data.List.Flatten
import Mathlib.Data.List.Infix
import Veloxity.Tools.BridgeRun
import Veloxity.Tools.PackedFrames

/-! A radio link delivers whole telemetry frames: what is lost on the way is lost frame by frame. -/

namespace Veloxity

open Library

namespace FramedPiece

variable {limit : Nat} {pieces : List (FramedPiece limit)}

/-- No piece has noise before its frame. -/
def Silent (pieces : List (FramedPiece limit)) : Prop := ∀ piece ∈ pieces, piece.noise = []

/-- Pieces without noise are the bytes of their frames. -/
theorem Silent.flatMap_bytes (silent : Silent pieces) :
    pieces.flatMap FramedPiece.bytes = (pieces.map frame).flatten := by
  rw [List.flatMap_def]
  refine congrArg List.flatten (List.map_congr_left fun piece member => ?_)
  rw [FramedPiece.bytes, silent piece member]
  rfl

/-- Without a byte that cannot start a frame, the same frames are to come, if there is noise. -/
theorem drop_noise {first : UInt8} {rest : List UInt8} (noise : first ≠ mavlinkV1Stx)
    (bytes : pieces.flatMap FramedPiece.bytes = first :: rest) :
    ∃ others : List (FramedPiece limit), others.flatMap FramedPiece.bytes = rest ∧
      others.map frame = pieces.map frame ∧ ¬ Silent pieces := by
  cases pieces with
  | nil => cases bytes
  | cons piece later =>
    obtain ⟨silence, second, body, quiet, whole, fits⟩ := piece
    rw [List.flatMap_cons] at bytes
    cases silence with
    | nil =>
      -- A frame does not start with such a byte.
      have heads : mavlinkV1Stx = first := (List.cons.inj bytes).1
      exact absurd heads.symm noise
    | cons head tail =>
      obtain ⟨_, tails⟩ := List.cons.inj bytes
      refine ⟨⟨tail, second, body, fun member => quiet (List.mem_cons_of_mem _ member), whole,
        fits⟩ :: later, ?_, rfl, ?_⟩
      · rw [List.flatMap_cons]
        exact tails
      · intro silent
        exact List.cons_ne_nil _ _ (silent _ List.mem_cons_self)

/-- Bytes that start with a frame start with that of the first piece. -/
theorem first_frame {second : UInt8} {rest : List UInt8}
    (bytes : pieces.flatMap FramedPiece.bytes = mavlinkV1Stx :: second :: rest) :
    ∃ piece later, pieces = piece :: later ∧ piece.second = second ∧
      mavlinkV1Stx :: second :: rest = piece.frame ++ later.flatMap FramedPiece.bytes := by
  cases pieces with
  | nil => cases bytes
  | cons piece later =>
    refine ⟨piece, later, rfl, ?_⟩
    rw [List.flatMap_cons, FramedPiece.bytes] at bytes
    cases silence : piece.noise with
    | nil =>
      rw [silence] at bytes
      refine ⟨?_, bytes.symm⟩
      exact (List.cons.inj (List.cons.inj bytes).2).1
    | cons head tail =>
      -- The first byte would be noise that starts a frame.
      rw [silence] at bytes
      have quiet := piece.quiet
      rw [silence, show head = mavlinkV1Stx from (List.cons.inj bytes).1] at quiet
      exact absurd List.mem_cons_self quiet

end FramedPiece

/-- A scan of a stream of framed pieces has packed and handed out whole frames: those of the pieces
whose bytes it has neither in its receive buffer nor still to come. -/
structure CarriesFrames {limit : Nat} (pieces : List (FramedPiece limit)) (unread : List UInt8)
    (scan : PackerScan) (groups : List (List (List UInt8))) (pending : List (List UInt8))
    (ahead : List (FramedPiece limit)) : Prop where
  limited : scan.packer.maxPacketLen = limit
  emitted : scan.emitted = groups.map List.flatten
  packet : scan.packer.packet = pending.flatten
  received : scan.packer.rx ++ unread = ahead.flatMap FramedPiece.bytes
  complete : groups.flatten ++ pending ++ ahead.map FramedPiece.frame =
    pieces.map FramedPiece.frame
  silent : FramedPiece.Silent pieces → FramedPiece.Silent ahead

namespace CarriesFrames

variable {limit : Nat} {pieces ahead : List (FramedPiece limit)} {unread : List UInt8}
  {scan next : PackerScan} {groups : List (List (List UInt8))} {pending : List (List UInt8)}
  {emit : List UInt8 → Bool}

/-- A packet that is handed out takes the frames in it along. -/
theorem sent (carries : CarriesFrames pieces unread scan groups pending ahead)
    (emit : List UInt8 → Bool) :
    CarriesFrames pieces unread (scan.sent emit) (groups ++ [pending]) [] ahead where
  -- The pending frames become the group of the packet sent, and none is pending after it.
  limited := carries.limited
  emitted := by
    rw [PackerScan.sent, carries.emitted, carries.packet, List.map_append]
    rfl
  packet := rfl
  received := carries.received
  complete := by
    simpa using carries.complete
  silent := carries.silent

/-- Making room for a frame hands out whole frames only. -/
theorem makeRoom (carries : CarriesFrames pieces unread scan groups pending ahead)
    (emit : List UInt8 → Bool) (frameLen : Nat) :
    ∃ groups pending,
      CarriesFrames pieces unread (scan.makeRoom emit frameLen) groups pending ahead := by
  -- Either the packet is handed out or nothing happens.
  rw [PackerScan.makeRoom]
  split
  · exact ⟨_, _, carries.sent emit⟩
  · exact ⟨_, _, carries⟩

/-- A step uses up a byte that belongs to no frame, or a whole frame. -/
theorem step (carries : CarriesFrames pieces unread scan groups pending ahead)
    (stepped : scan.step emit = some next) :
    ∃ groups pending ahead, CarriesFrames pieces unread next groups pending ahead := by
  rcases PackerScan.step_cases stepped with
    ⟨first, rest, received, noise, rfl⟩ |
      ⟨second, rest, received, ⟨_, oversized, _⟩ | ⟨fits, whole, rfl⟩⟩
  · have bytes := carries.received
    rw [received, List.cons_append] at bytes
    obtain ⟨others, remain, same, noisy⟩ := FramedPiece.drop_noise noise bytes.symm
    refine ⟨groups, pending, others, carries.limited, carries.emitted, carries.packet,
      remain.symm, ?_, fun silent => absurd (carries.silent silent) noisy⟩
    rw [same]
    exact carries.complete
  · -- No frame of the stream is too long for a packet.
    have bytes := carries.received
    rw [received, List.cons_append, List.cons_append] at bytes
    obtain ⟨piece, _, _, rfl, _⟩ := FramedPiece.first_frame bytes.symm
    rw [carries.limited, ← piece.length_frame] at oversized
    have fits := piece.fits
    have whole := piece.whole
    rw [FramedPiece.frame] at oversized
    omega
  · have bytes := carries.received
    rw [received, List.cons_append, List.cons_append] at bytes
    obtain ⟨piece, later, rfl, rfl, starts⟩ := FramedPiece.first_frame bytes.symm
    -- The frame is what the packer takes off the front of the receive buffer.
    have cut : scan.packer.rx ++ unread = piece.frame ++ later.flatMap FramedPiece.bytes := by
      rw [← starts, received]
      rfl
    rw [← piece.length_frame] at whole fits ⊢
    have taken : scan.packer.rx.take piece.frame.length = piece.frame := by
      have same := congrArg (List.take piece.frame.length) cut
      rwa [List.take_append_of_le_length whole, List.take_left'  rfl] at same
    have dropped : scan.packer.rx.drop piece.frame.length ++ unread =
        later.flatMap FramedPiece.bytes := by
      have same := congrArg (List.drop piece.frame.length) cut
      rwa [List.drop_append_of_le_length whole, List.drop_left' rfl] at same
    obtain ⟨groups, pending, roomy⟩ := carries.makeRoom emit piece.frame.length
    refine ⟨groups, pending ++ [piece.frame], later, roomy.limited, roomy.emitted, ?_, ?_, ?_,
      fun silent other member => roomy.silent silent other (List.mem_cons_of_mem _ member)⟩
    · simp [PackerScan.packed, roomy.packet, taken]
    · simpa [PackerScan.packed] using dropped
    · simpa using roomy.complete

/-- The frames stay whole wherever the scan leads. -/
theorem reaches (carries : CarriesFrames pieces unread scan groups pending ahead)
    (reached : Reaches (PackerScan.step emit) scan next) :
    ∃ groups pending ahead, CarriesFrames pieces unread next groups pending ahead := by
  -- One step after the other keeps the frames whole.
  induction reached with
  | refl => exact ⟨_, _, _, carries⟩
  | tail _ stepped ih =>
    obtain ⟨_, _, _, before⟩ := ih
    exact before.step stepped

/-- Bytes that are read are no longer to come. -/
theorem feed {bytes : List UInt8}
    (carries : CarriesFrames pieces (bytes ++ unread) scan groups pending ahead) :
    CarriesFrames pieces unread (scan.feed bytes) groups pending ahead where
  -- The bytes only move from those to come into those received.
  limited := carries.limited
  emitted := carries.emitted
  packet := carries.packet
  received := by
    rw [PackerScan.feed, PackerScan.withRx, List.append_assoc]
    exact carries.received
  complete := carries.complete
  silent := carries.silent

end CarriesFrames

namespace WaitingPacker

variable {config : BridgeConfig}

/-- Whatever stream of framed pieces the bytes read belong to, the packer carries whole frames. -/
def CarriesWhole (packer : WaitingPacker config) (read : List UInt8) : Prop :=
  ∀ (pieces : List (FramedPiece config.payloadMax)) (unread : List UInt8),
    read ++ unread = pieces.flatMap FramedPiece.bytes →
      ∃ groups pending ahead, CarriesFrames pieces unread packer.packing.scan groups pending ahead

/-- A packer that has read nothing carries nothing. -/
theorem start_carriesWhole : (start : WaitingPacker config).CarriesWhole [] := by
  intro pieces unread stream
  refine ⟨[], [], pieces, start_tidy.limited, rfl, rfl, stream, ?_, id⟩
  simp

variable {packer : WaitingPacker config} {read : List UInt8}

/-- Whole frames are carried on when more bytes are read. -/
theorem CarriesWhole.push (whole : packer.CarriesWhole read) (bytes : List UInt8) :
    (packer.push bytes).CarriesWhole (read ++ bytes) := by
  intro pieces unread stream
  obtain ⟨_, _, _, carries⟩ := whole pieces (bytes ++ unread) (by rw [← stream, List.append_assoc])
  exact carries.feed.reaches (packer.scan_push bytes)

/-- Whole frames are carried on when the packet is handed out. -/
theorem CarriesWhole.flush (whole : packer.CarriesWhole read) : packer.flush.CarriesWhole read := by
  intro pieces unread stream
  obtain ⟨groups, pending, ahead, carries⟩ := whole pieces unread stream
  -- Flushing hands out the packet, or has none to hand out.
  rcases (scan_flush _ packer.sound (Bridge.enqueueAccepts config)).2 with ⟨_, same⟩ | sent
  · rw [WaitingPacker.flush, same]
    exact ⟨groups, pending, ahead, carries⟩
  · rw [WaitingPacker.flush, sent]
    exact ⟨_, _, _, carries.sent _⟩

end WaitingPacker

namespace RadioLink

variable {config : BridgeConfig} (crc16Le : UInt16 → List UInt8 → UInt16)
  (macs : BridgeRole → MacAddress)

/-- The packers of both bridges carry whole frames. -/
def CarriesWhole (link : RadioLink config) : Prop :=
  ∀ role, (link.station role).packer.CarriesWhole (link.station role).read

/-- A change of one station that leaves its packer alone or keeps it in order. -/
theorem CarriesWhole.update {link next : RadioLink config} (whole : link.CarriesWhole)
    (role : BridgeRole) {station : BridgeStation config}
    (changed : next.station = Function.update link.station role station)
    (kept : station.packer.CarriesWhole station.read) : next.CarriesWhole := by
  intro other
  rw [changed]
  -- The station is the changed one or the other one.
  rcases other.eq_or_eq_peer role with rfl | rfl
  · simpa using kept
  · simpa using whole role.peer

/-- Every event leaves whole frames in the packers. -/
theorem CarriesWhole.step {link : RadioLink config} (whole : link.CarriesWhole)
    (event : LinkEvent) : (link.step crc16Le macs event).CarriesWhole := by
  -- Only reading and flushing touch a packer; every other event leaves both as they are.
  cases event with
  | localRead role bytes =>
    simp only [RadioLink.step]
    split
    · exact whole
    · exact whole.update role rfl ((whole role).push bytes)
  | localIdle role =>
    simp only [RadioLink.step]
    split
    · exact whole
    · exact whole.update role rfl (whole role).flush
  | queueFrame role =>
    simp only [RadioLink.step]
    split
    · exact whole
    · exact whole.update role rfl (whole role)
  | sendNext role answers => exact whole.update role rfl (whole role)
  | sendReport role success => exact whole.update role rfl (whole role)
  | arrive role =>
    simp only [RadioLink.step]
    split
    · exact whole
    · exact whole.update role.peer rfl (whole role.peer)
  | vanish role =>
    simp only [RadioLink.step]
    split <;> exact whole
  | foreign role source data => exact whole.update role rfl (whole role)
  | localWrite role writable => exact whole.update role rfl (whole role)

/-- The packers always carry whole frames. -/
theorem run_carriesWhole (peerMacs : BridgeRole → MacAddress) (events : List LinkEvent) :
    (run (step crc16Le macs) (start peerMacs : RadioLink config) events).CarriesWhole := by
  refine run_invariant ?_ (fun _ => WaitingPacker.start_carriesWhole) events
  intro link event whole
  exact whole.step crc16Le macs event

variable {crc16Le macs}

/-- With whole frames in the packers of a sound link, what is written to a port is whole frames out
of those read at the other one. -/
theorem Sound.delivers_frames {link : RadioLink config} (sound : Sound crc16Le macs link)
    (whole : link.CarriesWhole) (role : BridgeRole) {pieces : List (FramedPiece config.payloadMax)}
    (stream : (link.station role).read <+: pieces.flatMap FramedPiece.bytes) :
    ∃ frames, (link.station role.peer).written.flatten = frames.flatten ∧
      frames.Sublist (pieces.map FramedPiece.frame) ∧
      (link.lost role = 0 → frames <+: pieces.map FramedPiece.frame) := by
  obtain ⟨unread, read⟩ := stream
  obtain ⟨groups, pending, ahead, carries⟩ := whole role pieces unread read
  obtain ⟨delivered, lossless⟩ := sound.written role
  have emitted : (link.station role).packer.packing.emitted = groups.map List.flatten :=
    carries.emitted
  -- The packets delivered are groups of whole frames.
  rw [emitted] at delivered lossless
  have grouped : ∀ {some : List (List (List UInt8))},
      (link.station role.peer).written = some.map List.flatten →
        (link.station role.peer).written.flatten = some.flatten.flatten := by
    intro some same
    rw [same, List.flatten_flatten]
  have front : groups.flatten <+: pieces.map FramedPiece.frame :=
    ⟨pending ++ ahead.map FramedPiece.frame, by rw [← carries.complete, List.append_assoc]⟩
  by_cases nothing : link.lost role = 0
  · obtain ⟨some, first, same⟩ := List.prefix_map_iff.mp (lossless nothing)
    have frames := first.flatten.trans front
    exact ⟨some.flatten, grouped same, frames.sublist, fun _ => frames⟩
  · obtain ⟨some, among, same⟩ := List.sublist_map_iff.mp delivered
    exact ⟨some.flatten, grouped same, among.flatten.trans front.sublist,
      fun lossless => absurd lossless nothing⟩

variable (link : RadioLink config) (role : BridgeRole)

/-- Nothing read at a port is on its way: the packer holds nothing, and every packet it has handed
out was written or lost. -/
def Idle : Prop :=
  (link.passage role).underWay = [] ∧ (link.station role).packer.packing.scan.packer.packet = [] ∧
    (link.station role).packer.packing.scan.packer.rx = []

variable {link role}

/-- Once nothing is on its way, frames read without noise have all been written, if no packet was
lost. -/
theorem Sound.delivers_all (sound : Sound crc16Le macs link) (whole : link.CarriesWhole)
    {pieces : List (FramedPiece config.payloadMax)} (silent : FramedPiece.Silent pieces)
    (stream : (link.station role).read <+: pieces.flatMap FramedPiece.bytes)
    (lossless : link.lost role = 0) (idle : link.Idle role) :
    (link.station role.peer).written.flatten = (link.station role).read := by
  obtain ⟨unread, read⟩ := stream
  obtain ⟨groups, pending, ahead, carries⟩ := whole role pieces unread read
  obtain ⟨arrived, packet, rx⟩ := idle
  have written : (link.station role.peer).written = groups.map List.flatten := by
    have passed := sound.orderly role
    have nothing : (link.passage role).lost = 0 := lossless
    rw [Passage.Orderly, nothing] at passed
    have all := passed.eq_of_lossless
    rw [Passage.held, arrived, List.append_nil] at all
    exact all.trans carries.emitted
  -- Neither the packet being filled nor the receive buffer holds anything of a frame.
  have frames := congrArg List.flatten carries.complete
  rw [List.flatten_append, List.flatten_append, ← carries.packet, packet, List.append_nil,
    ← silent.flatMap_bytes, ← read, ← (carries.silent silent).flatMap_bytes, ← carries.received,
    rx, List.nil_append] at frames
  rw [written, ← List.flatten_flatten]
  exact List.append_cancel_right frames

/-- The bytes written to a port are whole frames out of those read at the other one, in order; with
no packet lost there is none missing between them. -/
theorem run_delivers_frames (peerMacs : BridgeRole → MacAddress) {events : List LinkEvent}
    (orderly : Along (Orderly macs) (step crc16Le macs) (start peerMacs : RadioLink config) events)
    (role : BridgeRole) {pieces : List (FramedPiece config.payloadMax)}
    (stream : ((run (step crc16Le macs) (start peerMacs : RadioLink config) events).station
      role).read <+: pieces.flatMap FramedPiece.bytes) :
    let link := run (step crc16Le macs) (start peerMacs : RadioLink config) events
    ∃ frames, (link.station role.peer).written.flatten = frames.flatten ∧
      frames.Sublist (pieces.map FramedPiece.frame) ∧
      (link.lost role = 0 → frames <+: pieces.map FramedPiece.frame) :=
  (run_sound peerMacs orderly).delivers_frames
    (run_carriesWhole crc16Le macs peerMacs events) role stream

/-- A frame with noise before it is read on the ground, and written in the air without it. -/
theorem run_delivers_frames_noise :
    ∃ link : RadioLink ⟨237, 16, true, by decide, by decide, by decide, by decide⟩,
      link = run (step espCrc16Le fun role => Vector.replicate 6 role.code)
        (start fun _ => broadcastMac)
        ([.localRead .ground [9, 0xfe, 0, 0, 1, 1, 0, 3, 7], .localIdle .ground,
          .queueFrame .ground, .sendNext .ground ⟨true, true, true⟩, .arrive .ground] ++
            [.localWrite .air 237]) ∧
      (link.station .air).written.flatten = [0xfe, 0, 0, 1, 1, 0, 3, 7] ∧
      ∃ frames : List (List UInt8),
        (link.station BridgeRole.ground.peer).written.flatten = frames.flatten ∧
        frames.Sublist [[0xfe, 0, 0, 1, 1, 0, 3, 7]] := by
  -- The events are orderly one by one, and the packet written is whole.
  have carried : Along (Orderly fun role => Vector.replicate 6 role.code)
      (step espCrc16Le fun role => Vector.replicate 6 role.code)
      (start fun _ => broadcastMac :
        RadioLink ⟨237, 16, true, by decide, by decide, by decide, by decide⟩)
      [.localRead .ground [9, 0xfe, 0, 0, 1, 1, 0, 3, 7], .localIdle .ground, .queueFrame .ground,
        .sendNext .ground ⟨true, true, true⟩, .arrive .ground] :=
    ⟨trivial, trivial, trivial, trivial, trivial, trivial⟩
  have written := Sound.orderly_localWrite (run_sound _ carried) .air (Nat.le_refl 237)
  have orderly := (along_append _ [.localWrite .air 237]).mpr ⟨carried, written, trivial⟩
  -- What was read is one frame with one byte of noise before it.
  obtain ⟨frames, delivered, among, _⟩ := run_delivers_frames _ orderly .ground
    (show _ <+: [(⟨[9], 0, [0, 1, 1, 0, 3, 7], by decide, by decide, by decide⟩ :
      FramedPiece 237)].flatMap FramedPiece.bytes from ⟨[], by decide +kernel⟩)
  exact ⟨_, rfl, by decide +kernel, frames, delivered, among⟩

end RadioLink

end Veloxity
