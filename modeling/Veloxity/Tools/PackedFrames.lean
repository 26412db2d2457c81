import Veloxity.Tools.FramePackerLaws

/-! The packets of the frame packer are the frames it received, and nothing else. -/

namespace Veloxity

open Library

/-- A frame that fits into a packet, behind bytes that cannot start one. -/
structure FramedPiece (maxPacketLen : Nat) where
  noise : List UInt8
  second : UInt8
  body : List UInt8
  quiet : mavlinkV1Stx ∉ noise
  whole : (mavlinkV1Stx :: second :: body).length = 8 + second.toNat
  fits : 8 + second.toNat ≤ maxPacketLen

namespace FramedPiece

variable {maxPacketLen : Nat}

/-- The bytes of the frame. -/
def frame (piece : FramedPiece maxPacketLen) : List UInt8 :=
  mavlinkV1Stx :: piece.second :: piece.body

/-- The bytes of the piece. -/
def bytes (piece : FramedPiece maxPacketLen) : List UInt8 := piece.noise ++ piece.frame

/-- A frame is as long as its second byte tells. -/
theorem length_frame (piece : FramedPiece maxPacketLen) :
    piece.frame.length = PackerScan.frameLength piece.second := by
  -- The header and the checksum are eight bytes.
  rw [frame, piece.whole, PackerScan.frameLength, mavlinkV1HeaderLen, mavlinkV1ChecksumLen]
  omega

end FramedPiece

/-- The packets handed out and the one being filled hold whole frames, all of those received. -/
structure PacksFrames (frames : List (List UInt8)) (groups : List (List (List UInt8)))
    (pending : List (List UInt8)) (scan : PackerScan) : Prop where
  emitted : scan.emitted = groups.map List.flatten
  packet : scan.packer.packet = pending.flatten
  complete : groups.flatten ++ pending = frames
  bounded : ∀ packet ∈ scan.emitted, packet.length ≤ scan.packer.maxPacketLen
  filled : scan.packer.packet.length ≤ scan.packer.maxPacketLen
  undropped : scan.packer.drops = 0

namespace PacksFrames

variable {frames : List (List UInt8)} {groups : List (List (List UInt8))}
  {pending : List (List UInt8)} {scan : PackerScan}

/-- An accepted packet takes the pending frames with it. -/
theorem sent (packs : PacksFrames frames groups pending scan) :
    PacksFrames frames (groups ++ [pending]) [] (scan.sent fun _ => true) where
  -- The pending frames become the group of the packet sent.
  emitted := by
    rw [PackerScan.sent, packs.emitted, packs.packet, List.map_append]
    rfl
  packet := rfl
  complete := by
    rw [List.flatten_append, List.flatten_singleton, List.append_nil, packs.complete]
  bounded := by
    intro packet member
    rcases List.mem_append.mp member with before | last
    · exact packs.bounded packet before
    · rw [List.mem_singleton.mp last]
      exact packs.filled
  filled := Nat.zero_le _
  undropped := packs.undropped

/-- Making room for a frame hands out whole frames only. -/
theorem makeRoom (packs : PacksFrames frames groups pending scan) (frameLen : Nat) :
    ∃ groups pending,
      PacksFrames frames groups pending (scan.makeRoom (fun _ => true) frameLen) := by
  -- Either the packet is handed out or nothing happens.
  rw [PackerScan.makeRoom]
  split
  · exact ⟨_, _, packs.sent⟩
  · exact ⟨_, _, packs⟩

/-- A frame that has room is appended to the packet being filled. -/
theorem packed (packs : PacksFrames frames groups pending scan) {frame later : List UInt8}
    (received : scan.packer.rx = frame ++ later)
    (room : scan.packer.packet.length + frame.length ≤ scan.packer.maxPacketLen) :
    PacksFrames (frames ++ [frame]) groups (pending ++ [frame]) (scan.packed frame.length) where
  -- The frame moves from the bytes received to the packet being filled.
  emitted := packs.emitted
  packet := by
    simp [PackerScan.packed, packs.packet, received]
  complete := by
    rw [← List.append_assoc, packs.complete]
  bounded := packs.bounded
  filled := by
    simpa [PackerScan.packed, received] using room
  undropped := packs.undropped

/-- Received bytes that are not yet used do not matter. -/
theorem withRx (packs : PacksFrames frames groups pending scan) (rx : List UInt8) :
    PacksFrames frames groups pending (scan.withRx rx) :=
  ⟨packs.emitted, packs.packet, packs.complete, packs.bounded, packs.filled, packs.undropped⟩

end PacksFrames

namespace PackerScan

/-- Noise is used up without a trace. -/
theorem reaches_quiet (emit : List UInt8 → Bool) (scan : PackerScan) {noise later : List UInt8}
    (quiet : mavlinkV1Stx ∉ noise) (received : scan.packer.rx = noise ++ later) :
    Reaches (step emit) scan (scan.withRx later) := by
  -- The induction is on the noise, which the scan drops byte by byte.
  induction noise generalizing scan with
  | nil =>
    have same : scan.withRx later = scan := by
      rw [withRx, ← show scan.packer.rx = later from received]
    rw [same]
    exact .refl _
  | cons first rest ih =>
    rw [List.mem_cons, not_or] at quiet
    exact .head (step_noise received (Ne.symm quiet.1)) (ih (scan.withRx _) quiet.2 rfl)

/-- A piece of the stream leaves its frame with those packed before. -/
theorem reaches_piece {maxPacketLen : Nat} {frames : List (List UInt8)}
    {groups : List (List (List UInt8))} {pending : List (List UInt8)} {scan : PackerScan}
    (packs : PacksFrames frames groups pending scan)
    (limit : scan.packer.maxPacketLen = maxPacketLen) (piece : FramedPiece maxPacketLen)
    {later : List UInt8} (received : scan.packer.rx = piece.bytes ++ later) :
    ∃ next groups pending, Reaches (step fun _ => true) scan next ∧
      PacksFrames (frames ++ [piece.frame]) groups pending next ∧
      next.packer.maxPacketLen = maxPacketLen ∧ next.packer.rx = later := by
  -- The noise goes first, and then the frame is all there.
  have quieted : Reaches (step fun _ => true) scan (scan.withRx (piece.frame ++ later)) :=
    reaches_quiet _ scan piece.quiet (by rw [received, FramedPiece.bytes, List.append_assoc])
  have packsQuiet := packs.withRx (piece.frame ++ later)
  have fits : frameLength piece.second ≤ scan.packer.maxPacketLen := by
    rw [limit, ← piece.length_frame]
    exact Nat.le_trans (Nat.le_of_eq piece.whole) piece.fits
  have whole : frameLength piece.second ≤ (piece.frame ++ later).length := by
    rw [← piece.length_frame, List.length_append]
    exact Nat.le_add_right _ _
  have stepped : (scan.withRx (piece.frame ++ later)).step (fun _ => true) = _ :=
    step_frame rfl fits whole
  obtain ⟨groups', pending', roomy⟩ := packsQuiet.makeRoom (frameLength piece.second)
  have room : ((scan.withRx (piece.frame ++ later)).makeRoom (fun _ => true)
      (frameLength piece.second)).packer.packet.length + frameLength piece.second ≤
        scan.packer.maxPacketLen := makeRoom_fits fits
  have packed := roomy.packed (makeRoom_rx _) (by
    rw [piece.length_frame, makeRoom_maxPacketLen]
    exact room)
  rw [piece.length_frame] at packed
  refine ⟨_, _, _, quieted.trans (.single stepped), packed, ?_, ?_⟩
  · exact (makeRoom_maxPacketLen _).trans limit
  · rw [PackerScan.packed, makeRoom_rx, ← piece.length_frame]
    exact List.drop_left

/-- The pieces of a stream leave their frames in order. -/
theorem reaches_pieces {maxPacketLen : Nat} (pieces : List (FramedPiece maxPacketLen))
    {frames : List (List UInt8)} {groups : List (List (List UInt8))}
    {pending : List (List UInt8)} {scan : PackerScan}
    (packs : PacksFrames frames groups pending scan)
    (limit : scan.packer.maxPacketLen = maxPacketLen) {later : List UInt8}
    (received : scan.packer.rx = pieces.flatMap FramedPiece.bytes ++ later) :
    ∃ next groups pending, Reaches (step fun _ => true) scan next ∧
      PacksFrames (frames ++ pieces.map FramedPiece.frame) groups pending next ∧
      next.packer.maxPacketLen = maxPacketLen ∧ next.packer.rx = later := by
  -- The pieces behind the first one wait behind its frame.
  induction pieces generalizing frames groups pending scan with
  | nil =>
    refine ⟨scan, groups, pending, .refl _, ?_, limit, received⟩
    rw [List.map_nil, List.append_nil]
    exact packs
  | cons piece rest ih =>
    rw [List.flatMap_cons, List.append_assoc] at received
    obtain ⟨middle, _, _, reached, packed, kept, remains⟩ :=
      reaches_piece packs limit piece received
    obtain ⟨last, groups', pending', onward, complete, final, left⟩ := ih packed kept remains
    refine ⟨last, groups', pending', reached.trans onward, ?_, final, left⟩
    rw [List.map_cons, ← List.singleton_append, ← List.append_assoc]
    exact complete

end PackerScan

namespace Packing

/-- A packer that has just been set up has packed no frames. -/
theorem start_packsFrames (maxPacketLen : Nat) (bytes : List UInt8) :
    PacksFrames [] [] [] ((start maxPacketLen).scan.feed bytes) where
  -- Both the packet and the list of packets are empty.
  emitted := rfl
  packet := rfl
  complete := rfl
  bounded := fun _ absent => absurd absent List.not_mem_nil
  filled := Nat.zero_le _
  undropped := rfl

/-- Flushing keeps the limit. -/
theorem flush_maxPacketLen (emit : List UInt8 → Bool) (packing : Packing) :
    (packing.flush emit).packer.maxPacketLen = packing.packer.maxPacketLen := by
  -- Only the packet and a counter change.
  simp only [flush]
  split <;> rfl

/-- Flushing hands out the frames that were pending. -/
theorem flush_packsFrames {packing : Packing} {frames : List (List UInt8)}
    {groups : List (List (List UInt8))} {pending : List (List UInt8)}
    (packs : PacksFrames frames groups pending packing.scan)
    (nonempty : ∀ frame ∈ frames, frame ≠ []) :
    ∃ groups, PacksFrames frames groups [] (packing.flush fun _ => true).scan := by
  -- An empty packet holds no frame, and another one is handed out.
  by_cases filled : packing.packer.packet.length = 0
  · rw [flush, if_pos filled]
    have none_pending : pending = [] := by
      have flat : pending.flatten = [] := by
        rw [← packs.packet]
        exact List.eq_nil_of_length_eq_zero filled
      rcases pending with - | ⟨frame, rest⟩
      · rfl
      · rw [List.flatten_cons, List.append_eq_nil_iff] at flat
        refine absurd flat.1 (nonempty frame ?_)
        rw [← packs.complete]
        simp
    exact ⟨groups, none_pending ▸ packs⟩
  · rw [flush, if_neg filled]
    exact ⟨_, packs.sent⟩

/-- Frames that fit into packets, with bytes around them that cannot start one, come out of a new
packer in order and whole, in packets that are never too long, however the stream is cut. -/
theorem flush_framedStream (requested : Nat)
    (pieces : List (FramedPiece (MavlinkFramePacker.init requested).maxPacketLen))
    {tail : List UInt8} {chunks : List (List UInt8)} (quiet : mavlinkV1Stx ∉ tail)
    (cut : chunks.flatten = pieces.flatMap FramedPiece.bytes ++ tail) :
    ∃ pushed, (start requested).pushAll (fun _ => true) chunks = .ok pushed ∧
      let flushed := pushed.flush fun _ => true
      flushed.emitted.flatten = (pieces.map FramedPiece.frame).flatten ∧
      (∃ groups : List (List (List UInt8)), flushed.emitted = groups.map List.flatten ∧
        groups.flatten = pieces.map FramedPiece.frame) ∧
      (∀ packet ∈ flushed.emitted,
        packet.length ≤ (MavlinkFramePacker.init requested).maxPacketLen) ∧
      flushed.packer.drops = 0 := by
  -- The scan settles behind the last frame, and so does the packer.
  obtain ⟨pushed, accepted, settled, sound⟩ := pushAll_spec (fun _ => true) requested chunks
  obtain ⟨last, groups, pending, reached, packs, limit, received⟩ :=
    PackerScan.reaches_pieces pieces (start_packsFrames requested chunks.flatten) rfl cut
  have quieted : Reaches (PackerScan.step fun _ => true) last (last.withRx []) :=
    PackerScan.reaches_quiet _ last quiet (by rw [received, List.append_nil])
  have same : pushed.scan = last.withRx [] :=
    settled.unique ⟨reached.trans quieted, rfl⟩
  have final := packs.withRx []
  rw [List.nil_append, ← same] at final
  obtain ⟨flushedGroups, flushed⟩ := flush_packsFrames final (by
    intro frame member
    obtain ⟨piece, _, rfl⟩ := List.mem_map.mp member
    exact List.cons_ne_nil _ _)
  have emitted := flushed.emitted
  have complete := flushed.complete
  rw [List.append_nil] at complete
  refine ⟨pushed, accepted, ?_, ⟨flushedGroups, emitted, complete⟩, ?_, flushed.undropped⟩
  · rw [← complete, List.flatten_flatten]
    exact congrArg List.flatten emitted
  · have keptLimit : (pushed.flush fun _ => true).packer.maxPacketLen =
        (MavlinkFramePacker.init requested).maxPacketLen := by
      rw [flush_maxPacketLen, ← limit]
      exact congrArg (·.packer.maxPacketLen) same
    rw [← keptLimit]
    exact flushed.bounded

/-- A frame with a start byte in its payload, behind two bytes of noise. -/
def noisyPiece : FramedPiece 11 where
  noise := [0x00, 0x11]
  second := 3
  body := [5, 1, 250, 181, 0xfe, 6, 7, 0xaa, 0x55]
  quiet := by decide
  whole := by decide
  fits := by decide

/-- A frame without payload. -/
def shortPiece : FramedPiece 11 where
  noise := []
  second := 0
  body := [6, 1, 250, 181, 0xaa, 0x55]
  quiet := by decide
  whole := by decide
  fits := by decide

/-- Two frames that do not fit into one packet come out in two, though calls cut them both. -/
theorem twoPieces_packed :
    ∃ pushed, (start 11).pushAll (fun _ => true)
        [[0x00, 0x11, 0xfe, 3, 5, 1, 250], [181, 0xfe, 6, 7, 0xaa, 0x55, 0xfe],
          [0, 6, 1, 250, 181, 0xaa, 0x55, 0x22]] = .ok pushed ∧
      let flushed := pushed.flush fun _ => true
      flushed.emitted.flatten = ([noisyPiece, shortPiece].map FramedPiece.frame).flatten ∧
      (∃ groups : List (List (List UInt8)), flushed.emitted = groups.map List.flatten ∧
        groups.flatten = [noisyPiece, shortPiece].map FramedPiece.frame) ∧
      (∀ packet ∈ flushed.emitted,
        packet.length ≤ (MavlinkFramePacker.init 11).maxPacketLen) ∧
      flushed.packer.drops = 0 :=
  @flush_framedStream 11 [noisyPiece, shortPiece] [0x22] _ (by decide) (by decide)

end Packing

end Veloxity
