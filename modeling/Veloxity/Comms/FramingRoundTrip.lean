import Mathlib.Data.List.GetD
import Veloxity.Comms.ParserStream

/-! Frames written one after the other, with noise around them, are all read back. -/

namespace Veloxity

open Library

/-- A MAVLink v1 frame whose message the parser knows. -/
structure V1Frame where
  sequence : UInt8
  systemId : UInt8
  componentId : UInt8
  messageId : UInt8
  payload : List UInt8
  bounded : payload.length ≤ 255
  known : crcExtra messageId ≠ 0

namespace V1Frame

/-- The bytes between the start byte and the payload. -/
def header (frame : V1Frame) : List UInt8 :=
  [frame.payload.length.toUInt8, frame.sequence, frame.systemId, frame.componentId,
    frame.messageId]

/-- The checksum covers header and payload, and the seed of the message. -/
def checksum (frame : V1Frame) : UInt16 :=
  crcAccumulate (crcExtra frame.messageId) (crcOfBytes (frame.header ++ frame.payload) 0xFFFF)

/-- The bytes `encode_frame` writes, the checksum low byte first. -/
def wire (frame : V1Frame) : List UInt8 :=
  startByte :: frame.header ++ frame.payload ++
    [frame.checksum.toUInt8, (frame.checksum >>> 8).toUInt8]

/-- A frame has eight bytes besides its payload. -/
theorem length_wire (frame : V1Frame) : frame.wire.length = 8 + frame.payload.length := by
  simp [wire, header]
  omega

/-- The length byte announces the payload. -/
theorem payloadLength_body (frame : V1Frame) :
    payloadLength (startByte :: frame.header ++ frame.payload) = frame.payload.length := by
  -- A length of at most 255 is its own byte.
  have bounded := frame.bounded
  show frame.payload.length.toUInt8.toNat = frame.payload.length
  rw [Nat.toUInt8, UInt8.toNat_ofNat']
  exact Nat.mod_eq_of_lt (by omega)

/-- The parser computes the frame's own checksum. -/
theorem candidateCrc_body (frame : V1Frame) :
    candidateCrc (startByte :: frame.header ++ frame.payload) = frame.checksum := by
  -- The message is a known one, so its seed is folded in.
  have covered : ((startByte :: frame.header ++ frame.payload).drop 1).take
      (5 + frame.payload.length) = frame.header ++ frame.payload := by
    refine List.take_of_length_le ?_
    simp [header]
    omega
  have message : (startByte :: frame.header ++ frame.payload).getD 5 0 = frame.messageId := rfl
  unfold candidateCrc checksum
  rw [frame.payloadLength_body, covered, message]
  exact if_pos frame.known

/-- The bytes of a frame are one whole frame to the parser. -/
theorem isFrame_wire (frame : V1Frame) : IsFrame frame.wire := by
  -- The checksum the wire ends in is the one of the bytes before it.
  have sealed : frame.wire = sealBody (startByte :: frame.header ++ frame.payload) := by
    rw [sealBody, frame.candidateCrc_body, wire]
  have length : (startByte :: frame.header ++ frame.payload).length =
      6 + payloadLength (startByte :: frame.header ++ frame.payload) := by
    rw [frame.payloadLength_body]
    simp [header]
    omega
  refine ⟨rfl, ?_, ?_⟩
  · rw [sealed, sealBody, List.length_append, payloadLength_append_list (by omega), length]
    simp
    omega
  · rw [sealed]
    exact checksumMatches_sealBody (by omega)

end V1Frame

/-- Bytes without a start byte. -/
abbrev Noise := { bytes : List UInt8 // startByte ∉ bytes }

/-- Frames with noise before each of them and after the last. -/
def framedStream (segments : List (Noise × V1Frame)) (trailing : Noise) : List UInt8 :=
  segments.flatMap (fun segment => segment.1.val ++ segment.2.wire) ++ trailing.val

namespace MavlinkParser

variable {parser : MavlinkParser}

/-- A waiting parser skips noise. -/
theorem feedBytes_noise (waiting : parser.state = .waitingForStart) {noise : List UInt8}
    (free : startByte ∉ noise) : parser.feedBytes noise = .ok (parser, []) := by
  -- Each byte leaves the parser as it is.
  induction noise with
  | nil => rfl
  | cons byte rest ih =>
    rw [List.mem_cons, not_or] at free
    have skipped : parser.feedByte byte = .ok (parser, none) := by
      unfold feedByte
      simp only [waiting, if_neg (Ne.symm free.1)]
      rfl
    have later := ih free.2
    rw [feedBytes] at later ⊢
    rw [feedAll_cons_ok rest skipped, later]
    rfl

/-- A start byte is stored at the front whatever the position of a waiting parser was. -/
theorem feedBytes_start (waiting : parser.state = .waitingForStart) (rest : List UInt8) :
    parser.feedBytes (startByte :: rest) = parser.reset.feedBytes (startByte :: rest) := by
  -- The first step is the same from both.
  have first : parser.feedByte startByte = parser.reset.feedByte startByte := by
    unfold feedByte
    simp only [waiting, reset, if_true]
  simp only [feedBytes, feedAll, first]

/-- A waiting parser emits exactly the frame that is fed to it, and waits again. -/
theorem feedBytes_frame (waiting : parser.state = .waitingForStart) (frame : V1Frame) :
    ∃ next emitted, parser.feedBytes frame.wire = .ok (next, [emitted]) ∧
      next.state = .waitingForStart ∧ emitted.bytes = frame.wire ∧
      emitted.len = frame.wire.length := by
  -- The buffer has room for the longest frame.
  have tracks : parser.reset.Tracks := (reset_represents parser).tracks rfl
  have idle := (reset_represents parser).candidate_eq
  have bounded := frame.bounded
  have fit : parser.reset.candidate.held.length + frame.wire.length ≤ maxFrameSizeBytes := by
    rw [idle, frame.length_wire]
    simp only [Candidate.idle, List.length_nil, maxFrameSizeBytes]
    omega
  obtain ⟨last, outputs, fed, onward, moved, shown⟩ := tracks.feedBytes_of_fit fit
  rw [idle, Candidate.transduce_frame frame.isFrame_wire] at moved shown
  obtain ⟨emitted, rfl⟩ : ∃ emitted, outputs = [emitted] :=
    List.length_eq_one_iff.mp (by simpa using congrArg List.length shown)
  have bytes : emitted.bytes = frame.wire := by simpa using shown
  refine ⟨last, emitted, ?_, ?_, bytes, ?_⟩
  · rw [← fed]
    exact feedBytes_start waiting _
  · rw [onward.represents.phase, moved]
    rfl
  · rw [← bytes]
    exact (feedBytes_padded fed emitted (by simp)).length_bytes.symm

/-- A waiting parser emits exactly the frames of a stream, byte for byte and in order, and waits
again at its end. -/
theorem feedBytes_framedStream (waiting : parser.state = .waitingForStart)
    (segments : List (Noise × V1Frame)) (trailing : Noise) :
    ∃ next emitted, parser.feedBytes (framedStream segments trailing) = .ok (next, emitted) ∧
      next.state = .waitingForStart ∧
      emitted.map CompleteFrame.bytes = segments.map (fun segment => segment.2.wire) ∧
      emitted.map CompleteFrame.len = segments.map (fun segment => segment.2.wire.length) := by
  -- The induction takes one stretch of noise and its frame at a time.
  induction segments generalizing parser with
  | nil => exact ⟨parser, [], feedBytes_noise waiting trailing.property, waiting, rfl, rfl⟩
  | cons segment rest ih =>
    obtain ⟨noise, frame⟩ := segment
    have skipped := feedBytes_noise waiting noise.property
    obtain ⟨next, first, fed, again, bytes, len⟩ := feedBytes_frame waiting frame
    obtain ⟨last, others, finished, final, otherBytes, otherLens⟩ := ih again
    refine ⟨last, first :: others, ?_, final, ?_, ?_⟩
    · have split : framedStream ((noise, frame) :: rest) trailing =
          noise.val ++ (frame.wire ++ framedStream rest trailing) := by
        simp [framedStream]
      rw [feedBytes] at skipped fed finished ⊢
      rw [split, feedAll_append_of_ok skipped, feedAll_append_of_ok fed, finished]
      rfl
    · rw [List.map_cons, List.map_cons, otherBytes, bytes]
    · rw [List.map_cons, List.map_cons, otherLens, len]

/-- A frame without payload, numbered by a start byte. -/
def heartbeatFrame : V1Frame :=
  { sequence := 0xFE, systemId := 1, componentId := 1, messageId := 0, payload := [],
    bounded := by decide, known := by decide }

/-- A frame whose payload holds start bytes. -/
def startBytesFrame : V1Frame :=
  { sequence := 0, systemId := 1, componentId := 1, messageId := 111,
    payload := [0xFE, 0, 0xFE], bounded := by decide, known := by decide }

/-- Two frames full of start bytes are read back through noise. -/
theorem feedBytes_framedStream_new :
    ∃ next emitted, new.feedBytes (framedStream [(⟨[7], by decide⟩, heartbeatFrame),
        (⟨[], by decide⟩, startBytesFrame)] ⟨[1, 2], by decide⟩) = .ok (next, emitted) ∧
      next.state = .waitingForStart ∧
      emitted.map CompleteFrame.bytes = [heartbeatFrame.wire, startBytesFrame.wire] ∧
      emitted.map CompleteFrame.len = [8, 11] :=
  feedBytes_framedStream rfl _ _

end MavlinkParser

end Veloxity
