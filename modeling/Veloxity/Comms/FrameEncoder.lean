import Mathlib.Data.List.ReduceOption
import Veloxity.Boards.Downlink
import Veloxity.Comms.FramingRoundTrip

/-! The frames the vehicle sends, encoded where they are sent or on the core that sends them. -/

namespace Veloxity

open Library

/-- The component that sends the frames. -/
def mavCompIdRosflightFirmware : UInt8 := 250

/-- The bytes of the longest frame. -/
def mavlinkV1MessageSize : Nat := 263

namespace DownlinkKind

/-- The number of the message that a kind is sent as. -/
def messageId : DownlinkKind → UInt8
  | heartbeat => 0
  | paramValue => 22
  | attitude => 31
  | rcRaw | rcChannels => 65
  | timesync => 111
  | imu => 181
  | mag => 182
  | baro => 183
  | diffPressure => 184
  | range => 187
  | cmdAck => 189
  | outputRaw => 190
  | status => 191
  | version => 192
  | hardError => 196
  | gnss => 197
  | batteryStatus => 199
  | statustext => 253

/-- The parser knows every message that is sent. -/
theorem known_messageId (kind : DownlinkKind) : crcExtra kind.messageId ≠ 0 := by
  cases kind <;> decide

/-- The priority a kind is sent with: telemetry may be replaced, the rest is critical. -/
def txPriority : DownlinkKind → UInt8
  | heartbeat | paramValue | status | timesync | version | cmdAck | statustext | hardError => 224
  | outputRaw | attitude | baro | diffPressure | imu | mag | rcRaw | range | gnss | rcChannels
  | batteryStatus => 32

end DownlinkKind

/-- How the generated code lays out the payload of a message, where it can. -/
structure PayloadFormat (Payload : DownlinkKind → Type) where
  bytes : DownlinkMessage Payload → Option (List UInt8)
  bounded : ∀ msg payload, bytes msg = some payload → payload.length ≤ 255

section Encoding

variable {Payload : DownlinkKind → Type} (format : PayloadFormat Payload)

/-- The frame of a message. -/
def frameBuilderWithSequence (componentId systemId sequence : UInt8)
    (msg : DownlinkMessage Payload) : Option V1Frame :=
  match encoded : format.bytes msg with
  | none => none
  | some payload => some {
      sequence, systemId, componentId, messageId := msg.kind.messageId, payload
      bounded := format.bounded msg payload encoded
      known := msg.kind.known_messageId }

/-- The bytes of a frame, written into a buffer of a given size if they fit. -/
def encodeFrame (frame : V1Frame) (out : Nat) : Option (List UInt8) :=
  let payload := frame.payload
  let crc := frame.checksum
  if out < payload.length + 8 then none
  else some ([startByte, payload.length.toUInt8, frame.sequence, frame.systemId,
    frame.componentId, frame.messageId] ++ payload ++ [crc.toUInt8, (crc >>> 8).toUInt8])

/-- The encoder of the core that sends the frames. -/
structure MavlinkFrameEncoder where
  componentId : UInt8
  sequence : UInt8
  deriving DecidableEq, Repr

/-- An encoder that has encoded nothing. -/
def MavlinkFrameEncoder.new : MavlinkFrameEncoder := ⟨mavCompIdRosflightFirmware, 0⟩

/-- Encode a message under the next number, which is used up whether or not it can be encoded. -/
def MavlinkFrameEncoder.encodeDownlink (encoder : MavlinkFrameEncoder) (systemId : UInt8)
    (msg : DownlinkMessage Payload) (out : Nat) : Option (List UInt8) × MavlinkFrameEncoder :=
  let sequence := encoder.sequence
  let encoder := { encoder with sequence := encoder.sequence + 1 }
  match frameBuilderWithSequence format encoder.componentId systemId sequence msg with
  | none => (none, encoder)
  | some frame => (encodeFrame frame out, encoder)

/-- The interface of the core that flies to the serial link. -/
structure MavlinkInterface where
  componentId : UInt8
  sequence : UInt8
  mavParser : MavlinkParser

/-- An interface that has neither sent nor received anything. -/
def MavlinkInterface.new : MavlinkInterface := ⟨mavCompIdRosflightFirmware, 0, .new⟩

/-- What a board offers for sending: a queue for messages that another core encodes, if it has
one, and a port for encoded frames. -/
structure SerialTx (β : Type) (Payload : DownlinkKind → Type) where
  enqueueDownlink : β → UInt8 → DownlinkMessage Payload → UInt8 → Option β
  writePriority : β → List UInt8 → UInt8 → β

/-- Hand a message to the core that encodes it, or encode it and write it to the port. -/
def MavlinkInterface.sendDownlinkOrMessage {β : Type} (serial : SerialTx β Payload)
    (interface : MavlinkInterface) (board : β) (systemId : UInt8)
    (msg : DownlinkMessage Payload) : MavlinkInterface × β :=
  let priority := msg.kind.txPriority
  match serial.enqueueDownlink board systemId msg priority with
  | some board => (interface, board)
  | none =>
    let sequence := interface.sequence
    let interface := { interface with sequence := interface.sequence + 1 }
    match frameBuilderWithSequence format interface.componentId systemId sequence msg with
    | none => (interface, board)
    | some frame =>
      let payload := frame.payload
      let crc := frame.checksum
      -- The body of a frame is its payload and its checksum.
      if mavlinkV1MessageSize < payload.length + 2 then (interface, board)
      else
        let buf := [startByte, payload.length.toUInt8, frame.sequence, frame.systemId,
          frame.componentId, frame.messageId] ++ payload ++ [crc.toUInt8, (crc >>> 8).toUInt8]
        (interface, serial.writePriority board buf priority)

variable {format}

/-- A frame that fits is written as it goes over the wire. -/
theorem encodeFrame_eq (frame : V1Frame) {out : Nat} (room : mavlinkV1MessageSize ≤ out) :
    encodeFrame frame out = some frame.wire := by
  have bounded := frame.bounded
  -- A payload has at most 255 bytes, so the frame is no longer than the longest one.
  have fits : ¬ out < frame.payload.length + 8 := by
    simp only [mavlinkV1MessageSize] at room
    omega
  rw [encodeFrame, if_neg fits]
  rfl

/-- Encoding a message into a buffer with room gives the bytes of its frame. -/
theorem MavlinkFrameEncoder.encodeDownlink_eq (encoder : MavlinkFrameEncoder) (systemId : UInt8)
    (msg : DownlinkMessage Payload) {out : Nat} (room : mavlinkV1MessageSize ≤ out) :
    encoder.encodeDownlink format systemId msg out =
      ((frameBuilderWithSequence format encoder.componentId systemId encoder.sequence msg).map
        V1Frame.wire, { encoder with sequence := encoder.sequence + 1 }) := by
  simp only [encodeDownlink]
  cases frameBuilderWithSequence format encoder.componentId systemId encoder.sequence msg with
  | none => rfl
  | some frame => simp only [encodeFrame_eq frame room, Option.map_some]

end Encoding

/-- Those of some frames, written one after the other, of which the first bytes hold the whole. -/
def V1Frame.complete : List V1Frame → Nat → List V1Frame
  | [], _ => []
  | frame :: rest, length =>
    if frame.wire.length ≤ length then frame :: complete rest (length - frame.wire.length) else []

namespace MavlinkParser

/-- A waiting parser puts nothing out for a part of a frame. -/
theorem feedBytes_part {parser : MavlinkParser} (waiting : parser.state = .waitingForStart)
    {frame : V1Frame} {part : List UInt8} (front : part <+: frame.wire)
    (short : part.length < frame.wire.length) :
    ∃ next, parser.feedBytes part = .ok (next, []) := by
  cases part with
  | nil => exact ⟨parser, rfl⟩
  | cons first more =>
    obtain ⟨start, whole, _⟩ := frame.isFrame_wire
    obtain ⟨body, last, split, _, unfinished⟩ := Candidate.unfinished_dropLast whole
    rw [split] at front short start
    -- The part is one of what the last byte completes.
    obtain ⟨missing, rest⟩ := List.prefix_of_prefix_length_le front (List.prefix_append body [last])
      (by rw [List.length_append, List.length_singleton] at short; omega)
    have begun : (first :: more).head? = some startByte := by
      obtain ⟨_, joined⟩ := front
      rw [← joined] at start
      exact start
    have begins : Unfinished (first :: more) := by
      rw [← rest] at unfinished
      exact unfinished.of_append
    have tracks : parser.reset.Tracks := (reset_represents parser).tracks rfl
    have idle := (reset_represents parser).candidate_eq
    have bounded := frame.bounded
    have fit : parser.reset.candidate.held.length + (first :: more).length ≤ maxFrameSizeBytes := by
      rw [← split, frame.length_wire] at short
      rw [idle]
      simp only [Candidate.idle, List.length_nil, maxFrameSizeBytes]
      omega
    obtain ⟨next, outputs, fed, _, _, shown⟩ := tracks.feedBytes_of_fit fit
    rw [idle, Candidate.transduce_idle begun begins] at shown
    obtain rfl := List.map_eq_nil_iff.mp shown
    obtain rfl : first = startByte := Option.some.inj begun
    exact ⟨next, (feedBytes_start waiting more).trans fed⟩

/-- From the first bytes of frames that are written one after the other, a waiting parser puts out
exactly the frames that are complete in them. -/
theorem feedBytes_front {parser : MavlinkParser} (waiting : parser.state = .waitingForStart)
    {frames : List V1Frame} {bytes : List UInt8} (front : bytes <+: frames.flatMap V1Frame.wire) :
    ∃ next emitted, parser.feedBytes bytes = .ok (next, emitted) ∧
      emitted.map CompleteFrame.bytes =
        (V1Frame.complete frames bytes.length).map V1Frame.wire := by
  induction frames generalizing parser bytes with
  | nil =>
    obtain rfl := List.prefix_nil.mp front
    exact ⟨parser, [], rfl, rfl⟩
  | cons frame rest ih =>
    rw [List.flatMap_cons] at front
    by_cases whole : frame.wire.length ≤ bytes.length
    · obtain ⟨more, rfl⟩ := List.prefix_of_prefix_length_le (List.prefix_append _ _) front whole
      obtain ⟨next, first, fed, again, shown, _⟩ := feedBytes_frame waiting frame
      obtain ⟨last, others, finished, otherBytes⟩ :=
        ih again ((List.prefix_append_right_inj frame.wire).mp front)
      refine ⟨last, first :: others, ?_, ?_⟩
      · rw [feedBytes] at fed finished ⊢
        rw [feedAll_append_of_ok fed, finished]
        rfl
      · rw [V1Frame.complete, if_pos whole, List.length_append, Nat.add_sub_cancel_left,
          List.map_cons, List.map_cons, otherBytes, shown]
    · -- The first frame is cut off.
      have short : bytes.length < frame.wire.length := Nat.lt_of_not_le whole
      obtain ⟨next, fed⟩ := feedBytes_part waiting
        (List.prefix_of_prefix_length_le front (List.prefix_append _ _) short.le) short
      refine ⟨next, [], fed, ?_⟩
      rw [V1Frame.complete, if_neg whole]
      rfl

/-- A waiting parser reads back frames that are written one after the other. -/
theorem feedBytes_wires {parser : MavlinkParser} (waiting : parser.state = .waitingForStart)
    (frames : List V1Frame) :
    ∃ next emitted, parser.feedBytes (frames.flatMap V1Frame.wire) = .ok (next, emitted) ∧
      next.state = .waitingForStart ∧
      emitted.map CompleteFrame.bytes = frames.map V1Frame.wire := by
  -- After each frame the parser waits for the next start byte.
  induction frames generalizing parser with
  | nil => exact ⟨parser, [], rfl, waiting, rfl⟩
  | cons frame rest ih =>
    obtain ⟨next, first, fed, again, bytes, _⟩ := feedBytes_frame waiting frame
    obtain ⟨last, others, finished, final, otherBytes⟩ := ih again
    refine ⟨last, first :: others, ?_, final,
      by rw [List.map_cons, List.map_cons, otherBytes, bytes]⟩
    rw [feedBytes] at fed finished ⊢
    rw [List.flatMap_cons, feedAll_append_of_ok fed, finished]
    rfl

end MavlinkParser

section Agreement

variable {Payload : DownlinkKind → Type} (format : PayloadFormat Payload)

/-- The bytes the sending core encodes at a time. -/
def uartTxBatchBytes : Nat := 512

/-- The frames of messages that are sent one after the other, each under the next number. -/
def numberedFrames (componentId sequence : UInt8) :
    List (QueuedDownlinkMessage Payload) → List (Option V1Frame)
  | [] => []
  | queued :: rest =>
    frameBuilderWithSequence format componentId queued.systemId sequence queued.msg ::
      numberedFrames componentId (sequence + 1) rest

/-- A board without a queue for messages, whose port takes every frame. -/
def inlineSerial : SerialTx (List (List UInt8)) Payload where
  enqueueDownlink _ _ _ _ := none
  writePriority written bytes _ := written ++ [bytes]

/-- Send a message from the core that flies. -/
def sendInline (sent : MavlinkInterface × List (List UInt8))
    (queued : QueuedDownlinkMessage Payload) : MavlinkInterface × List (List UInt8) :=
  sent.1.sendDownlinkOrMessage format inlineSerial sent.2 queued.systemId queued.msg

/-- Encode a message on the core that sends. -/
def encodeOffloaded (sent : MavlinkFrameEncoder × List (List UInt8))
    (queued : QueuedDownlinkMessage Payload) : MavlinkFrameEncoder × List (List UInt8) :=
  let (bytes, encoder) :=
    sent.1.encodeDownlink format queued.systemId queued.msg uartTxBatchBytes
  (encoder, sent.2 ++ bytes.toList)

variable {format}

/-- A message sent from the core that flies is its frame under the next number, if it has one. -/
theorem sendInline_eq (interface : MavlinkInterface) (written : List (List UInt8))
    (queued : QueuedDownlinkMessage Payload) :
    sendInline format (interface, written) queued =
      ({ interface with sequence := interface.sequence + 1 },
        written ++ ((frameBuilderWithSequence format interface.componentId queued.systemId
          interface.sequence queued.msg).map V1Frame.wire).toList) := by
  simp only [sendInline, MavlinkInterface.sendDownlinkOrMessage, inlineSerial]
  cases frameBuilderWithSequence format interface.componentId queued.systemId
    interface.sequence queued.msg with
  | none => simp
  | some frame =>
    have bounded := frame.bounded
    -- A payload has at most 255 bytes, so its checksum fits the buffer behind it.
    have fits : ¬ mavlinkV1MessageSize < frame.payload.length + 2 := by
      simp only [mavlinkV1MessageSize]
      omega
    simp only [if_neg fits]
    rfl

/-- Messages sent one after the other are their numbered frames. -/
theorem run_sendInline (interface : MavlinkInterface) (written : List (List UInt8))
    (messages : List (QueuedDownlinkMessage Payload)) :
    (run (sendInline format) (interface, written) messages).2 =
      written ++ (numberedFrames format interface.componentId interface.sequence
        messages).reduceOption.map V1Frame.wire := by
  -- The induction moves the number and the frames written along with the messages.
  induction messages generalizing interface written with
  | nil => simp [numberedFrames]
  | cons queued rest ih =>
    rw [run_cons, sendInline_eq, ih, numberedFrames, List.append_assoc]
    congr 1
    cases frameBuilderWithSequence format interface.componentId queued.systemId
      interface.sequence queued.msg <;> simp

/-- Messages encoded one after the other are their numbered frames. -/
theorem run_encodeOffloaded (encoder : MavlinkFrameEncoder) (written : List (List UInt8))
    (messages : List (QueuedDownlinkMessage Payload)) :
    (run (encodeOffloaded format) (encoder, written) messages).2 =
      written ++ (numberedFrames format encoder.componentId encoder.sequence
        messages).reduceOption.map V1Frame.wire := by
  -- The induction moves the number and the frames written along with the messages.
  induction messages generalizing encoder written with
  | nil => simp [numberedFrames]
  | cons queued rest ih =>
    rw [run_cons, encodeOffloaded, encoder.encodeDownlink_eq _ _ (by decide), ih, numberedFrames,
      List.append_assoc]
    congr 1
    cases frameBuilderWithSequence format encoder.componentId queued.systemId
      encoder.sequence queued.msg <;> simp

/-- Whichever core encodes the messages, from the same number on the same bytes are sent, and a
parser reads back exactly the frames of the messages, numbered one after the other. -/
theorem encodings_agree (componentId sequence : UInt8) (mavParser : MavlinkParser)
    (messages : List (QueuedDownlinkMessage Payload)) :
    let frames := (numberedFrames format componentId sequence messages).reduceOption
    let inline := (run (sendInline format) (⟨componentId, sequence, mavParser⟩, []) messages).2
    let offloaded := (run (encodeOffloaded format) (⟨componentId, sequence⟩, []) messages).2
    inline = offloaded ∧ offloaded = frames.map V1Frame.wire ∧
      ∃ next emitted, MavlinkParser.new.feedBytes offloaded.flatten = .ok (next, emitted) ∧
        emitted.map CompleteFrame.bytes = frames.map V1Frame.wire := by
  intro frames inline offloaded
  -- Both encoders write the frames under consecutive numbers.
  have written : offloaded = frames.map V1Frame.wire :=
    run_encodeOffloaded ⟨componentId, sequence⟩ [] messages
  refine ⟨(run_sendInline _ _ _).trans written.symm, written, ?_⟩
  obtain ⟨next, emitted, fed, _, bytes⟩ := MavlinkParser.feedBytes_wires
    (show MavlinkParser.new.state = .waitingForStart from rfl) frames
  refine ⟨next, emitted, ?_, bytes⟩
  rw [written, ← List.flatMap_def]
  exact fed

end Agreement

end Veloxity
