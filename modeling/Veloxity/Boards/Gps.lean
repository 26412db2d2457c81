import Mathlib.Data.List.Forall2
import Veloxity.Boards.GnssPacket
import Veloxity.Boards.UbxFrames

/-! The GNSS receiver of an RP2350 board, fed one byte at a time. -/

namespace Veloxity

open Library

variable {F D : Type} [FlightFloat F] [FlightFloat D]

/-- The class of navigation messages. -/
def navPvtClass : UInt8 := 0x01

/-- The identifier of the position, velocity and time solution. -/
def navPvtId : UInt8 := 0x07

/-- The payload length of the position, velocity and time solution. -/
def navPvtLen : Nat := 92

/-- Build a packet for the receiver, if the output buffer has room for it. -/
def makeUbxPacket (cls id : UInt8) (payload : List UInt8) (out : Nat) : Option (List UInt8) :=
  let len := payload.length
  if out < len + 8 then none
  else
    let body := cls :: id :: toLeBytes 2 (len % 65536) ++ payload
    let sums := checksum body
    some (ubxSync1 :: ubxSync2 :: body ++ [sums.1, sums.2])

/-- The packet decoded from the payload of a position, velocity and time solution. -/
def navPvtPacket (payload : List UInt8) (nowUs : Nat) : NavPvtPacket F D :=
  let valid := u8At payload 11
  let flags := u8At payload 21
  let flags2 := u8At payload 22
  let flags3 := u16At payload 78
  { header := { timestamp := nowUs, status := (navPvtStatus valid flags flags2 flags3).toNat }
    unixSeconds := unixSecondsFromUtc (u16At payload 4) (u8At payload 6) (u8At payload 7)
      (u8At payload 8) (u8At payload 9) (u8At payload 10)
    unixNanos := i32At payload 16
    lat := FlightFloat.lit (i32At payload 28) * FlightFloat.lit 1e-7
    lon := FlightFloat.lit (i32At payload 24) * FlightFloat.lit 1e-7
    heightMsl := FlightFloat.lit (i32At payload 36) / FlightFloat.lit 1000
    velN := FlightFloat.lit (i32At payload 48) / FlightFloat.lit 1000
    velE := FlightFloat.lit (i32At payload 52) / FlightFloat.lit 1000
    velD := FlightFloat.lit (i32At payload 56) / FlightFloat.lit 1000
    hAcc := FlightFloat.lit (u32At payload 40) / FlightFloat.lit 1000
    vAcc := FlightFloat.lit (u32At payload 44) / FlightFloat.lit 1000
    sAcc := FlightFloat.lit (u32At payload 68) / FlightFloat.lit 1000
    month := u8At payload 6
    year := u16At payload 4
    day := u8At payload 7
    hour := u8At payload 8
    min := u8At payload 9
    sec := u8At payload 10
    nano := i32At payload 16
    fixType := .fromU8 (u8At payload 20)
    numSats := u8At payload 23
    magDec := FlightFloat.lit (i16At payload 88) * FlightFloat.lit 1.7453292519943296e-4
    timeCorrection := 0 }

/-- The frame being received and the position of its next byte. -/
structure UbxNavPvtParser where
  frame : UbxFrame
  index : Nat

namespace UbxNavPvtParser

/-- A parser that waits for its first frame. -/
def new : UbxNavPvtParser := ⟨.new, 0⟩

/-- The packet of a frame just completed, if it carries a position, velocity and time solution. -/
def completed (frame : UbxFrame) (nowUs : Nat) : Option (NavPvtPacket F D) :=
  if frame.cls = navPvtClass && frame.id = navPvtId && frame.length = navPvtLen then
    some (navPvtPacket (frame.payload.slice 0 navPvtLen) nowUs)
  else none

/-- Take a byte, and return the packet it completes. -/
def feedByte (parser : UbxNavPvtParser) (byte : UInt8) (nowUs : Nat) :
    Checked (UbxNavPvtParser × Option (NavPvtPacket F D)) := do
  let (frame, index, complete) ← parser.frame.receive parser.index byte
  return (⟨frame, index⟩, if complete then completed frame nowUs else none)

/-- Feed bytes with the times they arrive at, collecting what is returned at each of them. -/
def feed (parser : UbxNavPvtParser) (timed : List (UInt8 × Nat)) :
    Checked (UbxNavPvtParser × List (Option (NavPvtPacket F D))) :=
  feedAll (everyStepFallible fun parser input => feedByte parser input.1 input.2) parser timed

end UbxNavPvtParser

namespace UbxContent

/-- A frame carries a position, velocity and time solution. -/
def IsNavPvt (content : UbxContent) : Prop :=
  content.cls = navPvtClass ∧ content.id = navPvtId ∧ content.payload.length = navPvtLen

instance (content : UbxContent) : Decidable content.IsNavPvt :=
  inferInstanceAs (Decidable (_ ∧ _ ∧ _))

/-- The packet a frame stands for, if it carries a position, velocity and time solution. -/
def packet (content : UbxContent) (nowUs : Nat) : Option (NavPvtPacket F D) :=
  if content.IsNavPvt then some (navPvtPacket content.payload nowUs) else none

end UbxContent

namespace UbxScan

/-- Scan bytes, telling at each of them what frame it completes. -/
def feed (scan : UbxScan) (bytes : List UInt8) : UbxScan × List (Option UbxContent) :=
  transduce (everyStep step) scan bytes

/-- Take a byte and the time it arrives at, telling the packet of the frame it completes. -/
def stepPacket (scan : UbxScan) (input : UInt8 × Nat) : UbxScan × Option (NavPvtPacket F D) :=
  let stepped := scan.step input.1
  (stepped.1, stepped.2.bind fun content => content.packet input.2)

/-- The packets of a timed stream are those of the frames its bytes complete. -/
theorem transduce_stepPacket (scan : UbxScan) (timed : List (UInt8 × Nat)) :
    transduce
      (everyStep (stepPacket : UbxScan → _ → UbxScan × Option (NavPvtPacket F D))) scan timed =
      ((scan.feed (timed.map Prod.fst)).1,
        List.zipWith (fun completed input => completed.bind fun content => content.packet input.2)
          (scan.feed (timed.map Prod.fst)).2 timed) := by
  -- Byte by byte, only the time is added.
  induction timed generalizing scan with
  | nil => rfl
  | cons input rest ih =>
    rw [transduce_cons]
    simp only [everyStep, stepPacket, ih]
    rfl

end UbxScan

namespace UbxNavPvtParser

/-- A parser has come as far as the bytes alone tell. -/
def Follows (parser : UbxNavPvtParser) (scan : UbxScan) : Prop :=
  parser.frame.Follows parser.index scan

/-- A new parser waits for its first frame. -/
theorem new_follows : new.Follows .idle := rfl

/-- The packet of a completed frame is that of its content. -/
theorem completed_eq {frame : UbxFrame} {index : Nat} {complete : Bool}
    {next : UbxScan × Option UbxContent} (received : frame.Received index complete next)
    (nowUs : Nat) :
    (if complete then completed frame nowUs else none : Option (NavPvtPacket F D)) =
      next.2.bind fun content => content.packet nowUs := by
  -- The fields the parser looks at are those of the frame's content.
  rw [received.complete]
  cases found : next.2 with
  | none => rfl
  | some content =>
    obtain ⟨cls, id, length, stored⟩ := received.content content found
    rw [Option.isSome_some, if_pos rfl, Option.bind_some, completed, UbxContent.packet]
    by_cases solution : content.IsNavPvt
    · obtain ⟨isClass, isId, isLength⟩ := solution
      rw [if_pos (by simp [cls, id, length, isClass, isId, isLength]),
        if_pos ⟨isClass, isId, isLength⟩, ← isLength, stored]
    · rw [if_neg solution, if_neg]
      intro fields
      simp only [cls, id, length, Bool.and_eq_true, decide_eq_true_eq] at fields
      exact solution ⟨fields.1.1, fields.1.2, fields.2⟩

/-- A byte has returned what the bytes alone tell. -/
theorem feedByte_follows {parser : UbxNavPvtParser} {scan : UbxScan} (follows : parser.Follows scan)
    (input : UInt8 × Nat) :
    ∃ next output, parser.feedByte input.1 input.2 = .ok (next, output) ∧
      next.Follows (scan.stepPacket input : UbxScan × Option (NavPvtPacket F D)).1 ∧
      output = (scan.stepPacket input : UbxScan × Option (NavPvtPacket F D)).2 := by
  -- One byte is received, and what it completes is returned.
  obtain ⟨frame, index, complete, fed, received⟩ := UbxFrame.receive_follows follows input.1
  refine ⟨⟨frame, index⟩, if complete then completed frame input.2 else none, ?_,
    received.follows, completed_eq received input.2⟩
  rw [feedByte, fed]
  rfl

/-- The parser returns what the bytes alone tell, and never panics. -/
theorem feed_eq {parser : UbxNavPvtParser} {scan : UbxScan} (follows : parser.Follows scan)
    (timed : List (UInt8 × Nat)) :
    ∃ last, parser.feed timed = .ok (last,
        List.zipWith (fun completed (input : UInt8 × Nat) =>
          (completed.bind fun content => content.packet input.2 : Option (NavPvtPacket F D)))
          (scan.feed (timed.map Prod.fst)).2 timed) ∧
      last.Follows (scan.feed (timed.map Prod.fst)).1 := by
  -- Step by step the parser follows the scan.
  have simulates : ∀ (parser : UbxNavPvtParser) (scan : UbxScan) (input : UInt8 × Nat),
      parser.Follows scan → ∃ next output, parser.feedByte input.1 input.2 = .ok (next, output) ∧
        next.Follows (scan.stepPacket input : UbxScan × Option (NavPvtPacket F D)).1 ∧
        output = (scan.stepPacket input : UbxScan × Option (NavPvtPacket F D)).2 :=
    fun _ _ input follows => feedByte_follows follows input
  obtain ⟨last, outputs, fed, final, same⟩ := feedAll_related simulates follows timed
  rw [List.forall₂_eq_eq_eq] at same
  rw [UbxScan.transduce_stepPacket] at final same
  refine ⟨last, ?_, final⟩
  rw [feed, fed, same]

end UbxNavPvtParser

namespace UbxScan

/-- Bytes behind a header leave what it announces alone. -/
theorem announced_append {body : List UInt8} (long : 4 ≤ body.length) (rest : List UInt8) :
    announced (body ++ rest) = announced body := by
  rw [announced, announced, List.getD_append _ _ _ _ (by omega),
    List.getD_append _ _ _ _ (by omega)]

/-- A whole body is taken in byte by byte. -/
theorem feed_body {front rest : List UInt8}
    (whole : (front ++ rest).length = 4 + announced (front ++ rest))
    (fits : announced (front ++ rest) ≤ ubxMaxPayloadBytes) :
    (reading front).feed rest = (.reading (front ++ rest), List.replicate rest.length none) := by
  -- The bytes move one by one to the front.
  induction rest generalizing front with
  | nil =>
    rw [List.append_nil]
    rfl
  | cons byte rest ih =>
    rw [List.append_cons] at whole fits
    rw [List.append_cons, List.length_cons, List.replicate_succ, feed, transduce_cons]
    have taken : (reading front).step byte = (.reading (front ++ [byte]), none) := by
      rw [List.length_append, List.length_append, List.length_singleton] at whole
      rcases Nat.lt_trichotomy front.length 3 with header | high | long
      · exact step_header header byte
      · rw [step_high high, if_pos]
        rw [announced_append] at fits
        · exact fits
        · rw [List.length_append, List.length_singleton]
          omega
      · rw [announced_append (by
          rw [List.length_append, List.length_singleton]
          omega), announced_append long] at whole
        exact step_payload long (by omega) byte
    have others := ih whole fits
    rw [feed] at others
    simp only [everyStep, taken, others]
    rfl

/-- Bytes that start no frame are passed by. -/
theorem feed_noise {noise : List UInt8} (quiet : ubxSync1 ∉ noise) :
    idle.feed noise = (.idle, List.replicate noise.length none) := by
  -- Each of the bytes leaves the scan idle.
  induction noise with
  | nil => rfl
  | cons byte rest ih =>
    rw [List.mem_cons, not_or] at quiet
    obtain ⟨differs, later⟩ := quiet
    have others := ih later
    rw [feed] at others
    rw [List.length_cons, List.replicate_succ, feed, transduce_cons]
    simp only [everyStep, step, if_neg (Ne.symm differs), others]
    rfl

/-- Two batches of bytes are scanned one after the other. -/
theorem feed_append (scan : UbxScan) (first second : List UInt8) :
    scan.feed (first ++ second) =
      (((scan.feed first).1.feed second).1,
        (scan.feed first).2 ++ ((scan.feed first).1.feed second).2) :=
  transduce_append first second

end UbxScan

/-- The length of a built frame's payload reads back from its header. -/
theorem announced_built (cls id : UInt8) {payload : List UInt8} (fits : payload.length < 65536) :
    UbxScan.announced (cls :: id :: toLeBytes 2 (payload.length % 65536) ++ payload) =
      payload.length := by
  -- Two bytes spell any number below their range.
  have spelled := fromLeBytes_toLeBytes 2 payload.length
  rw [Nat.mod_eq_of_lt (by omega)] at spelled
  rw [Nat.mod_eq_of_lt fits]
  simpa [UbxScan.announced, toLeBytes, fromLeBytes] using spelled

/-- A built frame is complete at its last byte, and carries what it was built from. -/
theorem feed_built {cls id : UInt8} {payload wire : List UInt8} {out : Nat}
    (built : makeUbxPacket cls id payload out = some wire)
    (fits : payload.length ≤ ubxMaxPayloadBytes) :
    UbxScan.idle.feed wire =
      (.idle, List.replicate (payload.length + 7) none ++ [some ⟨cls, id, payload⟩]) := by
  unfold makeUbxPacket at built
  dsimp only at built
  split at built
  · exact nomatch built
  · set body := cls :: id :: toLeBytes 2 (payload.length % 65536) ++ payload with bodyEq
    cases built
    have small : payload.length ≤ 256 := fits
    have size : body.length = payload.length + 4 := by
      simp only [bodyEq, List.length_append, List.length_cons, length_toLeBytes]
      omega
    have announces : UbxScan.announced body = payload.length := announced_built cls id (by omega)
    have covers : UbxScan.covered body = body := List.take_of_length_le (by omega)
    have carries : UbxScan.content body = ⟨cls, id, payload⟩ := by
      rw [UbxScan.content, covers]
      rfl
    -- The synchronisation, the body, and the two sums.
    have started : UbxScan.idle.feed [ubxSync1, ubxSync2] = (.reading [], [none, none]) := rfl
    have read : (UbxScan.reading []).feed body =
        (.reading ([] ++ body), List.replicate body.length none) :=
      UbxScan.feed_body (by rw [List.nil_append]; omega) (by rw [List.nil_append]; omega)
    have first : (UbxScan.reading body).step (checksum body).1 =
        (.reading (body ++ [(checksum body).1]), none) := by
      rw [UbxScan.step_first (by omega) (by omega), covers, if_pos rfl]
    -- The second sum finds the body covered as before and completes the frame.
    have second : (UbxScan.reading (body ++ [(checksum body).1])).step (checksum body).2 =
        (.idle, some ⟨cls, id, payload⟩) := by
      have same := UbxScan.announced_append (show 4 ≤ body.length by omega) [(checksum body).1]
      have still : UbxScan.covered (body ++ [(checksum body).1]) = body := by
        rw [UbxScan.covered, same, List.take_left' (by omega)]
      have content : UbxScan.content (body ++ [(checksum body).1]) = ⟨cls, id, payload⟩ := by
        rw [UbxScan.content, still]
        rfl
      rw [UbxScan.step_second (by rw [List.length_append]; omega) (by
        rw [same, List.length_append, List.length_singleton]
        omega), still, if_pos rfl, content]
    have judged : (UbxScan.reading body).feed [(checksum body).1, (checksum body).2] =
        (.idle, [none, some ⟨cls, id, payload⟩]) := by
      rw [UbxScan.feed, transduce_cons, transduce_cons]
      simp only [everyStep, first, second]
      rfl
    have split : ubxSync1 :: ubxSync2 :: body ++ [(checksum body).1, (checksum body).2] =
        [ubxSync1, ubxSync2] ++ (body ++ [(checksum body).1, (checksum body).2]) := rfl
    rw [split, UbxScan.feed_append, started, UbxScan.feed_append, read, List.nil_append, judged,
      size]
    -- No byte but the last one completes anything.
    have counted : List.replicate (payload.length + 7) (none : Option UbxContent) =
        [none, none] ++ (List.replicate (payload.length + 4) none ++ [none]) := by
      rw [← List.replicate_succ', show payload.length + 7 = 2 + (payload.length + 4 + 1) by omega,
        List.replicate_add]
      rfl
    rw [counted, List.append_assoc, List.append_assoc]
    rfl

/-- Bytes that start no frame, followed by a frame built from the given parts. -/
structure UbxSegment where
  noise : List UInt8
  cls : UInt8
  id : UInt8
  payload : List UInt8
  out : Nat
  wire : List UInt8
  quiet : ubxSync1 ∉ noise
  fits : payload.length ≤ ubxMaxPayloadBytes
  built : makeUbxPacket cls id payload out = some wire

namespace UbxSegment

/-- The bytes on the wire. -/
def bytes (segment : UbxSegment) : List UInt8 := segment.noise ++ segment.wire

/-- Only the last byte completes a frame, and that frame carries what it was built from. -/
def completes (segment : UbxSegment) : List (Option UbxContent) :=
  List.replicate (segment.noise.length + segment.payload.length + 7) none ++
    [some ⟨segment.cls, segment.id, segment.payload⟩]

/-- A segment takes an idle scan to an idle scan. -/
theorem feed_bytes (segment : UbxSegment) :
    UbxScan.idle.feed segment.bytes = (.idle, segment.completes) := by
  rw [bytes, UbxScan.feed_append, UbxScan.feed_noise segment.quiet,
    feed_built segment.built segment.fits, completes, Nat.add_assoc,
    List.replicate_add segment.noise.length, List.append_assoc]

/-- Segments and noise behind them complete one frame each and no other. -/
theorem feed_stream (segments : List UbxSegment) {tail : List UInt8} (quiet : ubxSync1 ∉ tail) :
    UbxScan.idle.feed (segments.flatMap bytes ++ tail) =
      (.idle, segments.flatMap completes ++ List.replicate tail.length none) := by
  -- The induction is on the segments.
  induction segments with
  | nil => exact UbxScan.feed_noise quiet
  | cons segment rest ih =>
    rw [List.flatMap_cons, List.flatMap_cons, List.append_assoc, List.append_assoc,
      UbxScan.feed_append, feed_bytes, ih]

end UbxSegment

namespace UbxNavPvtParser

/-- The packets a stream returns at its bytes, from the frames they complete. -/
def returned (completes : List (Option UbxContent)) (timed : List (UInt8 × Nat)) :
    List (Option (NavPvtPacket F D)) :=
  List.zipWith (fun completed input => completed.bind fun content => content.packet input.2)
    completes timed

/-- An idle parser returns the packets of built frames at their ends, whatever stands between
them, and no stream makes a new parser leave its payload. -/
theorem feed_framedStream :
    (∀ (parser : UbxNavPvtParser) (segments : List UbxSegment) (tail : List UInt8)
        (timed : List (UInt8 × Nat)), parser.index = 0 → ubxSync1 ∉ tail →
      timed.map Prod.fst = segments.flatMap UbxSegment.bytes ++ tail →
      ∃ last, parser.feed timed = .ok (last,
          (returned (segments.flatMap UbxSegment.completes ++ List.replicate tail.length none)
            timed : List (Option (NavPvtPacket F D)))) ∧ last.index = 0) ∧
      ∀ timed, ∃ last, ∃ packets : List (Option (NavPvtPacket F D)),
        new.feed timed = .ok (last, packets) := by
  -- The parser follows the scan, which reads a stream of frames one by one.
  constructor
  · intro parser segments tail timed idle quiet carries
    have follows : parser.Follows .idle := idle
    obtain ⟨last, fed, final⟩ := @feed_eq F D _ _ parser .idle follows timed
    rw [carries, UbxSegment.feed_stream segments quiet] at fed final
    exact ⟨last, fed, final⟩
  · intro timed
    obtain ⟨last, fed, _⟩ := @feed_eq F D _ _ new .idle new_follows timed
    exact ⟨last, _, fed⟩

/-- A frame that acknowledges a setting, behind a byte of noise. -/
def ackSegment : UbxSegment where
  noise := [0x62]
  cls := 0x05
  id := 0x01
  payload := [0x06, 0xB5]
  out := 10
  wire := [0xB5, 0x62, 0x05, 0x01, 0x02, 0x00, 0x06, 0xB5, 0xC3, 0xEC]
  quiet := by decide
  fits := by decide
  built := rfl

/-- A solution with every byte zero. -/
def blankSolution : UbxSegment where
  noise := []
  cls := 0x01
  id := 0x07
  payload := List.replicate 92 0
  out := 512
  wire := [0xB5, 0x62, 0x01, 0x07, 0x5C, 0x00] ++ List.replicate 92 0 ++ [0x64, 0xC1]
  quiet := by decide
  fits := by decide
  built := by decide +kernel

/-- The bytes of both frames and one more, ten microseconds apart. -/
def gnssBytes : List (UInt8 × Nat) :=
  (ackSegment.bytes ++ blankSolution.bytes ++ [0x00]).zipIdx.map fun (byte, index) =>
    (byte, index * 10)

/-- An acknowledgement is passed by, and the solution behind it is returned at its last byte. -/
theorem gnssBytes_returned :
    ∃ last, new.feed gnssBytes = .ok (last, (returned
        ([ackSegment, blankSolution].flatMap UbxSegment.completes ++ [none]) gnssBytes :
        List (Option (NavPvtPacket ℚ ℚ)))) ∧ last.index = 0 :=
  feed_framedStream.1 new [ackSegment, blankSolution] [0x00] gnssBytes rfl (by decide)
    (by decide +kernel)

end UbxNavPvtParser

end Veloxity
