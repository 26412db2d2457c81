import Veloxity.Boards.Gps
import Veloxity.Core.Machine

/-! The GNSS receiver of an STM32 board, and where it agrees with that of an RP2350 board. -/

namespace Veloxity

open Library

variable {F D : Type} [FlightFloat F] [FlightFloat D]

/-- The bytes one read of the serial port yields at most. -/
def ubloxBufferLen : Nat := 512

/-- When the position was measured: at the receiver's fraction of a second relative to the latest
pulse, or a fixed time before the packet was complete. -/
def rosflightCGnssTimestamp (ppsTimestampUs completionTimestampUs : Nat) (utcNanos : Int)
    (timeAndFixValid : Bool) : Nat :=
  if ppsTimestampUs ≠ 0 ∧ ppsTimestampUs < completionTimestampUs ∧ timeAndFixValid then
    if utcNanos < 0 then ppsTimestampUs - utcNanos.natAbs / 1000
    else saturatingAddU64 ppsTimestampUs (utcNanos.toNat / 1000)
  else completionTimestampUs - 22000

/-- The fields of a solution that the board reads, in the order of the packed structure. -/
structure PvtPayload where
  year : Nat
  month : UInt8
  day : UInt8
  hour : UInt8
  min : UInt8
  sec : UInt8
  valid : UInt8
  nano : Int
  fixType : UInt8
  flags : UInt8
  flags2 : UInt8
  numSv : UInt8
  lon : Int
  lat : Int
  hMsl : Int
  hAcc : Nat
  vAcc : Nat
  velN : Int
  velE : Int
  velD : Int
  sAcc : Nat
  flags3 : Nat
  magDec : Int

/-- Lay the packed structure over the bytes of a payload. -/
def PvtPayload.ofBytes (payload : List UInt8) : PvtPayload where
  year := u16At payload 4
  month := u8At payload 6
  day := u8At payload 7
  hour := u8At payload 8
  min := u8At payload 9
  sec := u8At payload 10
  valid := u8At payload 11
  nano := i32At payload 16
  fixType := u8At payload 20
  flags := u8At payload 21
  flags2 := u8At payload 22
  numSv := u8At payload 23
  lon := i32At payload 24
  lat := i32At payload 28
  hMsl := i32At payload 36
  hAcc := u32At payload 40
  vAcc := u32At payload 44
  velN := i32At payload 48
  velE := i32At payload 52
  velD := i32At payload 56
  sAcc := u32At payload 68
  flags3 := u16At payload 78
  -- The structure has one reserved byte where the receiver sends four.
  magDec := i16At payload 85

/-- A received byte, with the time and the latest pulse that are looked up if it completes a
packet. -/
structure UbloxByte where
  byte : UInt8
  endOfPacketUs : Nat
  pps : Option Nat

/-- A read of the serial port, with the pulse that is looked up ahead of it. -/
structure UbloxRead where
  pps : Option Nat
  result : Option (List UbloxByte)
  fits : ∀ bytes ∈ result, bytes.length ≤ ubloxBufferLen

/-- The frame being received, the position of its next byte, and the time of the latest pulse. -/
structure UbloxSensor where
  p : UbxFrame
  n : Nat
  ppsTimestamp : Nat

namespace UbloxSensor

/-- A receiver that has read nothing. -/
def new : UbloxSensor := ⟨.new, 0, 0⟩

/-- The packet decoded from the payload of a frame. -/
def pvtPacket (payload : List UInt8) (ppsTimestamp endOfPacketUs : Nat) : NavPvtPacket F D :=
  let pvt := PvtPayload.ofBytes payload
  let timeAndFixValid := pvt.valid &&& 0x07 = 0x07 ∧ pvt.flags &&& 0x01 = 0x01
  let unixSeconds := unixSecondsFromUtc pvt.year pvt.month pvt.day pvt.hour pvt.min pvt.sec
  { header :=
      { timestamp := rosflightCGnssTimestamp ppsTimestamp endOfPacketUs pvt.nano timeAndFixValid
        status := (navPvtStatus pvt.valid pvt.flags pvt.flags2 pvt.flags3).toNat }
    unixSeconds := if pvt.nano < 0 then unixSeconds - 1 else unixSeconds
    unixNanos := if pvt.nano < 0 then pvt.nano + 1000000000 else pvt.nano
    lat := FlightFloat.lit pvt.lat * FlightFloat.lit 1e-7
    lon := FlightFloat.lit pvt.lon * FlightFloat.lit 1e-7
    heightMsl := FlightFloat.lit pvt.hMsl / FlightFloat.lit 1000
    velN := FlightFloat.lit pvt.velN / FlightFloat.lit 1000
    velE := FlightFloat.lit pvt.velE / FlightFloat.lit 1000
    velD := FlightFloat.lit pvt.velD / FlightFloat.lit 1000
    hAcc := FlightFloat.lit pvt.hAcc / FlightFloat.lit 1000
    vAcc := FlightFloat.lit pvt.vAcc / FlightFloat.lit 1000
    sAcc := FlightFloat.lit pvt.sAcc / FlightFloat.lit 1000
    month := pvt.month
    year := pvt.year
    day := pvt.day
    hour := pvt.hour
    min := pvt.min
    sec := pvt.sec
    nano := pvt.nano
    fixType := .fromU8 pvt.fixType
    numSats := pvt.numSv
    magDec := FlightFloat.lit pvt.magDec * FlightFloat.lit 1.7453292519943296e-4
    timeCorrection := 0 }

/-- Publish what a complete frame holds, if its class or its identifier is that of a solution. -/
def complete (sensor : UbloxSensor) (byte : UbloxByte) :
    UbloxSensor × Option (NavPvtPacket F D) :=
  if sensor.p.cls = 0x01 || sensor.p.id = 0x07 then
    let sensor := { sensor with ppsTimestamp := byte.pps.getD sensor.ppsTimestamp }
    (sensor, some (pvtPacket (sensor.p.payload.slice 0 92) sensor.ppsTimestamp byte.endOfPacketUs))
  else (sensor, none)

/-- Take one byte of a read. -/
def runByte (sensor : UbloxSensor) (byte : UbloxByte) :
    Checked (UbloxSensor × Option (NavPvtPacket F D)) := do
  let (p, n, correct) ← sensor.p.receive sensor.n byte.byte
  let sensor := { sensor with p, n }
  return if correct then sensor.complete byte else (sensor, none)

/-- One turn of the receiver's loop, with what is published at each of its bytes. -/
def runRead (sensor : UbloxSensor) (read : UbloxRead) :
    Checked (UbloxSensor × List (Option (NavPvtPacket F D))) :=
  let sensor := { sensor with ppsTimestamp := read.pps.getD sensor.ppsTimestamp }
  match read.result with
  | none => .ok (sensor, [])
  | some bytes => feedAll (everyStepFallible runByte) sensor bytes

/-- The turns of the receiver's loop, with what is published at each byte. -/
def run (sensor : UbloxSensor) :
    List UbloxRead → Checked (UbloxSensor × List (Option (NavPvtPacket F D)))
  | [] => .ok (sensor, [])
  | read :: rest => do
    let (sensor, first) ← sensor.runRead read
    let (sensor, others) ← sensor.run rest
    return (sensor, first ++ others)

end UbloxSensor

/-- The bytes of a read. -/
def UbloxRead.bytes (read : UbloxRead) : List UInt8 := (read.result.getD []).map UbloxByte.byte

/-- Two packets report the same solution: status, position, velocity, accuracy, date and fix. -/
structure SameSolution (packet other : NavPvtPacket F D) : Prop where
  status : packet.header.status = other.header.status
  position : packet.lat = other.lat ∧ packet.lon = other.lon ∧ packet.heightMsl = other.heightMsl
  velocity : packet.velN = other.velN ∧ packet.velE = other.velE ∧ packet.velD = other.velD
  accuracy : packet.hAcc = other.hAcc ∧ packet.vAcc = other.vAcc ∧ packet.sAcc = other.sAcc
  date : packet.year = other.year ∧ packet.month = other.month ∧ packet.day = other.day
  time : packet.hour = other.hour ∧ packet.min = other.min ∧ packet.sec = other.sec ∧
    packet.nano = other.nano
  fix : packet.fixType = other.fixType ∧ packet.numSats = other.numSats

/-- Two packets denote one instant, each with a fraction of a second. -/
def SameInstant (packet other : NavPvtPacket F D) : Prop :=
  packet.unixSeconds * 1000000000 + packet.unixNanos =
      other.unixSeconds * 1000000000 + other.unixNanos ∧
    (0 ≤ packet.unixNanos ∧ packet.unixNanos < 1000000000) ∧
    0 ≤ other.unixNanos ∧ other.unixNanos < 1000000000

/-- What the two receivers publish at a byte agrees with the frame it completes and with each
other. -/
structure AgreeAt (completed : Option UbxContent)
    (published : Option (NavPvtPacket F D) × Option (NavPvtPacket F D)) : Prop where
  stm32 : published.1.isSome ↔ ∃ content ∈ completed, content.IsNavPvt
  rp2350 : published.2.isSome ↔ ∃ content ∈ completed, content.IsNavPvt
  same : ∀ packet ∈ published.1, ∀ other ∈ published.2, SameSolution packet other ∧
    (-999999999 ≤ packet.nano → packet.nano ≤ 999999999 → SameInstant packet other)

/-- The two receivers, new at the start of one stream, agree at every byte of it. -/
def DecodersAgree (F D : Type) [FlightFloat F] [FlightFloat D] (reads : List UbloxRead)
    (timed : List (UInt8 × Nat)) : Prop :=
  ∃ sensor parser, ∃ stm32 rp2350 : List (Option (NavPvtPacket F D)),
    UbloxSensor.new.run reads = .ok (sensor, stm32) ∧
    UbxNavPvtParser.new.feed timed = .ok (parser, rp2350) ∧
    List.Forall₂ AgreeAt (UbxScan.idle.feed (reads.flatMap UbloxRead.bytes)).2 (stm32.zip rp2350)

/-- A frame that is either none of the receivers' business or a whole solution whose fraction of
a second is not negative. -/
def UbxContent.Unambiguous (content : UbxContent) : Prop :=
  content.cls = navPvtClass ∨ content.id = navPvtId →
    content.IsNavPvt ∧ ¬ (-999999999 ≤ i32At content.payload 16 ∧ i32At content.payload 16 < 0)

/-- What the STM32 receiver publishes at a byte: something for every frame of the class or the
identifier, and the solution of a whole one. -/
structure PublishesFor (published : Option (NavPvtPacket F D)) (completed : Option UbxContent) :
    Prop where
  isSome : published.isSome ↔
    ∃ content ∈ completed, content.cls = navPvtClass ∨ content.id = navPvtId
  decoded : ∀ content ∈ completed, content.IsNavPvt → ∀ packet ∈ published,
    ∃ ppsTimestamp endOfPacketUs,
      packet = UbloxSensor.pvtPacket content.payload ppsTimestamp endOfPacketUs

namespace UbloxSensor

/-- A receiver has come as far as the bytes alone tell. -/
def Follows (sensor : UbloxSensor) (scan : UbxScan) : Prop := sensor.p.Follows sensor.n scan

/-- A complete frame of the class or the identifier is published. -/
theorem complete_of_concerned {sensor : UbloxSensor}
    (concerned : sensor.p.cls = navPvtClass ∨ sensor.p.id = navPvtId) (byte : UbloxByte) :
    (sensor.complete byte : UbloxSensor × Option (NavPvtPacket F D)) =
      ({ sensor with ppsTimestamp := byte.pps.getD sensor.ppsTimestamp },
        some (pvtPacket (sensor.p.payload.slice 0 92) (byte.pps.getD sensor.ppsTimestamp)
          byte.endOfPacketUs)) := by
  rw [complete, if_pos (by simpa [navPvtClass, navPvtId] using concerned)]

/-- Any other complete frame is passed by. -/
theorem complete_of_unconcerned {sensor : UbloxSensor}
    (unconcerned : ¬ (sensor.p.cls = navPvtClass ∨ sensor.p.id = navPvtId)) (byte : UbloxByte) :
    (sensor.complete byte : UbloxSensor × Option (NavPvtPacket F D)) = (sensor, none) := by
  rw [complete, if_neg (by simpa [navPvtClass, navPvtId] using unconcerned)]

/-- A byte has published what its frame calls for. -/
theorem runByte_follows {sensor : UbloxSensor} {scan : UbxScan} (follows : sensor.Follows scan)
    (byte : UbloxByte) :
    ∃ next, ∃ published : Option (NavPvtPacket F D), sensor.runByte byte = .ok (next, published) ∧
      next.Follows (scan.step byte.byte).1 ∧ PublishesFor published (scan.step byte.byte).2 := by
  obtain ⟨p, n, correct, fed, received⟩ := UbxFrame.receive_follows follows byte.byte
  have whole := received.complete
  cases found : (scan.step byte.byte).2 with
  | none =>
    -- No frame is complete, or its checksum is wrong.
    rw [found] at whole
    subst whole
    refine ⟨{ sensor with p, n }, none, ?_, received.follows, by simp, nofun⟩
    rw [runByte, fed]
    rfl
  | some content =>
    rw [found] at whole
    subst whole
    obtain ⟨cls, id, length, stored⟩ := received.content content found
    -- The source looks at the class or at the identifier, not at both.
    by_cases concerned : content.cls = navPvtClass ∨ content.id = navPvtId
    · have published := @complete_of_concerned F D _ _ { sensor with p, n }
        (by rwa [cls, id]) byte
      refine ⟨{ sensor with p, n, ppsTimestamp := byte.pps.getD sensor.ppsTimestamp },
        some (pvtPacket (p.payload.slice 0 92) (byte.pps.getD sensor.ppsTimestamp)
          byte.endOfPacketUs), ?_, received.follows, ?_, ?_⟩
      · rw [runByte, fed]
        exact congrArg Except.ok published
      · simpa using concerned
      · rintro _ ⟨⟩ solution packet ⟨⟩
        refine ⟨byte.pps.getD sensor.ppsTimestamp, byte.endOfPacketUs, ?_⟩
        rw [← stored, solution.2.2]
        rfl
    · have passed := @complete_of_unconcerned F D _ _ { sensor with p, n }
        (by rwa [cls, id]) byte
      refine ⟨{ sensor with p, n }, none, ?_, received.follows, ?_, ?_⟩
      · rw [runByte, fed]
        exact congrArg Except.ok passed
      · simpa using concerned
      · rintro _ ⟨⟩ solution
        exact absurd (Or.inl solution.1) concerned

/-- A read takes the scan over its bytes along. -/
theorem runRead_follows {sensor : UbloxSensor} {scan : UbxScan} (follows : sensor.Follows scan)
    (read : UbloxRead) :
    ∃ next, ∃ published : List (Option (NavPvtPacket F D)),
      sensor.runRead read = .ok (next, published) ∧
      next.Follows (scan.feed read.bytes).1 ∧
      List.Forall₂ PublishesFor published (scan.feed read.bytes).2 := by
  -- The pulse looked up ahead of the read is not part of the frame.
  have onward : ({ sensor with ppsTimestamp := read.pps.getD sensor.ppsTimestamp } :
      UbloxSensor).Follows scan := follows
  unfold runRead UbloxRead.bytes
  cases read.result with
  | none => exact ⟨_, [], rfl, onward, .nil⟩
  | some bytes =>
    have simulates : ∀ (sensor : UbloxSensor) (scan : UbxScan) (byte : UbloxByte),
        sensor.Follows scan → ∃ next published, sensor.runByte byte = .ok (next, published) ∧
          next.Follows (scan.step byte.byte).1 ∧
          PublishesFor (published : Option (NavPvtPacket F D)) (scan.step byte.byte).2 :=
      fun _ _ byte follows => runByte_follows follows byte
    obtain ⟨next, published, ran, final, related⟩ := feedAll_related simulates onward bytes
    have mapped : ∀ (bytes : List UbloxByte) (scan : UbxScan),
        transduce (everyStep fun scan (byte : UbloxByte) => scan.step byte.byte) scan bytes =
          scan.feed (bytes.map UbloxByte.byte) := by
      intro bytes
      induction bytes with
      | nil => intro scan; rfl
      | cons byte rest ih =>
        intro scan
        rw [transduce_cons, ih]
        rfl
    rw [mapped] at final related
    exact ⟨next, published, ran, final, related⟩

/-- However a stream is cut into reads, the receiver publishes what its frames call for. -/
theorem run_follows {sensor : UbloxSensor} {scan : UbxScan} (follows : sensor.Follows scan)
    (reads : List UbloxRead) :
    ∃ next, ∃ published : List (Option (NavPvtPacket F D)),
      sensor.run reads = .ok (next, published) ∧
      List.Forall₂ PublishesFor published (scan.feed (reads.flatMap UbloxRead.bytes)).2 := by
  -- The induction is on the reads.
  induction reads generalizing sensor scan with
  | nil => exact ⟨sensor, [], rfl, .nil⟩
  | cons read rest ih =>
    obtain ⟨next, first, ran, onward, related⟩ := @runRead_follows F D _ _ _ _ follows read
    obtain ⟨last, others, finished, later⟩ := ih onward
    refine ⟨last, first ++ others, ?_, ?_⟩
    · rw [run, ran]
      simp only [bind, Except.bind, finished]
      rfl
    · rw [List.flatMap_cons, UbxScan.feed_append]
      exact List.rel_append related later

end UbloxSensor

/-- The solution of one payload is the same in both packets. -/
theorem sameSolution_pvtPacket (payload : List UInt8) (ppsTimestamp endOfPacketUs nowUs : Nat) :
    SameSolution (UbloxSensor.pvtPacket payload ppsTimestamp endOfPacketUs : NavPvtPacket F D)
      (navPvtPacket payload nowUs) := by
  -- Both read the same fields of the payload.
  constructor <;> simp only [UbloxSensor.pvtPacket, navPvtPacket, PvtPayload.ofBytes, and_self]

/-- The packet carries the payload's fraction of a second. -/
theorem nano_pvtPacket (payload : List UInt8) (ppsTimestamp endOfPacketUs : Nat) :
    (UbloxSensor.pvtPacket payload ppsTimestamp endOfPacketUs : NavPvtPacket F D).nano =
      i32At payload 16 := by
  simp only [UbloxSensor.pvtPacket, PvtPayload.ofBytes]

/-- A fraction of a second that is not negative is left as it is. -/
theorem unixNanos_pvtPacket {payload : List UInt8} (positive : 0 ≤ i32At payload 16)
    (ppsTimestamp endOfPacketUs : Nat) :
    (UbloxSensor.pvtPacket payload ppsTimestamp endOfPacketUs : NavPvtPacket F D).unixNanos =
      i32At payload 16 := by
  simp only [UbloxSensor.pvtPacket, PvtPayload.ofBytes, Int.not_lt.mpr positive, if_false]

/-- A fraction of a second that is not negative leaves the seconds alone. -/
theorem unixSeconds_pvtPacket {payload : List UInt8} (positive : 0 ≤ i32At payload 16)
    (ppsTimestamp endOfPacketUs nowUs : Nat) :
    (UbloxSensor.pvtPacket payload ppsTimestamp endOfPacketUs : NavPvtPacket F D).unixSeconds =
      (navPvtPacket payload nowUs : NavPvtPacket F D).unixSeconds := by
  simp only [UbloxSensor.pvtPacket, navPvtPacket, PvtPayload.ofBytes, Int.not_lt.mpr positive,
    if_false]

/-- Both packets of a payload denote one instant unless its fraction of a second is negative. -/
theorem sameInstant_pvtPacket_iff {payload : List UInt8} (atMost : i32At payload 16 ≤ 999999999)
    (ppsTimestamp endOfPacketUs nowUs : Nat) :
    SameInstant (UbloxSensor.pvtPacket payload ppsTimestamp endOfPacketUs : NavPvtPacket F D)
      (navPvtPacket payload nowUs) ↔ 0 ≤ i32At payload 16 := by
  -- Only one of the two carries a negative fraction over into the seconds.
  have raw : (navPvtPacket payload nowUs : NavPvtPacket F D).unixNanos = i32At payload 16 := by
    simp only [navPvtPacket]
  unfold SameInstant
  rw [raw]
  constructor
  · rintro ⟨_, _, positive, _⟩
    exact positive
  · intro positive
    rw [unixNanos_pvtPacket positive,
      unixSeconds_pvtPacket positive ppsTimestamp endOfPacketUs nowUs]
    exact ⟨rfl, ⟨positive, by omega⟩, positive, by omega⟩

/-- A whole solution returns its packet. -/
theorem packet_of_isNavPvt {content : UbxContent} (solution : content.IsNavPvt) (nowUs : Nat) :
    (content.packet nowUs : Option (NavPvtPacket F D)) =
      some (navPvtPacket content.payload nowUs) := by
  rw [UbxContent.packet, if_pos solution]

/-- Only a whole solution returns a packet. -/
theorem isSome_packet_iff (content : UbxContent) (nowUs : Nat) :
    (content.packet nowUs : Option (NavPvtPacket F D)).isSome ↔ content.IsNavPvt := by
  -- The packet is returned under exactly this condition.
  unfold UbxContent.packet
  by_cases solution : content.IsNavPvt
  · rw [if_pos solution]
    exact ⟨fun _ => solution, fun _ => rfl⟩
  · rw [if_neg solution]
    exact ⟨nofun, fun solves => absurd solves solution⟩

/-- At a byte that completes no frame the receivers agree. -/
theorem agreeAt_none {published : Option (NavPvtPacket F D)} (calls : PublishesFor published none) :
    AgreeAt none (published, none) := by
  -- Neither receiver publishes anything.
  have nothing : ∀ {P : UbxContent → Prop}, ¬ ∃ content ∈ (none : Option UbxContent), P content :=
    fun ⟨_, absent, _⟩ => nomatch absent
  have silent : ¬ published.isSome := fun some => nothing (calls.isSome.mp some)
  refine ⟨⟨fun some => absurd some silent, fun some => absurd some nothing⟩,
    ⟨nofun, fun some => absurd some nothing⟩, ?_⟩
  intro packet _ other absent
  exact nomatch absent

/-- At the end of a frame the receivers agree exactly if it is unambiguous. -/
theorem agreeAt_some_iff {published : Option (NavPvtPacket F D)} {content : UbxContent}
    (calls : PublishesFor published (some content)) (nowUs : Nat) :
    AgreeAt (some content) (published, content.packet nowUs) ↔ content.Unambiguous := by
  -- Only a negative fraction or half a solution sets the two apart.
  have only : ∀ {P : UbxContent → Prop}, (∃ found ∈ some content, P found) ↔ P content := by
    intro P
    constructor
    · rintro ⟨found, member, holds⟩
      rwa [Option.mem_some_iff.mp member]
    · intro holds
      exact ⟨content, rfl, holds⟩
  have isSome := calls.isSome.trans only
  constructor
  · -- Where they agree the frame is a whole solution, and its fraction cannot be negative.
    intro agree concerned
    have solution : content.IsNavPvt := only.mp (agree.stm32.mp (isSome.mpr concerned))
    refine ⟨solution, ?_⟩
    rintro ⟨atLeast, negative⟩
    obtain ⟨packet, found⟩ := Option.isSome_iff_exists.mp (isSome.mpr concerned)
    obtain ⟨pps, ended, rfl⟩ := calls.decoded content rfl solution packet found
    have atMost : i32At content.payload 16 ≤ 999999999 := by omega
    have instant := (agree.same _ found _ (packet_of_isNavPvt solution nowUs)).2
    rw [nano_pvtPacket] at instant
    have positive :=
      (sameInstant_pvtPacket_iff atMost pps ended nowUs).mp (instant atLeast atMost)
    omega
  · -- An unambiguous frame is decoded by both, to the same instant.
    intro clear
    refine ⟨?_, (isSome_packet_iff content nowUs).trans only.symm, ?_⟩
    · rw [isSome, only]
      exact ⟨fun concerned => (clear concerned).1, fun solution => .inl solution.1⟩
    · intro packet found other returns
      have concerned := isSome.mp (Option.isSome_iff_exists.mpr ⟨packet, found⟩)
      obtain ⟨solution, notNegative⟩ := clear concerned
      obtain ⟨pps, ended, rfl⟩ := calls.decoded content rfl solution packet found
      obtain rfl : navPvtPacket content.payload nowUs = other :=
        Option.some.inj ((packet_of_isNavPvt solution nowUs).symm.trans returns)
      refine ⟨sameSolution_pvtPacket _ _ _ _, ?_⟩
      rw [nano_pvtPacket]
      intro atLeast atMost
      exact (sameInstant_pvtPacket_iff atMost pps ended nowUs).mpr (by omega)

/-- At a byte the receivers agree exactly if the frame it completes, if any, is unambiguous. -/
theorem agreeAt_iff {published : Option (NavPvtPacket F D)} {completed : Option UbxContent}
    (calls : PublishesFor published completed) (nowUs : Nat) :
    AgreeAt completed (published, completed.bind fun content => content.packet nowUs) ↔
      ∀ content, completed = some content → content.Unambiguous := by
  -- A byte completes a frame or does not.
  cases completed with
  | none => exact ⟨fun _ => nofun, fun _ => agreeAt_none calls⟩
  | some content =>
    rw [Option.bind_some, agreeAt_some_iff calls]
    constructor
    · rintro clear _ ⟨⟩
      exact clear
    · intro all
      exact all content rfl

/-- Along a stream the receivers agree exactly if every frame it completes is unambiguous. -/
theorem agree_iff {published : List (Option (NavPvtPacket F D))}
    {completes : List (Option UbxContent)} (calls : List.Forall₂ PublishesFor published completes)
    {timed : List (UInt8 × Nat)} (aligned : timed.length = completes.length) :
    List.Forall₂ AgreeAt completes
        (published.zip (UbxNavPvtParser.returned completes timed)) ↔
      ∀ content, some content ∈ completes → content.Unambiguous := by
  -- Byte by byte, each of them tells of its own frame.
  induction calls generalizing timed with
  | nil => exact ⟨fun _ => nofun, fun _ => .nil⟩
  | cons first others ih =>
    cases timed with
    | nil => simp at aligned
    | cons input timed =>
      have later := ih (Nat.succ.inj aligned)
      rw [UbxNavPvtParser.returned] at later
      rw [UbxNavPvtParser.returned, List.zipWith_cons_cons, List.zip_cons_cons,
        List.forall₂_cons, agreeAt_iff first input.2, later]
      constructor
      · rintro ⟨now, rest⟩ content member
        rcases List.mem_cons.mp member with here | there
        · exact now content here.symm
        · exact rest content there
      · intro all
        exact ⟨fun content here => all content (List.mem_cons.mpr (.inl here.symm)),
          fun content there => all content (List.mem_cons_of_mem _ there)⟩

/-- On one stream the STM32 receiver publishes what its frames call for, and the receivers agree
exactly if at every byte that agrees with the frame completed there. -/
theorem exists_publishesFor {reads : List UbloxRead} {timed : List (UInt8 × Nat)}
    (same : timed.map Prod.fst = reads.flatMap UbloxRead.bytes) :
    ∃ published : List (Option (NavPvtPacket F D)),
      List.Forall₂ PublishesFor published
        (UbxScan.idle.feed (reads.flatMap UbloxRead.bytes)).2 ∧
      (DecodersAgree F D reads timed ↔
        List.Forall₂ AgreeAt (UbxScan.idle.feed (reads.flatMap UbloxRead.bytes)).2
          (published.zip (UbxNavPvtParser.returned
            (UbxScan.idle.feed (reads.flatMap UbloxRead.bytes)).2 timed))) := by
  -- Both receivers run through without a panic.
  have newFollows : UbloxSensor.new.Follows .idle := rfl
  obtain ⟨sensor, published, ran, calls⟩ := @UbloxSensor.run_follows F D _ _ _ _ newFollows reads
  obtain ⟨parser, fed, _⟩ := @UbxNavPvtParser.feed_eq F D _ _ _ _ UbxNavPvtParser.new_follows timed
  rw [same] at fed
  refine ⟨published, calls, ?_, ?_⟩
  · -- Each receiver's run has one result.
    rintro ⟨_, _, stm32, rp2350, other, returned, agree⟩
    obtain ⟨_, rfl⟩ := Prod.mk.inj (Except.ok.inj (ran.symm.trans other))
    obtain ⟨_, rfl⟩ := Prod.mk.inj (Except.ok.inj (fed.symm.trans returned))
    exact agree
  · intro agree
    exact ⟨sensor, parser, published, _, ran, fed, agree⟩

/-- A scan tells something at every byte. -/
theorem UbxScan.length_feed (scan : UbxScan) (bytes : List UInt8) :
    (scan.feed bytes).2.length = bytes.length := by
  induction bytes generalizing scan with
  | nil => rfl
  | cons byte rest ih => exact congrArg Nat.succ (ih (scan.step byte).1)

/-- Bytes that two lists share leave them equally long. -/
theorem length_of_same {reads : List UbloxRead} {timed : List (UInt8 × Nat)}
    (same : timed.map Prod.fst = reads.flatMap UbloxRead.bytes) :
    timed.length = (UbxScan.idle.feed (reads.flatMap UbloxRead.bytes)).2.length := by
  rw [UbxScan.length_feed, ← same, List.length_map]

/-- The receivers agree on a stream exactly if every frame with a correct checksum in it is
unambiguous. -/
theorem decodersAgree_iff (reads : List UbloxRead) (timed : List (UInt8 × Nat))
    (same : timed.map Prod.fst = reads.flatMap UbloxRead.bytes) :
    DecodersAgree F D reads timed ↔
      ∀ content, some content ∈ (UbxScan.idle.feed (reads.flatMap UbloxRead.bytes)).2 →
        content.Unambiguous := by
  obtain ⟨published, calls, agree⟩ := @exists_publishesFor F D _ _ reads timed same
  rw [agree]
  exact agree_iff calls (length_of_same same)

/-- Whether a frame is unambiguous is decided by its header and its fraction of a second. -/
instance (content : UbxContent) : Decidable content.Unambiguous :=
  inferInstanceAs (Decidable (_ → _))

/-- A read of given bytes without any pulse. -/
def quietRead (bytes : List UInt8) (fits : bytes.length ≤ ubloxBufferLen) : UbloxRead where
  pps := none
  result := some (bytes.map fun byte => ⟨byte, 5000, none⟩)
  fits := by
    rintro _ ⟨⟩
    rwa [List.length_map]

/-- The reads of some segments, one read each. -/
def segmentReads (segments : List UbxSegment)
    (fits : ∀ segment ∈ segments, segment.bytes.length ≤ ubloxBufferLen) : List UbloxRead :=
  segments.attach.map fun segment => quietRead segment.val.bytes (fits segment.val segment.property)

open UbxNavPvtParser (ackSegment blankSolution)

/-- The acknowledgement and the solution that follows it. -/
def solutionReads : List UbloxRead := segmentReads [ackSegment, blankSolution] (by decide)

/-- The same bytes, ten microseconds apart. -/
def solutionBytes : List (UInt8 × Nat) :=
  ([ackSegment, blankSolution].flatMap UbxSegment.bytes ++ []).zipIdx.map fun (byte, index) =>
    (byte, index * 10)

/-- An acknowledgement is passed by and a whole solution is published alike. -/
theorem solutionReads_agree : DecodersAgree ℚ ℚ solutionReads solutionBytes := by
  apply (decodersAgree_iff _ _ (by decide +kernel)).mpr
  intro content member
  -- Only two frames are complete.
  have stream : solutionReads.flatMap UbloxRead.bytes =
      [ackSegment, blankSolution].flatMap UbxSegment.bytes ++ [] := by decide +kernel
  rw [stream, UbxSegment.feed_stream _ List.not_mem_nil] at member
  simp only [List.flatMap_cons, List.flatMap_nil, List.append_nil, List.length_nil,
    List.replicate_zero, UbxSegment.completes, List.mem_append, List.mem_replicate,
    List.mem_singleton, reduceCtorEq, and_false, false_or, Option.some.injEq] at member
  rcases member with rfl | rfl
  · decide
  · decide +kernel

/-- A status report's payload fits the largest frame. -/
theorem statusReport_fits : (List.replicate 16 (0 : UInt8)).length ≤ ubxMaxPayloadBytes := by
  decide

/-- A status report of the receiver's navigation class. -/
def statusSegment : UbxSegment where
  noise := []
  cls := 0x01
  id := 0x03
  payload := List.replicate 16 0
  out := 512
  wire := [0xB5, 0x62, 0x01, 0x03, 0x10, 0x00] ++ List.replicate 16 0 ++ [0x14, 0x6D]
  quiet := List.not_mem_nil
  fits := statusReport_fits
  built := by decide +kernel

/-- The report's bytes in one read. -/
def statusReads : List UbloxRead := segmentReads [statusSegment] (by decide)

/-- The same bytes, all at once. -/
def statusBytes : List (UInt8 × Nat) := statusSegment.bytes.map fun byte => (byte, 0)

/-- The STM32 receiver publishes a status report as if it were a solution. -/
theorem statusReads_disagree : ¬ DecodersAgree ℚ ℚ statusReads statusBytes := by
  have same : statusBytes.map Prod.fst = statusReads.flatMap UbloxRead.bytes := by decide +kernel
  have stream : statusReads.flatMap UbloxRead.bytes = statusSegment.bytes := by decide +kernel
  obtain ⟨published, calls, agree⟩ := @exists_publishesFor ℚ ℚ _ _ _ _ same
  intro agrees
  -- The report is complete at its last byte, and of the class of a solution.
  have clear := (agree_iff calls (length_of_same same)).mp (agree.mp agrees)
    ⟨0x01, 0x03, List.replicate 16 0⟩ (by
      rw [stream, UbxSegment.feed_bytes]
      exact List.mem_append_right _ List.mem_cons_self)
  revert clear
  decide +kernel

end Veloxity
