import Veloxity.Boards.PicoSensors
import Veloxity.Library.Transducer

/-! Each report of the sensors has the newest samples since the last one, and the gaps between
inertial samples count those passed over. -/

namespace Veloxity

open Library

variable {F R : Type}

/-- The reader of the inertial sensor, and the newest sample of each sensor that has not been
reported yet. -/
structure UnreadSensors (F : Type) where
  producer : Ism330dhcxImuProducer
  imu : Option (ImuPacket F F)
  rc : Option (RcPacket F)
  gnss : Option (Except SensorError GNSSPacket)
  baro : Option (Except SensorError (BaroPacket F))

namespace UnreadSensors

/-- Nothing has been read. -/
def new : UnreadSensors F := ⟨.new, none, none, none, none⟩

/-- A report with the sample of the inertial sensor. -/
def imuBus [FloatCast F R] (unread : UnreadSensors F) : SensorBus F R :=
  { imu := unread.imu.map fun imu => .ok imu.cast }

/-- A report with the samples of the other sensors. -/
def serviceBus (unread : UnreadSensors F) : SensorBus F R :=
  { rc := unread.rc.map .ok, gnss := unread.gnss, baro := unread.baro }

/-- A sample replaces one that has not been reported, and a report has the samples that have not
been reported. -/
def step [FlightFloat F] [FloatCast F R] (unread : UnreadSensors F) :
    PicoSensorStep F → UnreadSensors F × Option (PicoSensorReport F R)
  | .imuTask reading nowUs =>
    match unread.producer.readPacket reading nowUs with
    | (none, producer) => ({ unread with producer }, none)
    | (some packet, producer) => ({ unread with producer, imu := some packet }, none)
  | .crsfRxTask packet => ({ unread with rc := some packet }, none)
  | .gpsPioTask packet => ({ unread with gnss := some (.ok packet) }, none)
  | .pressureTask packet => ({ unread with baro := some packet }, none)
  | .updateSensorBus =>
    ({ unread with imu := none, rc := none, gnss := none, baro := none },
      some (.bus { (unread.serviceBus : SensorBus F R) with
        imu := (unread.imuBus : SensorBus F R).imu }))
  | .updateImuSensor => ({ unread with imu := none }, some (.bus unread.imuBus))
  | .updateServiceSensorBus =>
    ({ unread with rc := none, gnss := none, baro := none }, some (.bus unread.serviceBus))
  | .imuPending => (unread, some (.pending unread.imu.isSome))

end UnreadSensors

namespace PicoSensorProducer

/-- The queues look like the newest samples that have not been reported. -/
structure Shows (sensors : PicoSensorProducer F) (unread : UnreadSensors F) : Prop where
  imu : LatestRing.Shows sensors.ism330dhcxImu unread.imu
  rc : LatestRing.Shows sensors.crsfRc unread.rc
  gnss : LatestRing.Shows sensors.gnss unread.gnss
  baro : LatestRing.Shows sensors.baro unread.baro

variable {sensors : PicoSensorProducer F} {unread : UnreadSensors F}

/-- Queues with nothing in them look like no samples. -/
theorem new_shows [FlightFloat F] : (new : PicoSensorProducer F).Shows .new where
  imu := LatestRing.new_shows _ _
  rc := LatestRing.new_shows _ _
  gnss := LatestRing.new_shows _ _
  baro := LatestRing.new_shows _ _

/-- The newest inertial sample goes on the bus, if there is one. -/
theorem Shows.drainImuInto [FloatCast F R] (shows : sensors.Shows unread) :
    (sensors.drainImuInto ({} : SensorBus F R)).1 = unread.imuBus ∧
      (sensors.drainImuInto ({} : SensorBus F R)).2.Shows { unread with imu := none } := by
  obtain ⟨newest, onward⟩ := shows.imu.takeLatest false
  simp only [PicoSensorProducer.drainImuInto, Ism330dhcxImuQueue.takeLatest]
  -- The sample is the one taken out of the ring.
  generalize LatestRing.takeLatest false sensors.ism330dhcxImu = taken at newest onward
  obtain ⟨sample, ring⟩ := taken
  have present : sample = unread.imu := newest
  rw [UnreadSensors.imuBus, ← present]
  cases sample with
  | none => exact ⟨rfl, onward, shows.rc, shows.gnss, shows.baro⟩
  | some imu => exact ⟨rfl, onward, shows.rc, shows.gnss, shows.baro⟩

/-- The newest packets of the other sensors go on the bus, if there are any. -/
theorem Shows.drainServiceInto (shows : sensors.Shows unread) (bus : SensorBus F R)
    (cleared : bus.rc = none ∧ bus.gnss = none ∧ bus.baro = none) :
    (sensors.drainServiceInto bus).1 =
        { bus with rc := unread.rc.map .ok, gnss := unread.gnss, baro := unread.baro } ∧
      (sensors.drainServiceInto bus).2.Shows
        { unread with rc := none, gnss := none, baro := none } := by
  obtain ⟨newestRc, rcOnward⟩ := shows.rc.takeLatest false
  obtain ⟨newestGnss, gnssOnward⟩ := shows.gnss.takeLatest false
  obtain ⟨newestBaro, baroOnward⟩ := shows.baro.takeLatest true
  obtain ⟨noRc, noGnss, noBaro⟩ := cleared
  simp only [PicoSensorProducer.drainServiceInto, CrsfRcQueue.takeLatest, GnssQueue.takeLatest,
    BaroQueue.takeLatest, newestRc, newestGnss, newestBaro]
  refine ⟨?_, shows.imu, rcOnward, gnssOnward, baroOnward⟩
  -- A sensor without news leaves its place on the bus as it was.
  cases unread.rc <;> cases unread.gnss <;> cases unread.baro <;>
    simp only [Option.map_none, Option.map_some, ← noRc, ← noGnss, ← noBaro]

end PicoSensorProducer

namespace PicoSensors

/-- The reader is the same, and the queues look like the newest samples. -/
def Shows (pico : PicoSensors F) (unread : UnreadSensors F) : Prop :=
  pico.imu = unread.producer ∧ pico.sensors.Shows unread

/-- A step of either core leaves the queues looking like the newest samples, and reports them. -/
theorem Shows.step [FlightFloat F] [FloatCast F R] {pico : PicoSensors F}
    {unread : UnreadSensors F} (shows : pico.Shows unread) (input : PicoSensorStep F) :
    (pico.step input : PicoSensors F × Option (PicoSensorReport F R)).1.Shows
        (unread.step input : UnreadSensors F × Option (PicoSensorReport F R)).1 ∧
      (pico.step input : PicoSensors F × Option (PicoSensorReport F R)).2 =
        (unread.step input : UnreadSensors F × Option (PicoSensorReport F R)).2 := by
  obtain ⟨same, queues⟩ := shows
  cases input with
  | imuTask reading nowUs =>
    simp only [PicoSensors.step, UnreadSensors.step, same]
    cases (unread.producer.readPacket reading nowUs :
        Option (ImuPacket F F) × Ism330dhcxImuProducer) with
    | mk packet producer =>
      -- A reading that yields no packet only moves the producer on.
      cases packet with
      | none => exact ⟨⟨rfl, queues.imu, queues.rc, queues.gnss, queues.baro⟩, rfl⟩
      | some packet =>
        exact ⟨⟨rfl, queues.imu.push packet, queues.rc, queues.gnss, queues.baro⟩, rfl⟩
  | crsfRxTask packet =>
    exact ⟨⟨same, queues.imu, queues.rc.push packet, queues.gnss, queues.baro⟩, rfl⟩
  | gpsPioTask packet =>
    exact ⟨⟨same, queues.imu, queues.rc, queues.gnss.push _, queues.baro⟩, rfl⟩
  | pressureTask packet =>
    exact ⟨⟨same, queues.imu, queues.rc, queues.gnss, queues.baro.push packet⟩, rfl⟩
  | updateSensorBus =>
    -- The other sensors are put on a bus on which the inertial one already is.
    obtain ⟨imuBus, drained⟩ := (queues.drainImuInto :
      (pico.sensors.drainImuInto ({} : SensorBus F R)).1 = _ ∧ _)
    obtain ⟨bus, queuesAfter⟩ := drained.drainServiceInto
      (pico.sensors.drainImuInto ({} : SensorBus F R)).1 (by rw [imuBus]; exact ⟨rfl, rfl, rfl⟩)
    refine ⟨⟨same, queuesAfter⟩, ?_⟩
    rw [imuBus] at bus
    simp only [PicoSensors.step, UnreadSensors.step, PicoSensorProducer.drainInto, imuBus, bus]
    rfl
  | updateImuSensor =>
    obtain ⟨imuBus, drained⟩ := (queues.drainImuInto :
      (pico.sensors.drainImuInto ({} : SensorBus F R)).1 = _ ∧ _)
    exact ⟨⟨same, drained⟩, congrArg (fun bus => some (PicoSensorReport.bus bus)) imuBus⟩
  | updateServiceSensorBus =>
    obtain ⟨serviceBus, drained⟩ := queues.drainServiceInto ({} : SensorBus F R) ⟨rfl, rfl, rfl⟩
    exact ⟨⟨same, drained⟩, congrArg (fun bus => some (PicoSensorReport.bus bus)) serviceBus⟩
  | imuPending =>
    exact ⟨⟨same, queues⟩, congrArg (fun waits => some (PicoSensorReport.pending waits))
      queues.imu.hasPending⟩

/-- In any interleaving of the two cores each report has the newest samples of the sensors it is
about since they were last reported, and none of a sensor without a sample since then: the second
core cannot tell the queues from cells that hold the newest sample. -/
theorem run_reports [FlightFloat F] [FloatCast F R] (steps : List (PicoSensorStep F)) :
    (transduce (step (F := F) (R := R)) new steps).2 =
      (transduce (UnreadSensors.step (F := F) (R := R)) .new steps).2 := by
  have simulates : ∀ (pico : PicoSensors F) (unread : UnreadSensors F) input, pico.Shows unread →
      _ := fun pico unread input shows =>
        (shows.step input : _ ∧ (_ : Option (PicoSensorReport F R)) = _)
  exact (transduce_follows simulates ⟨rfl, PicoSensorProducer.new_shows⟩ steps).2

/-- The samples read are those before the first one reported, those from there to the last one
reported, and those that wait; the gaps count the ones passed over in between. -/
structure Counts (pico : PicoSensors F) (early span waiting : List (ImuPacket F F)) : Prop where
  read : pico.read = early ++ span ++ waiting
  next : pico.imu.seq = UInt32.ofNat pico.read.length
  numbered : ∀ index packet, pico.read[index]? = some packet →
    UInt32.ofNat packet.seq = UInt32.ofNat index
  queue : ∃ overrun, LatestRing.Follows pico.sensors.ism330dhcxImu ⟨waiting, overrun⟩
  among : pico.delivered.Sublist span
  first : span.head? = pico.delivered.head?
  last : span.getLast? = pico.delivered.getLast?
  unread : pico.delivered = [] → early = []
  lastSeq : pico.sensors.lastImuSeq = pico.delivered.getLast?.map fun imu => UInt32.ofNat imu.seq
  gaps : pico.sensors.imuSeqGaps = UInt32.ofNat (span.length - pico.delivered.length)

/-- Before anything is read there is nothing to count. -/
theorem new_counts [FlightFloat F] : (new : PicoSensors F).Counts [] [] [] where
  -- Nothing has been read, so every part is empty or vacuous.
  read := rfl
  next := rfl
  numbered index packet absent := by simp [new] at absent
  queue := ⟨0, LatestRing.new_follows _ _⟩
  among := List.Sublist.refl _
  first := rfl
  last := rfl
  unread _ := rfl
  lastSeq := rfl
  gaps := rfl

/-- A gap is the difference to the number expected, which is none where that number comes. -/
theorem gap_eq (gaps seq expected : UInt32) :
    (if seq ≠ expected then gaps + max (seq - expected) 1 else gaps) = gaps + (seq - expected) := by
  split
  · rename_i differs
    congr 1
    show (if seq - expected ≤ 1 then 1 else seq - expected) = seq - expected
    split
    · rename_i most
      -- A difference of at most one that is not zero is one.
      have some : (seq - expected).toNat ≠ 0 := by
        intro none
        have zero : seq - expected = 0 := UInt32.toNat_inj.mp none
        have back := UInt32.sub_add_cancel seq expected
        rw [zero, UInt32.zero_add] at back
        exact differs back.symm
      rw [UInt32.le_iff_toNat_le] at most
      have one : (seq - expected).toNat = 1 :=
        Nat.le_antisymm most (Nat.one_le_iff_ne_zero.mpr some)
      exact (UInt32.toNat_inj.mp one).symm
    · rfl
  · rename_i same
    rw [not_not.mp same]
    simp

variable {pico : PicoSensors F} {early span waiting : List (ImuPacket F F)}

/-- A sample that is read waits behind the others. -/
theorem Counts.read_packet [FlightFloat F] (counts : pico.Counts early span waiting)
    {reading : Option Ism330dhcxReading} {nowUs : Nat} {packet : ImuPacket F F}
    {imu : Ism330dhcxImuProducer} (read : pico.imu.readPacket reading nowUs = (some packet, imu)) :
    Counts { pico with
      imu
      sensors := { pico.sensors with ism330dhcxImu := pico.sensors.ism330dhcxImu.push packet }
      read := pico.read ++ [packet] } early span (waiting ++ [packet]) := by
  obtain ⟨overrun, follows⟩ := counts.queue
  -- The sample has the next number.
  have numbers : packet.seq = pico.imu.seq.toNat ∧ imu.seq = pico.imu.seq + 1 := by
    cases reading with
    | none => cases read
    | some registers =>
      cases read
      exact ⟨rfl, rfl⟩
  obtain ⟨number, following⟩ := numbers
  refine ⟨?_, ?_, ?_, ⟨_, follows.push packet⟩, counts.among, counts.first, counts.last,
    counts.unread, counts.lastSeq, counts.gaps⟩
  · simp [counts.read]
  · rw [following, counts.next, List.length_append, UInt32.ofNat_add]
    rfl
  · intro index other at_index
    rcases Nat.lt_or_ge index pico.read.length with inside | outside
    · rw [List.getElem?_append_left inside] at at_index
      exact counts.numbered index other at_index
    · rw [List.getElem?_append_right outside] at at_index
      have last : index = pico.read.length := by
        have within := (List.getElem?_eq_some_iff.mp at_index).1
        simp only [List.length_singleton] at within
        omega
      rw [last, Nat.sub_self] at at_index
      obtain rfl : packet = other := Option.some.inj at_index
      rw [last, ← counts.next, number, UInt32.ofNat_toNat]

/-- Nothing is counted when nothing waits. -/
theorem Counts.take_none [FloatCast F R] (counts : pico.Counts early span []) :
    Counts { pico with
      sensors := (pico.sensors.drainImuInto ({} : SensorBus F R)).2
      delivered := pico.delivered ++ pico.newestImu } early span [] := by
  -- The ring is empty, so taking the newest yields nothing and moves no counter.
  obtain ⟨overrun, follows⟩ := counts.queue
  obtain ⟨newest, onward⟩ := follows.takeLatest false
  have none : pico.newestImu = [] := by
    rw [newestImu, Ism330dhcxImuQueue.takeLatest, newest]
    rfl
  have same : (pico.sensors.drainImuInto ({} : SensorBus F R)).2 = { pico.sensors with
      ism330dhcxImu := (LatestRing.takeLatest false pico.sensors.ism330dhcxImu).2 } := by
    simp only [PicoSensorProducer.drainImuInto, Ism330dhcxImuQueue.takeLatest]
    generalize LatestRing.takeLatest false pico.sensors.ism330dhcxImu = taken at newest
    obtain ⟨sample, ring⟩ := taken
    cases newest
    rfl
  rw [none, List.append_nil, same]
  exact ⟨counts.read, counts.next, counts.numbered, ⟨_, onward⟩, counts.among, counts.first,
    counts.last, counts.unread, counts.lastSeq, counts.gaps⟩

/-- The newest of the samples that wait is reported, and the others are passed over. -/
theorem Counts.take_some [FloatCast F R] {passed : List (ImuPacket F F)} {imu : ImuPacket F F}
    (counts : pico.Counts early span (passed ++ [imu])) :
    ∃ early span, Counts { pico with
      sensors := (pico.sensors.drainImuInto ({} : SensorBus F R)).2
      delivered := pico.delivered ++ pico.newestImu } early span [] := by
  obtain ⟨overrun, follows⟩ := counts.queue
  obtain ⟨newest, onward⟩ := follows.takeLatest false
  have last : (LatestRing.takeLatest false pico.sensors.ism330dhcxImu).1 = some imu := by
    rw [newest]
    exact List.getLast?_concat
  have one : pico.newestImu = [imu] := by
    rw [newestImu, Ism330dhcxImuQueue.takeLatest, last]
    rfl
  -- The number of the sample is its place among those read.
  have number : UInt32.ofNat imu.seq =
      UInt32.ofNat (early.length + span.length + passed.length) := by
    refine counts.numbered _ imu ?_
    rw [counts.read, ← List.append_assoc, List.getElem?_append_right (by
      simp only [List.length_append]; omega)]
    simp [Nat.add_assoc]
  -- Taking the sample notes its number and counts the gap before it.
  have same : (pico.sensors.drainImuInto ({} : SensorBus F R)).2 = { pico.sensors with
      ism330dhcxImu := (LatestRing.takeLatest false pico.sensors.ism330dhcxImu).2
      lastImuSeq := some (UInt32.ofNat imu.seq)
      imuSeqGaps := pico.sensors.lastImuSeq.elim pico.sensors.imuSeqGaps fun lastSeq =>
        pico.sensors.imuSeqGaps + (UInt32.ofNat imu.seq - (lastSeq + 1)) } := by
    simp only [PicoSensorProducer.drainImuInto, Ism330dhcxImuQueue.takeLatest]
    generalize LatestRing.takeLatest false pico.sensors.ism330dhcxImu = taken at last
    obtain ⟨sample, ring⟩ := taken
    obtain rfl : sample = some imu := last
    cases pico.sensors.lastImuSeq with
    | none => rfl
    | some lastSeq => simp only [gap_eq, Option.elim_some]
  have shorter := counts.among.length_le
  rw [one, same]
  rcases List.eq_nil_or_concat pico.delivered with nothing | ⟨before, previous, ended⟩
  · -- The first sample reported begins the count.
    have first := counts.first
    rw [nothing, List.head?_nil, List.head?_eq_none_iff] at first
    have none := counts.lastSeq
    have start := counts.gaps
    rw [nothing] at none start
    rw [first] at start
    refine ⟨passed, [imu], ?_, counts.next, counts.numbered, ⟨_, onward⟩, ?_, ?_, ?_, ?_, ?_, ?_⟩
    · simp [counts.read, counts.unread nothing, first]
    · simp [nothing]
    · simp [nothing]
    · simp [nothing]
    · simp
    · simp
    · simp [none, start, nothing]
  · -- The gap is the number of samples passed over since the previous one reported.
    rw [List.concat_eq_append] at ended
    have lastOf : span.getLast? = some previous := by
      rw [counts.last, ended, List.getLast?_concat]
    obtain ⟨others, split⟩ := List.getLast?_eq_some_iff.mp lastOf
    have numberBefore : UInt32.ofNat previous.seq =
        UInt32.ofNat (early.length + others.length) := by
      refine counts.numbered _ previous ?_
      rw [counts.read, split]
      simp
    have lastSeq : pico.sensors.lastImuSeq = some (UInt32.ofNat previous.seq) := by
      rw [counts.lastSeq, ended, List.getLast?_concat]
      rfl
    have gap : UInt32.ofNat imu.seq - (UInt32.ofNat previous.seq + 1) =
        UInt32.ofNat passed.length := by
      have place : early.length + (others ++ [previous]).length + passed.length =
          passed.length + (early.length + others.length + 1) := by
        rw [List.length_append, List.length_singleton]
        omega
      rw [number, numberBefore, split, place, UInt32.ofNat_add, UInt32.ofNat_add _ 1]
      exact UInt32.add_sub_cancel _ _
    refine ⟨early, span ++ (passed ++ [imu]), ?_, counts.next, counts.numbered, ⟨_, onward⟩, ?_, ?_,
      ?_, ?_, ?_, ?_⟩
    · simp [counts.read]
    · exact counts.among.append (List.sublist_append_right _ _)
    · have head := counts.first
      rw [ended] at head
      rw [ended, List.head?_append, head]
      cases before <;> rfl
    · simp
    · simp [ended]
    · simp
    · simp only [lastSeq, Option.elim_some, gap, counts.gaps, List.length_append,
        List.length_singleton]
      rw [← UInt32.ofNat_add]
      congr 1
      omega

/-- A report with the inertial sensor keeps the count. -/
theorem Counts.take (R : Type) [FloatCast F R] (counts : pico.Counts early span waiting) :
    ∃ early span, Counts { pico with
      sensors := (pico.sensors.drainImuInto ({} : SensorBus F R)).2
      delivered := pico.delivered ++ pico.newestImu } early span [] := by
  rcases List.eq_nil_or_concat waiting with rfl | ⟨passed, imu, rfl⟩
  · exact ⟨early, span, counts.take_none⟩
  · rw [List.concat_eq_append] at counts
    exact counts.take_some

/-- A report without the inertial sensor keeps the count. -/
theorem Counts.of_service {next : PicoSensorProducer F} (counts : pico.Counts early span waiting)
    (imu : next.ism330dhcxImu = pico.sensors.ism330dhcxImu)
    (lastSeq : next.lastImuSeq = pico.sensors.lastImuSeq)
    (gaps : next.imuSeqGaps = pico.sensors.imuSeqGaps) :
    Counts { pico with sensors := next } early span waiting := by
  -- Everything counted is about the ring, the last number and the gaps, which all stay.
  obtain ⟨overrun, follows⟩ := counts.queue
  refine ⟨counts.read, counts.next, counts.numbered, ⟨overrun, ?_⟩, counts.among, counts.first,
    counts.last, counts.unread, lastSeq.trans counts.lastSeq, gaps.trans counts.gaps⟩
  rw [imu]
  exact follows

/-- Every step keeps the count. -/
theorem Counts.step (R : Type) [FlightFloat F] [FloatCast F R]
    (counts : pico.Counts early span waiting) (input : PicoSensorStep F) :
    ∃ early span waiting,
      (pico.step input : PicoSensors F × Option (PicoSensorReport F R)).1.Counts
        early span waiting := by
  cases input with
  | imuTask reading nowUs =>
    simp only [PicoSensors.step]
    cases read : (pico.imu.readPacket reading nowUs :
        Option (ImuPacket F F) × Ism330dhcxImuProducer) with
    | mk packet imu =>
      cases packet with
      | none =>
        -- A sample that could not be read is not numbered.
        have same : imu = pico.imu := by
          cases reading with
          | none => exact (Prod.mk.inj read).2.symm
          | some registers => cases read
        rw [same]
        exact ⟨_, _, _, counts⟩
      | some packet => exact ⟨_, _, _, counts.read_packet read⟩
  | crsfRxTask packet => exact ⟨_, _, _, counts.of_service rfl rfl rfl⟩
  | gpsPioTask packet => exact ⟨_, _, _, counts.of_service rfl rfl rfl⟩
  | pressureTask packet => exact ⟨_, _, _, counts.of_service rfl rfl rfl⟩
  | updateSensorBus =>
    obtain ⟨early, span, taken⟩ := counts.take R
    exact ⟨early, span, [], taken.of_service rfl rfl rfl⟩
  | updateImuSensor =>
    obtain ⟨early, span, taken⟩ := counts.take R
    exact ⟨early, span, [], taken⟩
  | updateServiceSensorBus => exact ⟨_, _, _, counts.of_service rfl rfl rfl⟩
  | imuPending => exact ⟨_, _, _, counts⟩

/-- In any interleaving of the two cores the inertial samples reported are some of those read, in
order, and the gaps count, up to overflow, those passed over between the first and the last one
reported; those read since then wait. -/
theorem run_gaps [FlightFloat F] [FloatCast F R] (steps : List (PicoSensorStep F)) :
    let pico := (transduce (step (F := F) (R := R)) new steps).1
    ∃ early span waiting, pico.read = early ++ span ++ waiting ∧
      (pico.delivered = [] → early = []) ∧ pico.sensors.imuPending = !waiting.isEmpty ∧
      pico.delivered.Sublist span ∧ span.head? = pico.delivered.head? ∧
      span.getLast? = pico.delivered.getLast? ∧
      pico.sensors.imuSeqGaps = UInt32.ofNat (span.length - pico.delivered.length) := by
  intro pico
  -- One step keeps some such account, so every run has one.
  have kept : ∀ (pico : PicoSensors F) input,
      (∃ early span waiting, pico.Counts early span waiting) →
      ∃ early span waiting, (step pico input : _ × Option (PicoSensorReport F R)).1.Counts
        early span waiting := by
    rintro pico input ⟨early, span, waiting, counts⟩
    exact counts.step R input
  obtain ⟨early, span, waiting, counts⟩ :=
    transduce_invariant kept ⟨[], [], [], new_counts⟩ steps
  obtain ⟨overrun, follows⟩ := counts.queue
  exact ⟨early, span, waiting, counts.read, counts.unread, follows.hasPending, counts.among,
    counts.first, counts.last, counts.gaps⟩

end PicoSensors

end Veloxity
