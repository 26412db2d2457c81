import Mathlib.Data.List.DropRight
import Veloxity.Library.Run
import Veloxity.Sim.FfiSensors

/-! The simulated board reports each sample at most once, and the newest one handed over. -/

namespace Veloxity

open Library SignalSlot

variable {F R : Type} [FlightFloat F] [FloatCast F R]

namespace FfiBoard

variable (board : FfiBoard) (shared : SharedSensors F R)

/-- A report takes the samples of the sensors it is about, and leaves those of the others. -/
theorem pending_poll (poll : Poll) :
    (board.poll shared poll).2.2.pending =
      { imu := if poll = .updateServiceSensorBus then shared.pending.imu
          else shared.pending.imu.clear
        mag := if poll = .updateImuSensor then shared.pending.mag else shared.pending.mag.clear
        baro := if poll = .updateImuSensor then shared.pending.baro else shared.pending.baro.clear
        gnss := if poll = .updateImuSensor then shared.pending.gnss else shared.pending.gnss.clear
        airspeed := if poll = .updateImuSensor then shared.pending.airspeed
          else shared.pending.airspeed.clear
        range := if poll = .updateImuSensor then shared.pending.range
          else shared.pending.range.clear
        battery := if poll = .updateImuSensor then shared.pending.battery
          else shared.pending.battery.clear
        rc := if poll = .updateImuSensor then shared.pending.rc else shared.pending.rc.clear } := by
  cases poll with
  | updateSensorBus =>
    -- Where no inertial sample waits, its place is as good as cleared.
    obtain ⟨⟨⟨has, _⟩, _⟩, _⟩ := shared
    cases has <;> rfl
  | updateServiceSensorBus => rfl
  | updateImuSensor => exact shared.pending_takeImu

/-- A report has the inertial sample that waits, unless it is about the other sensors only. -/
theorem imu_poll (poll : Poll) :
    (board.poll shared poll).1.imu =
      if poll = .updateServiceSensorBus then none
      else shared.pending.imu.unread.map fun imu => .ok (ffiImuPacket imu) := by
  -- What both reports with the inertial sensor do depends on whether a sample waits.
  obtain ⟨⟨⟨has, _⟩, _⟩, _⟩ := shared
  cases poll <;> cases has <;> rfl

end FfiBoard

variable [FlightFloat R]

/-- A sensor of the simulated board: where its samples wait and are reported, which reports are
about it, whether and against what the times of its samples are checked, the packets made of them,
and that the board treats it so. -/
structure SimulatedSensor (F R α β : Type) [FlightFloat F] [FlightFloat R] [FloatCast F R] where
  slot : VeloxityFfiSensorSnapshot F R → SignalSlot α
  reading : SensorBus F R → Option (Except SensorError β)
  asked : FfiBoard.Poll → Bool
  checked : Bool
  last : FfiBoard → Nat
  stamp : α → Nat
  packet : α → β
  merged : ∀ (shared : SharedSensors F R) incoming,
    slot (shared.merge incoming).pending = (slot shared.pending).merge (slot incoming)
  cleared : ∀ (board : FfiBoard) (shared : SharedSensors F R) poll,
    slot (board.poll shared poll).2.2.pending =
      if asked poll then (slot shared.pending).clear else slot shared.pending
  passed : ∀ (board : FfiBoard) (shared : SharedSensors F R) poll,
    last (board.poll shared poll).2.1 =
      if asked poll then ((slot shared.pending).take checked stamp (last board)).2 else last board
  read : ∀ (board : FfiBoard) (shared : SharedSensors F R) poll,
    reading (board.poll shared poll).1 =
      if asked poll then ((slot shared.pending).take checked stamp (last board)).1.map fun sample =>
        .ok (packet sample)
      else none
  unoffered : (slot .default).has = false
  unreported : last .new = 0

namespace SimulatedSensor

section Sensors

variable (F R)

/-- The inertial sensor, whose times nobody checks. -/
def imu : SimulatedSensor F R (VeloxityFfiImu F R) (ImuPacket F R) where
  slot snapshot := snapshot.imu
  reading bus := bus.imu
  asked poll := poll != .updateServiceSensorBus
  checked := false
  last _ := 0
  stamp := VeloxityFfiImu.timestampUs
  packet := ffiImuPacket
  merged shared incoming := by rw [SharedSensors.pending_merge]
  cleared _ _ poll := by rw [FfiBoard.pending_poll]; cases poll <;> rfl
  passed _ _ poll := by cases poll <;> rfl
  read _ _ poll := by rw [FfiBoard.imu_poll]; cases poll <;> rfl
  unoffered := rfl
  unreported := rfl

/-- The magnetometer. -/
def mag : SimulatedSensor F R (VeloxityFfiMag R) (MagPacket F) where
  slot snapshot := snapshot.mag
  reading bus := bus.mag
  asked poll := poll != .updateImuSensor
  checked := true
  last board := board.lastMagTimestampUs
  stamp := VeloxityFfiMag.timestampUs
  packet := ffiMagPacket
  merged shared incoming := by rw [SharedSensors.pending_merge]
  cleared _ _ poll := by rw [FfiBoard.pending_poll]; cases poll <;> rfl
  passed _ _ poll := by cases poll <;> rfl
  read _ _ poll := by cases poll <;> rfl
  unoffered := rfl
  unreported := rfl

/-- The barometer. -/
def baro : SimulatedSensor F R (VeloxityFfiBaro F) (BaroPacket F) where
  slot snapshot := snapshot.baro
  reading bus := bus.baro
  asked poll := poll != .updateImuSensor
  checked := true
  last board := board.lastBaroTimestampUs
  stamp := VeloxityFfiBaro.timestampUs
  packet := ffiBaroPacket
  merged shared incoming := by rw [SharedSensors.pending_merge]
  cleared _ _ poll := by rw [FfiBoard.pending_poll]; cases poll <;> rfl
  passed _ _ poll := by cases poll <;> rfl
  read _ _ poll := by cases poll <;> rfl
  unoffered := rfl
  unreported := rfl

/-- The satellite receiver. -/
def gnss : SimulatedSensor F R VeloxityFfiGnss GNSSPacket where
  slot snapshot := snapshot.gnss
  reading bus := bus.gnss
  asked poll := poll != .updateImuSensor
  checked := true
  last board := board.lastGnssTimestampUs
  stamp := VeloxityFfiGnss.timestampUs
  packet := ffiGnssPacket
  merged shared incoming := by rw [SharedSensors.pending_merge]
  cleared _ _ poll := by rw [FfiBoard.pending_poll]; cases poll <;> rfl
  passed _ _ poll := by cases poll <;> rfl
  read _ _ poll := by cases poll <;> rfl
  unoffered := rfl
  unreported := rfl

/-- The airspeed sensor. -/
def airspeed : SimulatedSensor F R (VeloxityFfiAirspeed F) (PitotPacket F) where
  slot snapshot := snapshot.airspeed
  reading bus := bus.pitot
  asked poll := poll != .updateImuSensor
  checked := true
  last board := board.lastAirspeedTimestampUs
  stamp := VeloxityFfiAirspeed.timestampUs
  packet := ffiPitotPacket
  merged shared incoming := by rw [SharedSensors.pending_merge]
  cleared _ _ poll := by rw [FfiBoard.pending_poll]; cases poll <;> rfl
  passed _ _ poll := by cases poll <;> rfl
  read _ _ poll := by cases poll <;> rfl
  unoffered := rfl
  unreported := rfl

/-- The range finder. -/
def range : SimulatedSensor F R (VeloxityFfiRange F) (RangePacket F) where
  slot snapshot := snapshot.range
  reading bus := bus.range
  asked poll := poll != .updateImuSensor
  checked := true
  last board := board.lastRangeTimestampUs
  stamp := VeloxityFfiRange.timestampUs
  packet := ffiRangePacket
  merged shared incoming := by rw [SharedSensors.pending_merge]
  cleared _ _ poll := by rw [FfiBoard.pending_poll]; cases poll <;> rfl
  passed _ _ poll := by cases poll <;> rfl
  read _ _ poll := by cases poll <;> rfl
  unoffered := rfl
  unreported := rfl

/-- The battery. -/
def battery : SimulatedSensor F R (VeloxityFfiBattery F) (BatteryPacket F) where
  slot snapshot := snapshot.battery
  reading bus := bus.battery
  asked poll := poll != .updateImuSensor
  checked := true
  last board := board.lastBatteryTimestampUs
  stamp := VeloxityFfiBattery.timestampUs
  packet := ffiBatteryPacket
  merged shared incoming := by rw [SharedSensors.pending_merge]
  cleared _ _ poll := by rw [FfiBoard.pending_poll]; cases poll <;> rfl
  passed _ _ poll := by cases poll <;> rfl
  read _ _ poll := by cases poll <;> rfl
  unoffered := rfl
  unreported := rfl

/-- The radio receiver. -/
def rc : SimulatedSensor F R VeloxityFfiRc (RcPacket F) where
  slot snapshot := snapshot.rc
  reading bus := bus.rc
  asked poll := poll != .updateImuSensor
  checked := true
  last board := board.lastRcTimestampUs
  stamp := VeloxityFfiRc.timestampUs
  packet := ffiRcPacket
  merged shared incoming := by rw [SharedSensors.pending_merge]
  cleared _ _ poll := by rw [FfiBoard.pending_poll]; cases poll <;> rfl
  passed _ _ poll := by cases poll <;> rfl
  read _ _ poll := by cases poll <;> rfl
  unoffered := rfl
  unreported := rfl

/-- Something holds of every sensor of the simulated board. -/
def Every (holds : ∀ {α β : Type}, SimulatedSensor F R α β → Prop) : Prop :=
  holds (imu F R) ∧ holds (mag F R) ∧ holds (baro F R) ∧ holds (gnss F R) ∧
    holds (airspeed F R) ∧ holds (range F R) ∧ holds (battery F R) ∧ holds (rc F R)

end Sensors

variable {α β : Type} (sensor : SimulatedSensor F R α β)

/-- The sample of a sensor that a step hands over. -/
def offered : FfiSensorStep F R → Option α
  | .setSensors snapshot => (sensor.slot snapshot).unread
  | .poll _ => none

/-- A step asks for a report about a sensor. -/
def asks : FfiSensorStep F R → Bool
  | .setSensors _ => false
  | .poll poll => sensor.asked poll

/-- The samples of a sensor that a run hands over. -/
def handedOver (steps : List (FfiSensorStep F R)) : List α := steps.filterMap sensor.offered

/-- The newest sample that a run hands over after its last report about a sensor. -/
def newest (steps : List (FfiSensorStep F R)) : Option α :=
  (sensor.handedOver (steps.rtakeWhile fun step => !sensor.asks step)).getLast?

/-- What reports have said of a sensor. -/
def said (sensors : FfiSensors F R) : List (Except SensorError β) :=
  sensors.reports.filterMap sensor.reading

/-- What the reports of a run say of a sensor. -/
def reported (steps : List (FfiSensorStep F R)) : List (Except SensorError β) :=
  sensor.said (run FfiSensors.step .new steps)

/-- After a run the newest sample waits, and what the reports have said of a sensor is made from
samples taken out of those handed over. -/
structure Sound (steps : List (FfiSensorStep F R)) (sensors : FfiSensors F R) : Prop where
  waits : (sensor.slot sensors.shared.pending).unread = sensor.newest steps
  made : Reported sensor.checked sensor.stamp (fun sample => .ok (sensor.packet sample))
    (sensor.slot sensors.shared.pending) (sensor.last sensors.board) (sensor.handedOver steps)
    (sensor.said sensors)

variable {sensor} {steps : List (FfiSensorStep F R)} {sensors : FfiSensors F R}

/-- One more step may hand one more sample over. -/
@[simp] theorem handedOver_concat (step : FfiSensorStep F R) :
    sensor.handedOver (steps ++ [step]) =
      sensor.handedOver steps ++ (sensor.offered step).toList := by
  -- The last step hands over one sample or none.
  rw [handedOver, List.filterMap_append]
  cases given : sensor.offered step <;> simp [handedOver, given]

/-- A sample that comes is the newest one, and a report about the sensor leaves none behind. -/
theorem newest_concat (step : FfiSensorStep F R) :
    sensor.newest (steps ++ [step]) =
      if sensor.asks step then none else (sensor.offered step).or (sensor.newest steps) := by
  rw [newest, List.rtakeWhile_concat]
  cases asking : sensor.asks step with
  | true => rfl
  | false =>
    -- The last sample of the longer list is that of the last step if it has one.
    cases given : sensor.offered step <;> simp [newest, given]

/-- One more report adds what it says of the sensor. -/
theorem said_poll (poll : FfiBoard.Poll) :
    sensor.said (sensors.step (.poll poll)) =
      sensor.said sensors ++
        (sensor.reading (sensors.board.poll sensors.shared poll).1).toList := by
  -- The reading at the end of the reports is the one that was taken.
  simp only [said, FfiSensors.step, List.filterMap_append]
  cases given : sensor.reading (sensors.board.poll sensors.shared poll).1 <;> simp [given]

/-- A step of either thread keeps what waits and what has been reported right. -/
theorem Sound.step (sound : sensor.Sound steps sensors) (input : FfiSensorStep F R) :
    sensor.Sound (steps ++ [input]) (sensors.step input) := by
  obtain ⟨waits, made⟩ := sound
  cases input with
  | setSensors snapshot =>
    constructor
    · simp [FfiSensors.step, sensor.merged, newest_concat, asks, offered, waits]
    · rw [handedOver_concat]
      simp only [FfiSensors.step, sensor.merged]
      exact made.merge (sensor.slot snapshot)
  | poll poll =>
    -- A poll hands nothing over, and changes something only if it is about the sensor.
    have unchanged : sensor.handedOver (steps ++ [.poll poll]) = sensor.handedOver steps := by
      simp [offered]
    constructor
    · rw [newest_concat, asks, FfiSensors.step, sensor.cleared]
      cases sensor.asked poll with
      | true => rfl
      | false => simpa [offered] using waits
    · rw [unchanged, said_poll]
      simp only [FfiSensors.step, sensor.cleared, sensor.passed, sensor.read]
      cases sensor.asked poll with
      | true => exact made.read
      | false => simpa using made

/-- After every run the newest sample waits, and the reports are made from samples handed over. -/
theorem sound_run (sensor : SimulatedSensor F R α β) (steps : List (FfiSensorStep F R)) :
    sensor.Sound steps (run FfiSensors.step .new steps) := by
  -- The last step of a run is the one that is taken from the state before.
  induction steps using List.reverseRecOn with
  | nil =>
    refine ⟨by simp [FfiSensors.new, SharedSensors.default, unread, sensor.unoffered]; rfl, ?_⟩
    rw [run_nil, FfiSensors.new, sensor.unreported]
    exact .start sensor.unoffered
  | append_singleton steps input ih =>
    rw [run_concat]
    exact ih.step input

/-- What the reports of a run say of a sensor: some of the samples handed over, in their order and
no sample twice, with times that rise if they are checked; and, where the times of the samples
handed over rise or are not checked, a poll that is about the sensor adds the newest sample handed
over since the last such poll, and every other poll adds nothing. -/
structure Serves (sensor : SimulatedSensor F R α β) (steps : List (FfiSensorStep F R)) : Prop where
  rising : RisingReports sensor.checked sensor.stamp (fun sample => .ok (sensor.packet sample))
    (sensor.handedOver steps) (sensor.reported steps)
  latest : (sensor.checked = true →
      (0 :: (sensor.handedOver steps).map sensor.stamp).Pairwise (· < ·)) →
    ∀ poll : FfiBoard.Poll,
      sensor.reported (steps ++ [.poll poll]) = sensor.reported steps ++
        if sensor.asked poll then
          ((sensor.newest steps).map fun sample => .ok (sensor.packet sample)).toList
        else []

/-- The board serves a sensor along every run. -/
theorem serves_run (sensor : SimulatedSensor F R α β) (steps : List (FfiSensorStep F R)) :
    sensor.Serves steps := by
  have sound := sensor.sound_run steps
  refine ⟨sound.made.rising, fun rises poll => ?_⟩
  rw [reported, run_concat, said_poll, sensor.read]
  cases sensor.asked poll with
  | false => rfl
  | true =>
    -- Whatever waits is taken, and what waits is the newest sample.
    rw [if_pos rfl, if_pos rfl, sound.made.next_of_rising rises, sound.waits]
    rfl

end SimulatedSensor

namespace FfiSensors

/-- However the two threads take turns, the simulated board serves all its sensors, the inertial one
included, whose times alone are not checked. -/
theorem run_reports_rise (steps : List (FfiSensorStep F R)) :
    SimulatedSensor.Every F R fun sensor => sensor.Serves steps := by
  -- The argument is the same for every sensor.
  have each : ∀ {α β : Type} (sensor : SimulatedSensor F R α β), sensor.Serves steps :=
    fun sensor => sensor.serves_run steps
  exact ⟨each _, each _, each _, each _, each _, each _, each _, each _⟩

end FfiSensors

end Veloxity
