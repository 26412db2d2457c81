import Mathlib.Data.Fin.VecNotation
import Veloxity.Core.FlightFloat
import Veloxity.Library.SignalSlot
import Veloxity.Sensors.Bus

/-! The sensors of the simulated board, whose samples come from the simulator's thread. -/

namespace Veloxity

open Library

variable {F R : Type}

/-- Three components of a vector. -/
structure VeloxityFfiVector3 (R : Type) where
  x : R
  y : R
  z : R
  deriving DecidableEq, Repr

/-- Inertial sample of the simulator. -/
structure VeloxityFfiImu (F R : Type) where
  timestampUs : Nat
  angularVelocity : VeloxityFfiVector3 R
  linearAcceleration : VeloxityFfiVector3 R
  temperatureKelvin : F
  deriving DecidableEq, Repr

/-- Magnetometer sample of the simulator. -/
structure VeloxityFfiMag (R : Type) where
  timestampUs : Nat
  magneticField : VeloxityFfiVector3 R
  deriving DecidableEq, Repr

/-- Barometer sample of the simulator. -/
structure VeloxityFfiBaro (F : Type) where
  timestampUs : Nat
  altitude : F
  pressure : F
  temperatureKelvin : F
  deriving DecidableEq, Repr

/-- Satellite navigation sample of the simulator, of which the core only reads when it was taken. -/
structure VeloxityFfiGnss where
  timestampUs : Nat
  deriving DecidableEq, Repr

/-- Airspeed sample of the simulator. -/
structure VeloxityFfiAirspeed (F : Type) where
  timestampUs : Nat
  differentialPressure : F
  temperatureKelvin : F
  indicatedAirspeed : F
  deriving DecidableEq, Repr

/-- Range finder sample of the simulator. -/
structure VeloxityFfiRange (F : Type) where
  timestampUs : Nat
  range : F
  minRange : F
  maxRange : F
  deriving DecidableEq, Repr

/-- Battery sample of the simulator. -/
structure VeloxityFfiBattery (F : Type) where
  timestampUs : Nat
  voltage : F
  current : F
  deriving DecidableEq, Repr

/-- Pulse widths of the simulator's radio channels. -/
structure VeloxityFfiRc where
  timestampUs : Nat
  values : Vector UInt16 8
  deriving DecidableEq, Repr

/-- Samples of all sensors, each with a flag that says whether it is there. -/
structure VeloxityFfiSensorSnapshot (F R : Type) where
  imu : SignalSlot (VeloxityFfiImu F R)
  mag : SignalSlot (VeloxityFfiMag R)
  baro : SignalSlot (VeloxityFfiBaro F)
  gnss : SignalSlot VeloxityFfiGnss
  airspeed : SignalSlot (VeloxityFfiAirspeed F)
  range : SignalSlot (VeloxityFfiRange F)
  battery : SignalSlot (VeloxityFfiBattery F)
  rc : SignalSlot VeloxityFfiRc

/-- A snapshot without any sample. -/
def VeloxityFfiSensorSnapshot.default [FlightFloat F] [FlightFloat R] :
    VeloxityFfiSensorSnapshot F R :=
  let still : VeloxityFfiVector3 R := ⟨FlightFloat.zero, FlightFloat.zero, FlightFloat.zero⟩
  { imu := ⟨false, 0, still, still, FlightFloat.zero⟩
    mag := ⟨false, 0, still⟩
    baro := ⟨false, 0, FlightFloat.zero, FlightFloat.zero, FlightFloat.zero⟩
    gnss := ⟨false, ⟨0⟩⟩
    airspeed := ⟨false, 0, FlightFloat.zero, FlightFloat.zero, FlightFloat.zero⟩
    range := ⟨false, 0, FlightFloat.zero, FlightFloat.zero, FlightFloat.zero⟩
    battery := ⟨false, 0, FlightFloat.zero, FlightFloat.zero⟩
    rc := ⟨false, 0, #v[1500, 1500, 1000, 1500, 1000, 1000, 1000, 1000]⟩ }

/-- What the simulator's thread and the firmware's thread share of the sensors: the samples that
are still to be taken, and the numbers of inertial samples. -/
structure SharedSensors (F R : Type) where
  pending : VeloxityFfiSensorSnapshot F R
  latestImuGeneration : UInt64
  pendingImuGeneration : UInt64
  consumedImuGeneration : UInt64

namespace SharedSensors

/-- Nothing has been handed over. -/
def default [FlightFloat F] [FlightFloat R] : SharedSensors F R := ⟨.default, 0, 0, 0⟩

/-- Take over the samples that are there, and number the inertial one; zero is no number. -/
def merge (shared : SharedSensors F R) (incoming : VeloxityFfiSensorSnapshot F R) :
    SharedSensors F R :=
  let pending :=
    { imu := shared.pending.imu.merge incoming.imu
      mag := shared.pending.mag.merge incoming.mag
      baro := shared.pending.baro.merge incoming.baro
      gnss := shared.pending.gnss.merge incoming.gnss
      airspeed := shared.pending.airspeed.merge incoming.airspeed
      range := shared.pending.range.merge incoming.range
      battery := shared.pending.battery.merge incoming.battery
      rc := shared.pending.rc.merge incoming.rc }
  if incoming.imu.has then
    let latestImuGeneration := max (shared.latestImuGeneration + 1) 1
    { shared with pending, latestImuGeneration, pendingImuGeneration := latestImuGeneration }
  else { shared with pending }

/-- An inertial sample is still to be taken. -/
def imuPending (shared : SharedSensors F R) : Bool := shared.pending.imu.has

/-- Take the inertial sample and remember its number. -/
def takeImu (shared : SharedSensors F R) : Option (VeloxityFfiImu F R) × SharedSensors F R :=
  if shared.pending.imu.has then
    (some shared.pending.imu.value,
      { shared with
        pending := { shared.pending with imu := shared.pending.imu.clear }
        consumedImuGeneration := shared.pendingImuGeneration })
  else (none, shared)

/-- Take all samples, the inertial one only if it is asked for. -/
def takeSnapshot (shared : SharedSensors F R) (includeImu : Bool) :
    VeloxityFfiSensorSnapshot F R × SharedSensors F R :=
  let snapshot := shared.pending
  let taken := includeImu && snapshot.imu.has
  ({ snapshot with imu := if taken then snapshot.imu else snapshot.imu.clear },
    { shared with
      pending :=
        { imu := if taken then snapshot.imu.clear else snapshot.imu
          mag := snapshot.mag.clear
          baro := snapshot.baro.clear
          gnss := snapshot.gnss.clear
          airspeed := snapshot.airspeed.clear
          range := snapshot.range.clear
          battery := snapshot.battery.clear
          rc := snapshot.rc.clear }
      consumedImuGeneration :=
        if taken then shared.pendingImuGeneration else shared.consumedImuGeneration })

/-- A snapshot is merged sensor by sensor. -/
theorem pending_merge (shared : SharedSensors F R) (incoming : VeloxityFfiSensorSnapshot F R) :
    (shared.merge incoming).pending =
      { imu := shared.pending.imu.merge incoming.imu
        mag := shared.pending.mag.merge incoming.mag
        baro := shared.pending.baro.merge incoming.baro
        gnss := shared.pending.gnss.merge incoming.gnss
        airspeed := shared.pending.airspeed.merge incoming.airspeed
        range := shared.pending.range.merge incoming.range
        battery := shared.pending.battery.merge incoming.battery
        rc := shared.pending.rc.merge incoming.rc } := by
  -- The number of an inertial sample is not part of what waits.
  simp only [merge]
  split <;> rfl

/-- Taking the inertial sample leaves the samples of the other sensors alone. -/
theorem pending_takeImu (shared : SharedSensors F R) :
    shared.takeImu.2.pending = { shared.pending with imu := shared.pending.imu.clear } := by
  simp only [takeImu]
  split
  · rfl
  · rename_i none
    -- Where nothing waits there is nothing to clear.
    have gone : shared.pending.imu.has = false := by simpa using none
    simp [SignalSlot.clear, ← gone]

end SharedSensors

section Packets

/-- The inertial packet of a sample. -/
def ffiImuPacket (imu : VeloxityFfiImu F R) : ImuPacket F R where
  header := { timestamp := imu.timestampUs, status := 0 }
  accel := ![imu.linearAcceleration.x, imu.linearAcceleration.y, imu.linearAcceleration.z]
  gyro := ![imu.angularVelocity.x, imu.angularVelocity.y, imu.angularVelocity.z]
  temperature := imu.temperatureKelvin
  seq := 0

/-- The magnetometer packet of a sample. -/
def ffiMagPacket [FlightFloat F] [FloatCast F R] (mag : VeloxityFfiMag R) : MagPacket F where
  header := { timestamp := mag.timestampUs, status := 0 }
  flux := ![FloatCast.toF32Lossy mag.magneticField.x, FloatCast.toF32Lossy mag.magneticField.y,
    FloatCast.toF32Lossy mag.magneticField.z]
  temperature := FlightFloat.lit 25

/-- The barometer packet of a sample. -/
def ffiBaroPacket (baro : VeloxityFfiBaro F) : BaroPacket F where
  header := { timestamp := baro.timestampUs, status := 0 }
  pressure := baro.pressure
  temperature := baro.temperatureKelvin
  altitude := baro.altitude

/-- The satellite navigation packet of a sample. -/
def ffiGnssPacket (gnss : VeloxityFfiGnss) : GNSSPacket where
  header := { timestamp := gnss.timestampUs, status := 0 }

/-- The airspeed packet of a sample. -/
def ffiPitotPacket (airspeed : VeloxityFfiAirspeed F) : PitotPacket F where
  header := { timestamp := airspeed.timestampUs, status := 0 }
  differentialPressure := airspeed.differentialPressure
  temperature := airspeed.temperatureKelvin
  indicatedAirspeed := airspeed.indicatedAirspeed

/-- The range finder packet of a sample. -/
def ffiRangePacket (range : VeloxityFfiRange F) : RangePacket F where
  header := { timestamp := range.timestampUs, status := 0 }
  range := range.range
  minRange := range.minRange
  maxRange := range.maxRange

/-- The battery packet of a sample. -/
def ffiBatteryPacket (battery : VeloxityFfiBattery F) : BatteryPacket F where
  header := { timestamp := battery.timestampUs, status := 0 }
  voltage := battery.voltage
  current := battery.current

/-- The packet of radio channels, with pulses of one to two milliseconds from zero to one. -/
def ffiRcPacket [FlightFloat F] (rc : VeloxityFfiRc) : RcPacket F where
  header := { timestamp := rc.timestampUs, status := 0 }
  nChan := 8
  chan channel := match rc.values[channel.val]? with
    | some value =>
      (FlightFloat.lit value.toNat - FlightFloat.lit 1000) / FlightFloat.lit 1000
    | none => FlightFloat.zero
  lol := false

end Packets

/-- The time of the last sample of each sensor that the simulated board has reported. -/
structure FfiBoard where
  lastMagTimestampUs : Nat
  lastBaroTimestampUs : Nat
  lastGnssTimestampUs : Nat
  lastAirspeedTimestampUs : Nat
  lastRangeTimestampUs : Nat
  lastBatteryTimestampUs : Nat
  lastRcTimestampUs : Nat
  deriving DecidableEq, Repr

namespace FfiBoard

/-- Nothing has been reported. -/
def new : FfiBoard := ⟨0, 0, 0, 0, 0, 0, 0⟩

/-- Report what is new since the last report, with the inertial sample only if it is asked for. -/
def updateSensorBusImpl [FlightFloat F] [FloatCast F R] (board : FfiBoard)
    (shared : SharedSensors F R) (includeImu : Bool) :
    SensorBus F R × FfiBoard × SharedSensors F R :=
  let (snapshot, shared) := shared.takeSnapshot includeImu
  let (mag, lastMagTimestampUs) :=
    snapshot.mag.fresh VeloxityFfiMag.timestampUs board.lastMagTimestampUs
  let (baro, lastBaroTimestampUs) :=
    snapshot.baro.fresh VeloxityFfiBaro.timestampUs board.lastBaroTimestampUs
  let (gnss, lastGnssTimestampUs) :=
    snapshot.gnss.fresh VeloxityFfiGnss.timestampUs board.lastGnssTimestampUs
  let (airspeed, lastAirspeedTimestampUs) :=
    snapshot.airspeed.fresh VeloxityFfiAirspeed.timestampUs board.lastAirspeedTimestampUs
  let (range, lastRangeTimestampUs) :=
    snapshot.range.fresh VeloxityFfiRange.timestampUs board.lastRangeTimestampUs
  let (battery, lastBatteryTimestampUs) :=
    snapshot.battery.fresh VeloxityFfiBattery.timestampUs board.lastBatteryTimestampUs
  let (rc, lastRcTimestampUs) :=
    snapshot.rc.fresh VeloxityFfiRc.timestampUs board.lastRcTimestampUs
  ({ imu := snapshot.imu.unread.map fun imu => .ok (ffiImuPacket imu)
     mag := mag.map fun mag => .ok (ffiMagPacket mag)
     baro := baro.map fun baro => .ok (ffiBaroPacket baro)
     gnss := gnss.map fun gnss => .ok (ffiGnssPacket gnss)
     pitot := airspeed.map fun airspeed => .ok (ffiPitotPacket airspeed)
     range := range.map fun range => .ok (ffiRangePacket range)
     battery := battery.map fun battery => .ok (ffiBatteryPacket battery)
     rc := rc.map fun rc => .ok (ffiRcPacket rc) },
    { lastMagTimestampUs, lastBaroTimestampUs, lastGnssTimestampUs, lastAirspeedTimestampUs
      lastRangeTimestampUs, lastBatteryTimestampUs, lastRcTimestampUs }, shared)

/-- Report all sensors. -/
def updateSensorBus [FlightFloat F] [FloatCast F R] (board : FfiBoard)
    (shared : SharedSensors F R) : SensorBus F R × FfiBoard × SharedSensors F R :=
  board.updateSensorBusImpl shared true

/-- Report all sensors but the inertial one. -/
def updateServiceSensorBus [FlightFloat F] [FloatCast F R] (board : FfiBoard)
    (shared : SharedSensors F R) : SensorBus F R × FfiBoard × SharedSensors F R :=
  board.updateSensorBusImpl shared false

/-- Report the inertial sensor. -/
def updateImuSensor (shared : SharedSensors F R) : SensorBus F R × SharedSensors F R :=
  let (imu, shared) := shared.takeImu
  ({ imu := imu.map fun imu => .ok (ffiImuPacket imu) }, shared)

/-- What the firmware's thread asks the board to report. -/
inductive Poll where
  /-- All sensors. -/
  | updateSensorBus
  /-- All sensors but the inertial one. -/
  | updateServiceSensorBus
  /-- The inertial sensor. -/
  | updateImuSensor
  deriving DecidableEq, Repr

/-- The report that is asked for. -/
def poll [FlightFloat F] [FloatCast F R] (board : FfiBoard) (shared : SharedSensors F R) :
    Poll → SensorBus F R × FfiBoard × SharedSensors F R
  | .updateSensorBus => board.updateSensorBus shared
  | .updateServiceSensorBus => board.updateServiceSensorBus shared
  | .updateImuSensor =>
    let (bus, shared) := updateImuSensor shared
    (bus, board, shared)

end FfiBoard

/-- The shared sensors and the board, with a record of the reports. -/
structure FfiSensors (F R : Type) where
  shared : SharedSensors F R
  board : FfiBoard
  reports : List (SensorBus F R)

/-- What the two threads do to the sensors. -/
inductive FfiSensorStep (F R : Type) where
  /-- The simulator hands a snapshot over. -/
  | setSensors (snapshot : VeloxityFfiSensorSnapshot F R)
  /-- The firmware asks for a report. -/
  | poll (poll : FfiBoard.Poll)

namespace FfiSensors

/-- Nothing has been handed over or reported. -/
def new [FlightFloat F] [FlightFloat R] : FfiSensors F R := ⟨.default, .new, []⟩

/-- What a step does to the sensors. -/
def step [FlightFloat F] [FloatCast F R] (sensors : FfiSensors F R) :
    FfiSensorStep F R → FfiSensors F R
  | .setSensors snapshot => { sensors with shared := sensors.shared.merge snapshot }
  | .poll poll =>
    let (bus, board, shared) := sensors.board.poll sensors.shared poll
    { shared, board, reports := sensors.reports ++ [bus] }

end FfiSensors

end Veloxity
