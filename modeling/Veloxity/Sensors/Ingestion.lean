import Veloxity.Sensors.Processors
import Veloxity.State.Machine

/-! From raw reports to processed samples, and the health of the inertial sensor. -/

namespace Veloxity

variable {F R : Type}

/-- What processing a bus reads and changes. -/
structure SensorIngestion (F R : Type) where
  processed : ProcessedSensors F R
  processors : SensorProcessorSet F R
  flags : CalibrationFlags
  params : Params F

namespace SensorIngestion

variable [FlightFloat F] [FlightFloat R] [FloatCast F R]

/-- Process the inertial report, where none clears the sample. -/
def processImuSensor (ingestion : SensorIngestion F R) (raw : RawPacket (ImuPacket F R)) :
    SensorIngestion F R :=
  if raw.isSome then
    let done := ingestion.processors.imu.process raw ingestion.flags ingestion.params
    { processed := { ingestion.processed with imu := done.2 }
      processors := { ingestion.processors with imu := done.1.state }
      flags := done.1.flags, params := done.1.params }
  else { ingestion with processed := { ingestion.processed with imu := none } }

/-- Process the magnetometer report. -/
def processMag (ingestion : SensorIngestion F R) (raw : RawPacket (MagPacket F)) :
    SensorIngestion F R :=
  { ingestion with
    processed := { ingestion.processed with mag := magProcess raw ingestion.params } }

/-- Process the barometer report. -/
def processBaro (ingestion : SensorIngestion F R) (raw : RawPacket (BaroPacket F)) (nowMs : Nat) :
    SensorIngestion F R :=
  if raw.isSome then
    let done := baroProcess ingestion.processors.baro raw ingestion.flags ingestion.params nowMs
    { processed := { ingestion.processed with baro := done.2 }
      processors := { ingestion.processors with baro := done.1.state }
      flags := done.1.flags, params := done.1.params }
  else { ingestion with processed := { ingestion.processed with baro := none } }

/-- Process the airspeed report. -/
def processPitot (ingestion : SensorIngestion F R) (raw : RawPacket (PitotPacket F))
    (nowMs : Nat) : SensorIngestion F R :=
  if raw.isSome then
    let done := pitotProcess ingestion.processors.pitot raw ingestion.flags ingestion.params nowMs
    { processed := { ingestion.processed with pitot := done.2 }
      processors := { ingestion.processors with pitot := done.1.state }
      flags := done.1.flags, params := done.1.params }
  else { ingestion with processed := { ingestion.processed with pitot := none } }

/-- Process the battery report, where none keeps the sample. -/
def processBattery (ingestion : SensorIngestion F R) (raw : RawPacket (BatteryPacket F)) :
    SensorIngestion F R :=
  if raw.isSome then
    let done := ingestion.processors.battery.process raw ingestion.params
    { ingestion with
      processed := { ingestion.processed with battery := done.2 }
      processors := { ingestion.processors with battery := done.1 } }
  else ingestion

/-- Process the reports that are passed on as they are. -/
def processPassthrough (ingestion : SensorIngestion F R) (raw : SensorBus F R) :
    SensorIngestion F R :=
  { ingestion with
    processed := { ingestion.processed with
      range := takeOkPacket raw.range, gnss := takeOkPacket raw.gnss, rc := takeOkPacket raw.rc
      attitude := takeOkPacket raw.attitude } }

/-- Process every report of the bus. -/
def processSensorBus (ingestion : SensorIngestion F R) (raw : SensorBus F R) (nowMs : Nat) :
    SensorIngestion F R :=
  ((((((ingestion.processImuSensor raw.imu).processMag raw.mag).processBaro raw.baro
    nowMs).processPitot raw.pitot nowMs).processBattery raw.battery).processPassthrough raw)

end SensorIngestion

/-- Age of an inertial sample in microseconds beyond which the sensor counts as silent. -/
def IMU_TIMEOUT_US : Nat := 100000

/-- The time an inertial sample was last held, with the state that reports its absence. -/
structure SensorHealth where
  state : StateManager
  lastImuSeen : Nat

/-- Note a held sample, or raise the absence of one for too long. -/
def updateSensorHealth (health : SensorHealth) (nowUs : Nat) (sensors : ProcessedSensors F R)
    (params : Params F) : SensorHealth :=
  if sensors.imu.isSome then
    { state := health.state.setErrorFlag ErrorFlag.IMU_NOT_RESPONDING false params
      lastImuSeen := nowUs }
  else if health.lastImuSeen + IMU_TIMEOUT_US < nowUs then
    { health with state := health.state.setErrorFlag ErrorFlag.IMU_NOT_RESPONDING true params }
  else health

/-- Every inertial bias is zero, as before any calibration. -/
def imuBiasParamsAreAllZero [FlightFloat F] (params : Params F) : Bool :=
  [ParamId.PARAM_ACC_X_BIAS, .PARAM_ACC_Y_BIAS, .PARAM_ACC_Z_BIAS, .PARAM_GYRO_X_BIAS,
    .PARAM_GYRO_Y_BIAS, .PARAM_GYRO_Z_BIAS].all fun id =>
      match params.getById id with
      | .float value => FlightFloat.eq value FlightFloat.zero
      | _ => false

/-- Latch the absence of a calibration at start-up. -/
def initializeImuCalibrationError [FlightFloat F] (state : StateManager) (params : Params F) :
    StateManager :=
  state.setErrorFlag ErrorFlag.UNCALIBRATED_IMU (imuBiasParamsAreAllZero params) params

end Veloxity
