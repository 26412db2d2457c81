import Veloxity.Sensors.Calibration

/-! Turning raw packets into the samples the firmware works with. -/

namespace Veloxity

/-- Rotation between two frames. -/
abbrev Rotation (R : Type) := Fin 3 → Fin 3 → R

/-- Raw report of one sensor. -/
abbrev RawPacket (P : Type) := Option (Except SensorError P)

/-- The packet of a report that is not a complaint. -/
def takeOkPacket {P : Type} : RawPacket P → Option P
  | some (.ok packet) => some packet
  | _ => none

variable {F R : Type}

section

variable [FlightFloat R]

/-- Radians in a degree. -/
def degToRad : R := FlightFloat.lit 0.017453293

/-- Rotation by roll, pitch and yaw, in its passive form. -/
def rosflightOrientationMatrix (roll pitch yaw : R) : Rotation R :=
  let two : R := FlightFloat.lit 2
  let cosHalf (angle : R) := FlightFloat.cos (angle * FlightFloat.lit 0.5)
  let sinHalf (angle : R) := FlightFloat.sin (angle * FlightFloat.lit 0.5)
  let w := cosHalf yaw * cosHalf pitch * cosHalf roll + sinHalf yaw * sinHalf pitch * sinHalf roll
  let x := cosHalf yaw * cosHalf pitch * sinHalf roll - sinHalf yaw * sinHalf pitch * cosHalf roll
  let y := cosHalf yaw * sinHalf pitch * cosHalf roll + sinHalf yaw * cosHalf pitch * sinHalf roll
  let z := sinHalf yaw * cosHalf pitch * cosHalf roll - cosHalf yaw * sinHalf pitch * sinHalf roll
  let norm := FlightFloat.sqrt (w * w + x * x + y * y + z * z)
  let w := w / norm
  let x := x / norm
  let y := y / norm
  let z := z / norm
  fun row col =>
    match row, col with
    | 0, 0 => FlightFloat.one - two * y * y - two * z * z
    | 0, 1 => two * (x * y + w * z)
    | 0, 2 => two * (x * z - w * y)
    | 1, 0 => two * (x * y - w * z)
    | 1, 1 => FlightFloat.one - two * x * x - two * z * z
    | 1, 2 => two * (y * z + w * x)
    | 2, 0 => two * (x * z + w * y)
    | 2, 1 => two * (y * z - w * x)
    | 2, 2 => FlightFloat.one - two * x * x - two * y * y

/-- Apply a rotation to a vector. -/
def rotateVectorReal (rotation : Rotation R) (vector : Fin 3 → R) : Fin 3 → R := fun row =>
  rotation row 0 * vector 0 + rotation row 1 * vector 1 + rotation row 2 * vector 2

end

/-- Mounting rotation of the inertial sensor, with the angles it was computed for. -/
structure ImuMountRotation (F R : Type) where
  anglesDeg : Fin 3 → F
  rotation : Rotation R

/-- The inertial sensor's calibration and mounting. -/
structure ImuProcessor (F R : Type) where
  calibrationState : ImuCalibrationState R
  mountRotation : ImuMountRotation F R

/-- The battery filter's memory. -/
structure BatteryProcessor (F : Type) where
  previousVoltage : F
  previousCurrent : F
  latestPacket : Option (BatteryPacket F)
  initialized : Bool

/-- The processors that remember something between packets. -/
structure SensorProcessorSet (F R : Type) where
  imu : ImuProcessor F R
  baro : PressureCalibrationState F
  pitot : PressureCalibrationState F
  battery : BatteryProcessor F

/-- Mounting angle parameter of an axis. -/
def imuAngleParam : Fin 3 → ParamId
  | 0 => .PARAM_IMU_ROLL
  | 1 => .PARAM_IMU_PITCH
  | 2 => .PARAM_IMU_YAW

/-- Hard-iron bias parameter of a magnetometer axis. -/
def magBiasParam : Fin 3 → ParamId
  | 0 => .PARAM_MAG_X_BIAS
  | 1 => .PARAM_MAG_Y_BIAS
  | 2 => .PARAM_MAG_Z_BIAS

/-- Soft-iron compensation parameter of a matrix cell. -/
def magCompParam : Fin 3 → Fin 3 → ParamId
  | 0, 0 => .PARAM_MAG_A00_COMP
  | 0, 1 => .PARAM_MAG_A01_COMP
  | 0, 2 => .PARAM_MAG_A02_COMP
  | 1, 0 => .PARAM_MAG_A10_COMP
  | 1, 1 => .PARAM_MAG_A11_COMP
  | 1, 2 => .PARAM_MAG_A12_COMP
  | 2, 0 => .PARAM_MAG_A20_COMP
  | 2, 1 => .PARAM_MAG_A21_COMP
  | 2, 2 => .PARAM_MAG_A22_COMP

variable [FlightFloat F]

namespace ImuMountRotation

variable [FlightFloat R] [FloatCast F R]

/-- Rotation for mounting angles in degrees. -/
def imuMountRotationMatrix (anglesDeg : Fin 3 → F) : Rotation R :=
  rosflightOrientationMatrix (FloatCast.fromF32 (anglesDeg 0) * degToRad)
    (FloatCast.fromF32 (anglesDeg 1) * degToRad) (FloatCast.fromF32 (anglesDeg 2) * degToRad)

/-- An unrotated mounting. -/
def default : ImuMountRotation F R :=
  { anglesDeg := fun _ => FlightFloat.zero,
    rotation := imuMountRotationMatrix (F := F) fun _ => FlightFloat.zero }

/-- Follow the mounting angles of the parameters, computing the rotation only when they change. -/
def updateFromParams (mount : ImuMountRotation F R) (params : Params F) : ImuMountRotation F R :=
  let anglesDeg axis := paramFloat params (imuAngleParam axis)
  let unchanged axis := FlightFloat.eq (anglesDeg axis) (mount.anglesDeg axis)
  if unchanged 0 && unchanged 1 && unchanged 2 then mount
  else { anglesDeg, rotation := imuMountRotationMatrix anglesDeg }

end ImuMountRotation

namespace ImuProcessor

variable [FlightFloat R] [FloatCast F R]

/-- An uncalibrated, unrotated sensor. -/
def new : ImuProcessor F R := { calibrationState := .new, mountRotation := .default }

/-- Rotate a packet, add it to the open calibration windows and subtract the biases. -/
def processPacket (processor : ImuProcessor F R) (packet : ImuPacket F R)
    (flags : CalibrationFlags) (params : Params F) :
    Calibrating (ImuProcessor F R) F × ImuPacket F R :=
  let mount := processor.mountRotation.updateFromParams params
  let accel := rotateVectorReal mount.rotation packet.accel
  let gyro := rotateVectorReal mount.rotation packet.gyro
  let started : Calibrating (ImuCalibrationState R) F :=
    { state := processor.calibrationState, flags, params }
  let gyroed := if .gyro ∈ flags then calibrateGyro started gyro else started
  let done :=
    if .accel ∈ gyroed.flags then calibrateAccel gyroed accel packet.temperature else gyroed
  let float (id : ParamId) : R := FloatCast.fromF32 (paramFloat done.params id)
  ({ state := { calibrationState := done.state, mountRotation := mount }
     flags := done.flags, params := done.params },
    { packet with
      gyro := fun axis => gyro axis - float (gyroBiasParam axis)
      accel := fun axis => accel axis -
        (float (accelTempCompParam axis) * FloatCast.fromF32 packet.temperature +
          float (accelBiasParam axis)) })

/-- Process an inertial report, which yields no sample when it is a complaint. -/
def process (processor : ImuProcessor F R) (raw : RawPacket (ImuPacket F R))
    (flags : CalibrationFlags) (params : Params F) :
    Calibrating (ImuProcessor F R) F × Option (ImuPacket F R) :=
  match takeOkPacket raw with
  | none => ({ state := processor, flags, params }, none)
  | some packet =>
    let processed := processor.processPacket packet flags params
    (processed.1, some processed.2)

end ImuProcessor

/-- Process a magnetometer report by rotation and iron compensation. -/
def magProcess (raw : RawPacket (MagPacket F)) (params : Params F) : Option (MagPacket F) :=
  (takeOkPacket raw).map fun packet =>
    let angle (id : ParamId) : F := paramFloat params id * degToRad
    let rotation := rosflightOrientationMatrix (angle .PARAM_MAG_ROLL) (angle .PARAM_MAG_PITCH)
      (angle .PARAM_MAG_YAW)
    let rotated := rotateVectorReal rotation packet.flux
    let hard axis := rotated axis - paramFloat params (magBiasParam axis)
    { packet with
      flux := rotateVectorReal (fun row col => paramFloat params (magCompParam row col)) hard }

/-- Open and fill a pressure sensor's calibration window. -/
def pressureWindow (maxVariance : F) (request failed : CalibrationFlag)
    (store : Params F → F → Params F) (state : PressureCalibrationState F) (sample : F)
    (flags : CalibrationFlags) (params : Params F) (nowMs : Nat) :
    Calibrating (PressureCalibrationState F) F :=
  let started := beginRequest request { state, flags, params }
  if started.state.calibrated then started
  else calibratePressure maxVariance request failed store started sample nowMs

/-- Process a barometer report, calibrating the ground pressure until that has succeeded. -/
def baroProcess (state : PressureCalibrationState F) (raw : RawPacket (BaroPacket F))
    (flags : CalibrationFlags) (params : Params F) (nowMs : Nat) :
    Calibrating (PressureCalibrationState F) F × Option (BaroPacket F) :=
  match takeOkPacket raw with
  | none => ({ state, flags, params }, none)
  | some packet =>
    let store (params : Params F) (mean : F) : Params F :=
      (params.setById .PARAM_BARO_BIAS (.float mean)).setById .PARAM_GROUND_LEVEL
        (.float (pressureToAltitude mean))
    (pressureWindow (FlightFloat.lit 25) .baro .baroFailed store state packet.pressure flags params
      nowMs, some { packet with altitude := pressureToAltitude packet.pressure })

/-- Process an airspeed report, calibrating its bias until that has succeeded. -/
def pitotProcess (state : PressureCalibrationState F) (raw : RawPacket (PitotPacket F))
    (flags : CalibrationFlags) (params : Params F) (nowMs : Nat) :
    Calibrating (PressureCalibrationState F) F × Option (PitotPacket F) :=
  match takeOkPacket raw with
  | none => ({ state, flags, params }, none)
  | some packet =>
    let store (params : Params F) (mean : F) : Params F :=
      params.setById .PARAM_DIFF_PRESS_BIAS (.float mean)
    let done := pressureWindow (FlightFloat.lit 100) .pitot .pitotFailed store state
      packet.differentialPressure flags params nowMs
    let dp := packet.differentialPressure - paramFloat done.params .PARAM_DIFF_PRESS_BIAS
    (done, some { packet with
      differentialPressure := dp, indicatedAirspeed := indicatedAirspeed dp })

namespace BatteryProcessor

/-- A filter that has seen no packet. -/
def new : BatteryProcessor F :=
  { previousVoltage := FlightFloat.zero, previousCurrent := FlightFloat.zero,
    latestPacket := none, initialized := false }

/-- Filter a battery report, repeating the last sample when it is a complaint. -/
def process (processor : BatteryProcessor F) (raw : RawPacket (BatteryPacket F))
    (params : Params F) : BatteryProcessor F × Option (BatteryPacket F) :=
  match takeOkPacket raw with
  | none => (processor, processor.latestPacket)
  | some packet =>
    let processor :=
      if processor.initialized then processor
      else
        { processor with
          previousVoltage := paramFloat params .PARAM_VOLT_MAX
          previousCurrent := FlightFloat.zero, initialized := true }
    let smooth (alpha : ParamId) (value previous : F) : F :=
      value * (FlightFloat.one - paramFloat params alpha) + previous * paramFloat params alpha
    let smoothed : BatteryPacket F :=
      { packet with
        voltage := smooth .PARAM_BATTERY_VOLTAGE_ALPHA packet.voltage processor.previousVoltage
        current := smooth .PARAM_BATTERY_CURRENT_ALPHA packet.current processor.previousCurrent }
    ({ processor with
        previousVoltage := smoothed.voltage, previousCurrent := smoothed.current,
        latestPacket := some smoothed }, some smoothed)

end BatteryProcessor

/-- Processors before the first packet. -/
def SensorProcessorSet.new [FlightFloat R] [FloatCast F R] : SensorProcessorSet F R :=
  { imu := .new, baro := .new, pitot := .new, battery := .new }

end Veloxity
