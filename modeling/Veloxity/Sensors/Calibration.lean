import Mathlib.Data.Finset.Erase
import Mathlib.Data.Finset.Insert
import Veloxity.Core.Machine
import Veloxity.Core.Params
import Veloxity.Sensors.Bus

/-! Sensor calibration windows, requested and answered through flags. -/

namespace Veloxity

/-- What has been requested or has failed. -/
inductive CalibrationFlag where
  | gyro | accel | baro | pitot | gyroFailed | accelFailed | baroFailed | pitotFailed
  deriving DecidableEq, Repr

/-- Requests in progress and failures not yet acknowledged. -/
abbrev CalibrationFlags := Finset CalibrationFlag

/-- A calibration's own memory with the flags and parameters it changes. -/
structure Calibrating (S F : Type) where
  state : S
  flags : CalibrationFlags
  params : Params F

/-- Bias parameter of a gyro axis. -/
def gyroBiasParam : Fin 3 → ParamId
  | 0 => .PARAM_GYRO_X_BIAS
  | 1 => .PARAM_GYRO_Y_BIAS
  | 2 => .PARAM_GYRO_Z_BIAS

/-- Bias parameter of an accelerometer axis. -/
def accelBiasParam : Fin 3 → ParamId
  | 0 => .PARAM_ACC_X_BIAS
  | 1 => .PARAM_ACC_Y_BIAS
  | 2 => .PARAM_ACC_Z_BIAS

/-- Temperature compensation parameter of an accelerometer axis. -/
def accelTempCompParam : Fin 3 → ParamId
  | 0 => .PARAM_ACC_X_TEMP_COMP
  | 1 => .PARAM_ACC_Y_TEMP_COMP
  | 2 => .PARAM_ACC_Z_TEMP_COMP

variable {F R : Type}

/-- Euclidean length of a vector. -/
def vectorNorm [FlightFloat R] (vector : Fin 3 → R) : R :=
  FlightFloat.sqrt (vector 0 * vector 0 + vector 1 * vector 1 + vector 2 * vector 2)

/-- Floating-point value of a parameter, or zero when it holds another type. -/
def paramFloat [FlightFloat F] (params : Params F) (id : ParamId) : F :=
  params.floatOr id FlightFloat.zero

/-- Store one value for each axis. -/
def setAxes [FloatCast F R] (params : Params F) (axisParam : Fin 3 → ParamId) (values : Fin 3 → R) :
    Params F :=
  ((params.setById (axisParam 0) (.float (FloatCast.toF32Lossy (values 0)))).setById (axisParam 1)
    (.float (FloatCast.toF32Lossy (values 1)))).setById (axisParam 2)
    (.float (FloatCast.toF32Lossy (values 2)))

/-- Sums and extremes of the samples of an inertial calibration. -/
structure ImuCalibrationState (R : Type) where
  gyroSum : Fin 3 → R
  gyroCalibrationCount : Nat
  accelSum : Fin 3 → R
  accelTempSum : R
  accelCalibrationCount : Nat
  maxAccel : Fin 3 → R
  minAccel : Fin 3 → R

section

variable [FlightFloat R]

/-- No sample yet. -/
def ImuCalibrationState.new : ImuCalibrationState R where
  gyroSum _ := FlightFloat.zero
  gyroCalibrationCount := 0
  accelSum _ := FlightFloat.zero
  accelTempSum := FlightFloat.zero
  accelCalibrationCount := 0
  maxAccel _ := FlightFloat.lit (-1000)
  minAccel _ := FlightFloat.lit 1000

variable [FloatCast F R]

/-- Judge the mean of a full gyro window. -/
def judgeGyro (calibrating : Calibrating (ImuCalibrationState R) F) (bias : Fin 3 → R) :
    Calibrating (ImuCalibrationState R) F :=
  if FlightFloat.lt (vectorNorm bias) (FlightFloat.lit 1) then
    { calibrating with params := setAxes calibrating.params gyroBiasParam bias }
  else { calibrating with flags := insert .gyroFailed calibrating.flags }

/-- Add one sample to the gyro window, and close the window after a thousand. -/
def calibrateGyro (calibrating : Calibrating (ImuCalibrationState R) F) (gyro : Fin 3 → R) :
    Calibrating (ImuCalibrationState R) F :=
  let state := calibrating.state
  let gyroSum axis := state.gyroSum axis + gyro axis
  let count := state.gyroCalibrationCount + 1
  if 1000 < count then
    let judged := judgeGyro calibrating fun axis => gyroSum axis / FlightFloat.lit count
    { judged with
      state := { state with gyroSum := fun _ => FlightFloat.zero, gyroCalibrationCount := 0 }
      flags := judged.flags.erase .gyro }
  else { calibrating with state := { state with gyroSum, gyroCalibrationCount := count } }

/-- Spread of the accelerations of a window. -/
def accelSpread (state : ImuCalibrationState R) : R :=
  vectorNorm fun axis => state.maxAccel axis - state.minAccel axis

/-- Judge a full accelerometer window by its spread and its bias. -/
def judgeAccel [FlightFloat F] (calibrating : Calibrating (ImuCalibrationState R) F) :
    Calibrating (ImuCalibrationState R) F :=
  let state := calibrating.state
  let failed := { calibrating with flags := insert .accelFailed calibrating.flags }
  if FlightFloat.lt (accelSpread state) (FlightFloat.lit 1) then
    let bias axis :=
      (state.accelSum axis -
          FloatCast.fromF32 (paramFloat calibrating.params (accelTempCompParam axis)) *
            state.accelTempSum) /
        FlightFloat.lit state.accelCalibrationCount
    if FlightFloat.lt (vectorNorm bias) (FlightFloat.lit 3) then
      { calibrating with params := setAxes calibrating.params accelBiasParam bias }
    else failed
  else failed

/-- Add one sample to the accelerometer window. -/
def addAccelSample (state : ImuCalibrationState R) (accel : Fin 3 → R) (temperature : F) :
    ImuCalibrationState R :=
  let gravity : R := FlightFloat.lit 9.80665
  { state with
    accelSum := fun axis =>
      state.accelSum axis + if axis = 2 then accel axis + gravity else accel axis
    accelTempSum := state.accelTempSum + FloatCast.fromF32 temperature
    accelCalibrationCount := state.accelCalibrationCount + 1
    maxAccel := fun axis => FlightFloat.max (state.maxAccel axis) (accel axis)
    minAccel := fun axis => FlightFloat.min (state.minAccel axis) (accel axis) }

/-- Add one sample to the accelerometer window, and close the window after a thousand. -/
def calibrateAccel [FlightFloat F] (calibrating : Calibrating (ImuCalibrationState R) F)
    (accel : Fin 3 → R) (temperature : F) : Calibrating (ImuCalibrationState R) F :=
  let summed := { calibrating with state := addAccelSample calibrating.state accel temperature }
  if 1000 < summed.state.accelCalibrationCount then
    let judged := judgeAccel summed
    { judged with
      -- The gyro's own window is left alone.
      state :=
        { ImuCalibrationState.new with
          gyroSum := summed.state.gyroSum
          gyroCalibrationCount := summed.state.gyroCalibrationCount }
      flags := judged.flags.erase .accel }
  else summed

end

/-- Settling passes before a pressure window. -/
def SENSOR_CAL_DELAY_CYCLES : Nat := 128

/-- Passes of a pressure window. -/
def SENSOR_CAL_CYCLES : Nat := 127

/-- Running mean and variance of a pressure window. -/
structure PressureCalibrationState (F : Type) where
  mean : F
  m2 : F
  count : Nat
  lastIterMs : Nat
  calibrated : Bool
  requestActive : Bool

section

variable [FlightFloat F]

/-- No sample yet. -/
def PressureCalibrationState.new : PressureCalibrationState F :=
  { mean := FlightFloat.zero, m2 := FlightFloat.zero, count := 0, lastIterMs := 0,
    calibrated := false, requestActive := false }

/-- Start the window again when a new request is seen. -/
def beginRequest (request : CalibrationFlag)
    (calibrating : Calibrating (PressureCalibrationState F) F) :
    Calibrating (PressureCalibrationState F) F :=
  if request ∈ calibrating.flags ∧ calibrating.state.requestActive = false then
    { calibrating with state := { PressureCalibrationState.new with requestActive := true } }
  else calibrating

/-- Judge the variance of a full pressure window. -/
def judgePressure (maxVariance : F) (request failed : CalibrationFlag)
    (store : Params F → F → Params F) (calibrating : Calibrating (PressureCalibrationState F) F) :
    Calibrating (PressureCalibrationState F) F :=
  let state := calibrating.state
  if FlightFloat.lt state.m2 maxVariance then
    { state := { state with calibrated := true, requestActive := false }
      flags := calibrating.flags.erase request
      params := store calibrating.params state.mean }
  else
    -- A failed window keeps its request, so the next one starts at once.
    { calibrating with flags := insert failed calibrating.flags }

/-- Add one sample to a pressure window, at most once every twenty milliseconds. -/
def calibratePressure (maxVariance : F) (request failed : CalibrationFlag)
    (store : Params F → F → Params F) (calibrating : Calibrating (PressureCalibrationState F) F)
    (sample : F) (nowMs : Nat) : Calibrating (PressureCalibrationState F) F :=
  let state := calibrating.state
  if nowMs ≤ wrappingAddU32 state.lastIterMs 20 then calibrating
  else
    let count := state.count + 1
    if SENSOR_CAL_DELAY_CYCLES + SENSOR_CAL_CYCLES < count then
      let judged := judgePressure maxVariance request failed store calibrating
      { judged with
        state :=
          { judged.state with
            mean := FlightFloat.zero, m2 := FlightFloat.zero, count := 0, lastIterMs := nowMs } }
    else if SENSOR_CAL_DELAY_CYCLES < count then
      let delta := sample - state.mean
      let mean := state.mean + delta / FlightFloat.lit ((count - SENSOR_CAL_DELAY_CYCLES : Nat) : ℚ)
      let m2 := state.m2 +
        delta * (sample - mean) / FlightFloat.lit ((SENSOR_CAL_CYCLES - 1 : Nat) : ℚ)
      { calibrating with state := { state with mean, m2, count, lastIterMs := nowMs } }
    else { calibrating with state := { state with count, lastIterMs := nowMs } }

/-- Altitude at which the standard atmosphere has a pressure. -/
def pressureToAltitude (pressure : F) : F :=
  FlightFloat.lit 44330 *
    (FlightFloat.lit 1 -
      FlightFloat.powf (pressure / FlightFloat.lit 101325) (FlightFloat.lit 0.190295))

/-- Airspeed that raises a differential pressure, with its sign. -/
def indicatedAirspeed (dp : F) : F :=
  FlightFloat.sqrt (FlightFloat.lit 2 * FlightFloat.abs dp / FlightFloat.lit 1.225) *
    FlightFloat.signum dp

end

end Veloxity
