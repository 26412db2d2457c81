import Mathlib.Data.Fin.VecNotation
import Veloxity.Control.QuadController
import Veloxity.Core.Machine
import Veloxity.Library.Written
import Veloxity.Sensors.Calibration

/-! The attitude estimator: a gyro integration corrected by gravity and by outside measurements. -/

namespace Veloxity

/-- A computation that keeps everything it divides by. -/
abbrev Dividing (R A : Type) := Writer (List R) A

section Divisions

variable {R : Type} [FlightFloat R]

/-- A quotient, keeping the divisor. -/
def divide (dividend divisor : R) : Dividing R R := do
  tell [divisor]
  pure (dividend / divisor)

/-- A vector with every component divided. -/
def divideVector (vector : Fin 3 → R) (divisor : R) : Dividing R (Fin 3 → R) := do
  let x ← divide (vector 0) divisor
  let y ← divide (vector 1) divisor
  let z ← divide (vector 2) divisor
  pure ![x, y, z]

/-- Sum of the squares of a vector's components. -/
def vectorSquared (vector : Fin 3 → R) : R :=
  vector 0 * vector 0 + vector 1 * vector 1 + vector 2 * vector 2

/-- Vector product. -/
def crossVector (left right : Fin 3 → R) : Fin 3 → R :=
  ![left 1 * right 2 - left 2 * right 1, left 2 * right 0 - left 0 * right 2,
    left 0 * right 1 - left 1 * right 0]

namespace FlightQuaternion

/-- A quaternion with every component divided. -/
def divideBy (q : FlightQuaternion R) (divisor : R) : Dividing R (FlightQuaternion R) := do
  let w ← divide q.w divisor
  let i ← divide q.i divisor
  let j ← divide q.j divisor
  let k ← divide q.k divisor
  pure { w, i, j, k }

/-- Sum of the squares of a quaternion's components. -/
def normSquared (q : FlightQuaternion R) : R := q.w * q.w + q.i * q.i + q.j * q.j + q.k * q.k

/-- Length of a quaternion. -/
def norm (q : FlightQuaternion R) : R := FlightFloat.sqrt q.normSquared

/-- A quaternion divided by its length, whatever the length is. -/
def normalizeMut (q : FlightQuaternion R) : Dividing R (FlightQuaternion R) :=
  q.divideBy q.norm

/-- A quaternion divided by its length if it has any. -/
def normalizeLong (q : FlightQuaternion R) : Dividing R (FlightQuaternion R) :=
  if FlightFloat.lt (FlightFloat.lit 0) q.norm then q.divideBy q.norm else pure q

/-- No rotation. -/
def unrotated : FlightQuaternion R :=
  ⟨FlightFloat.lit 1, FlightFloat.lit 0, FlightFloat.lit 0, FlightFloat.lit 0⟩

/-- The quaternion all of whose components are zero. -/
def zero : FlightQuaternion R :=
  ⟨FlightFloat.lit 0, FlightFloat.lit 0, FlightFloat.lit 0, FlightFloat.lit 0⟩

end FlightQuaternion

end Divisions

/-- Downward pull on a resting vehicle. -/
def gravity {R : Type} [FlightFloat R] : R := FlightFloat.lit 9.80665

/-- The estimator's settings, its estimate, its filters and the times of its last corrections, for
parameters whose floating-point values have the first format. -/
structure QuadEstimator (F R : Type) where
  kP : R
  kI : R
  kPExt : R
  qHat : FlightQuaternion R
  qDot : FlightQuaternion R
  bodyRate : Fin 3 → R
  bHat : Fin 3 → R
  isInitialized : Bool
  lastAccUpdateUs : Nat
  lastExtattUpdateUs : Nat
  accelLpf : Fin 3 → R
  gyroLpf : Fin 3 → R
  w1 : Fin 3 → R
  w2 : Fin 3 → R
  qExtatt : Option (FlightQuaternion R)
  alphaAcc : R
  alphaGyroXy : R
  alphaGyroZ : R
  accelMargin : R
  initTimeUs : Nat
  firstImuTime : Nat
  useAcc : Bool
  useQuadInt : Bool
  useMatExp : Bool
  fixedWing : Bool

section Corrections

variable {R : Type} [FlightFloat R]

/-- Rows of the rotation matrix of a quaternion. -/
def quaternionToDcmRows (q : FlightQuaternion R) : (Fin 3 → R) × (Fin 3 → R) × (Fin 3 → R) :=
  let one : R := FlightFloat.lit 1
  let two : R := FlightFloat.lit 2
  let w := q.w
  let x := q.i
  let y := q.j
  let z := q.k
  (![one - two * (y * y + z * z), two * (x * y - z * w), two * (x * z + y * w)],
    ![two * (x * y + z * w), one - two * (x * x + z * z), two * (y * z - x * w)],
    ![two * (x * z - y * w), two * (y * z + x * w), one - two * (x * x + y * y)])

/-- Rotation error against an attitude measured outside the vehicle. -/
def extattCorrection (attitude external : FlightQuaternion R) : Fin 3 → R :=
  let hat := quaternionToDcmRows attitude
  let ext := quaternionToDcmRows external
  fun axis =>
    crossVector ext.1 hat.1 axis + crossVector ext.2.1 hat.2.1 axis +
      crossVector ext.2.2 hat.2.2 axis

/-- Rotation from straight up to a direction of the acceleration, not of unit length yet. -/
def accelRotation (a : Fin 3 → R) : FlightQuaternion R :=
  let one : R := FlightFloat.lit 1
  -- Opposite directions leave no axis to turn about.
  if FlightFloat.lt (-(a 2)) (FlightFloat.lit (-0.999999)) then
    ⟨FlightFloat.lit 0, one, FlightFloat.lit 0, FlightFloat.lit 0⟩
  else ⟨one - a 2, a 1, -(a 0), FlightFloat.lit 0⟩

/-- Rotation error against the direction of gravity, none without an acceleration. -/
def accelCorrection (attitude : FlightQuaternion R) (accelLpf : Fin 3 → R) :
    Dividing R (Fin 3 → R) :=
  let accelNorm := vectorNorm accelLpf
  if FlightFloat.le accelNorm (FlightFloat.lit 1e-9) then
    pure fun _ => FlightFloat.lit 0
  else do
    let a ← divideVector accelLpf accelNorm
    let qAcc ← (accelRotation a).normalizeLong
    let tildeW := qAcc.w * attitude.w - qAcc.i * attitude.i - qAcc.j * attitude.j -
      qAcc.k * attitude.k
    let tildeI := qAcc.w * attitude.i + qAcc.i * attitude.w - qAcc.j * attitude.k +
      qAcc.k * attitude.j
    let tildeJ := qAcc.w * attitude.j + qAcc.i * attitude.k + qAcc.j * attitude.w -
      qAcc.k * attitude.i
    pure ![FlightFloat.lit (-2) * tildeW * tildeI, FlightFloat.lit (-2) * tildeW * tildeJ,
      FlightFloat.lit 0]

end Corrections

namespace QuadEstimator

variable {F R : Type} [FlightFloat R]

/-- An estimator that has seen nothing. -/
def new (kP kI : R) : QuadEstimator F R where
  kP
  kI
  kPExt := FlightFloat.lit 1.5
  qHat := .unrotated
  qDot := .zero
  bodyRate _ := FlightFloat.lit 0
  bHat _ := FlightFloat.lit 0
  isInitialized := false
  lastAccUpdateUs := 0
  lastExtattUpdateUs := 0
  accelLpf := ![FlightFloat.lit 0, FlightFloat.lit 0, -gravity]
  gyroLpf _ := FlightFloat.lit 0
  w1 _ := FlightFloat.lit 0
  w2 _ := FlightFloat.lit 0
  qExtatt := none
  alphaAcc := FlightFloat.lit 0.5
  alphaGyroXy := FlightFloat.lit 0.3
  alphaGyroZ := FlightFloat.lit 0.3
  accelMargin := FlightFloat.lit 0.1
  initTimeUs := 3000000
  firstImuTime := 0
  useAcc := true
  useQuadInt := true
  useMatExp := true
  fixedWing := false

/-- The estimator the firmware starts with. -/
def default : QuadEstimator F R := new (FlightFloat.lit 1.5) (FlightFloat.lit 0.05)

section Parameters

variable [FloatCast F R]

omit [FlightFloat R] in
/-- A setting that follows a floating-point parameter. -/
def followFloat (params : Params F) (id : ParamId) (current : R) : R :=
  match params.getById id with
  | .float value => FloatCast.fromF32 value
  | _ => current

omit [FlightFloat R] [FloatCast F R] in
/-- A switch that follows an integer parameter. -/
def followSwitch (params : Params F) (id : ParamId) (current : Bool) : Bool :=
  match params.getById id with
  | .int value => value != 0
  | _ => current

/-- Take the settings from the parameters. -/
def updateParams (estimator : QuadEstimator F R) (params : Params F) : QuadEstimator F R :=
  { estimator with
    kP := followFloat params .PARAM_FILTER_KP_ACC estimator.kP
    kI := followFloat params .PARAM_FILTER_KI estimator.kI
    alphaAcc := followFloat params .PARAM_ACC_ALPHA estimator.alphaAcc
    alphaGyroXy := followFloat params .PARAM_GYRO_XY_ALPHA estimator.alphaGyroXy
    alphaGyroZ := followFloat params .PARAM_GYRO_Z_ALPHA estimator.alphaGyroZ
    accelMargin := followFloat params .PARAM_FILTER_ACCEL_MARGIN estimator.accelMargin
    initTimeUs :=
      match params.getById .PARAM_INIT_TIME with
      -- Milliseconds become microseconds, and a negative time wraps around.
      | .int value => (value * 1000 % (longWordSize : Int)).toNat
      | _ => estimator.initTimeUs
    kPExt := followFloat params .PARAM_FILTER_KP_EXT estimator.kPExt
    useAcc := followSwitch params .PARAM_FILTER_USE_ACC estimator.useAcc
    useQuadInt := followSwitch params .PARAM_FILTER_USE_QUAD_INT estimator.useQuadInt
    useMatExp := followSwitch params .PARAM_FILTER_USE_MAT_EXP estimator.useMatExp
    fixedWing := followSwitch params .PARAM_FIXED_WING estimator.fixedWing }

end Parameters

/-- Forget everything but the settings and the time of the first sample. -/
def resetState (estimator : QuadEstimator F R) : QuadEstimator F R :=
  { estimator with
    qHat := .unrotated, qDot := .zero
    bodyRate := fun _ => FlightFloat.lit 0, bHat := fun _ => FlightFloat.lit 0
    accelLpf := ![FlightFloat.lit 0, FlightFloat.lit 0, -gravity]
    gyroLpf := fun _ => FlightFloat.lit 0, w1 := fun _ => FlightFloat.lit 0
    w2 := fun _ => FlightFloat.lit 0, qExtatt := none, isInitialized := false
    lastAccUpdateUs := 0, lastExtattUpdateUs := 0 }

/-- Forget the adapted biases. -/
def resetAdaptiveBias (estimator : QuadEstimator F R) : QuadEstimator F R :=
  { estimator with bHat := fun _ => FlightFloat.lit 0 }

/-- What the estimator reports. -/
def report (estimator : QuadEstimator F R) (isHealthy : Bool) : AttitudeState R where
  qHat := estimator.qHat
  qDot := estimator.qDot
  bodyRate := estimator.bodyRate
  bHat := estimator.bHat
  isHealthy

/-- The first sample only starts the clocks. -/
def startClocks (estimator : QuadEstimator F R) (currentTime : Nat) : QuadEstimator F R :=
  { estimator with
    firstImuTime := currentTime, lastAccUpdateUs := currentTime
    lastExtattUpdateUs := currentTime, isInitialized := true }

/-- One step of an exponential filter. -/
def lowPass (alpha raw filtered : R) : R := (FlightFloat.lit 1 - alpha) * raw + alpha * filtered

/-- Filter a sample. -/
def filterSample (estimator : QuadEstimator F R) (sample : ImuPacket F R) : QuadEstimator F R :=
  { estimator with
    accelLpf := fun axis =>
      lowPass estimator.alphaAcc (sample.accel axis) (estimator.accelLpf axis)
    gyroLpf :=
      ![lowPass estimator.alphaGyroXy (sample.gyro 0) (estimator.gyroLpf 0),
        lowPass estimator.alphaGyroXy (sample.gyro 1) (estimator.gyroLpf 1),
        lowPass estimator.alphaGyroZ (sample.gyro 2) (estimator.gyroLpf 2)] }

/-- The filtered acceleration is close enough to that of a resting vehicle. -/
def canUseAccel (estimator : QuadEstimator F R) : Bool :=
  let one : R := FlightFloat.lit 1
  let margin := estimator.accelMargin
  let squared := vectorSquared estimator.accelLpf
  let lowerbound := (one - margin) * (one - margin) * gravity * gravity
  let upperbound := (one + margin) * (one + margin) * gravity * gravity
  estimator.useAcc && FlightFloat.lt lowerbound squared && FlightFloat.lt squared upperbound

/-- A rotation error with the gain it is fed back by. -/
structure Correction (R : Type) where
  wErr : Fin 3 → R
  kp : R

/-- Correct by gravity where the acceleration can be used. -/
def correctByAccel (estimator : QuadEstimator F R) (currentTime : Nat) :
    Dividing R (QuadEstimator F R × Correction R) :=
  if estimator.canUseAccel then do
    let wErr ← accelCorrection estimator.qHat estimator.accelLpf
    pure ({ estimator with lastAccUpdateUs := currentTime }, { wErr, kp := estimator.kP })
  else pure (estimator, { wErr := fun _ => FlightFloat.lit 0, kp := FlightFloat.lit 0 })

/-- A time over the last time step, or zero if that took none. -/
def timeRatio (time dt : R) : Dividing R R :=
  if FlightFloat.lt (FlightFloat.lit 0) dt then divide time dt else pure (FlightFloat.lit 0)

/-- Correct by the outside attitude that is waiting instead, if one is. -/
def correctByExtatt (estimator : QuadEstimator F R) (correction : Correction R)
    (currentTime : Nat) (dt : R) : Dividing R (QuadEstimator F R × Correction R) :=
  match estimator.qExtatt with
  | none => pure (estimator, correction)
  | some external => do
    let wErr := extattCorrection estimator.qHat external
    let extattDt := FlightFloat.lit ((currentTime - estimator.lastExtattUpdateUs : Nat) : ℚ) *
      FlightFloat.lit 1e-6
    let scaleDt ← timeRatio extattDt dt
    pure ({ estimator with qExtatt := none, lastExtattUpdateUs := currentTime },
      { wErr := fun axis => wErr axis * scaleDt, kp := estimator.kPExt })

/-- Angular rate of the last samples, smoothed by a parabola through them where asked to. -/
def smoothedGyroMeasurement (estimator : QuadEstimator F R) :
    Dividing R (QuadEstimator F R × (Fin 3 → R)) :=
  if estimator.useQuadInt then do
    let oldest ← divideVector estimator.w2 (FlightFloat.lit (-12))
    let wbar (axis : Fin 3) : R :=
      oldest axis + estimator.w1 axis * FlightFloat.lit (8 / 12) +
        estimator.gyroLpf axis * FlightFloat.lit (5 / 12)
    pure ({ estimator with w2 := estimator.w1, w1 := estimator.gyroLpf }, wbar)
  else pure (estimator, estimator.gyroLpf)

/-- A quaternion turned by a rate, as far as one factor for itself and one for its rate say. -/
def turned (current : FlightQuaternion R) (omega : Fin 3 → R) (t1 t2 : R) : FlightQuaternion R :=
  let p := omega 0
  let q := omega 1
  let r := omega 2
  { w := t1 * current.w + t2 * (-p * current.i - q * current.j - r * current.k)
    i := t1 * current.i + t2 * (p * current.w + r * current.j - q * current.k)
    j := t1 * current.j + t2 * (q * current.w - r * current.i + p * current.k)
    k := t1 * current.k + t2 * (r * current.w + q * current.i - p * current.j) }

/-- Derivative of an attitude at a rate. -/
def derivative (current : FlightQuaternion R) (omega : Fin 3 → R) : FlightQuaternion R :=
  let half : R := FlightFloat.lit 0.5
  let p := omega 0
  let q := omega 1
  let r := omega 2
  { w := half * (-p * current.i - q * current.j - r * current.k)
    i := half * (p * current.w + r * current.j - q * current.k)
    j := half * (q * current.w - r * current.i + p * current.k)
    k := half * (r * current.w + q * current.i - p * current.j) }

/-- The attitude after one straight step along a derivative. -/
def stepped (current rate : FlightQuaternion R) (dt : R) : FlightQuaternion R where
  w := current.w + rate.w * dt
  i := current.i + rate.i * dt
  j := current.j + rate.j * dt
  k := current.k + rate.k * dt

/-- The attitude after some time at a rate, along an arc or along its tangent. -/
def moveAttitude (current qDot : FlightQuaternion R) (omega : Fin 3 → R) (dt : R)
    (useMatExp : Bool) : Dividing R (FlightQuaternion R) :=
  if useMatExp then do
    let normW := vectorNorm omega
    let halfAngle ← divide (normW * dt) (FlightFloat.lit 2)
    let t2 ← divide (FlightFloat.sin halfAngle) normW
    pure (turned current omega (FlightFloat.cos halfAngle) t2)
  else pure (stepped current qDot dt)

/-- Turn the estimate at a rate, unless that is zero. -/
def integrateAngularRate (estimator : QuadEstimator F R) (omega : Fin 3 → R) (dt : R) :
    Dividing R (QuadEstimator F R) :=
  if FlightFloat.eq (vectorSquared omega) (FlightFloat.lit 0) then
    pure { estimator with qDot := .zero }
  else do
    let qDot := derivative estimator.qHat omega
    let moved ← moveAttitude estimator.qHat qDot omega dt estimator.useMatExp
    let qHat ← moved.normalizeMut
    pure { estimator with qDot, qHat }

/-- Feed a correction back into the biases. -/
def adaptBias (estimator : QuadEstimator F R) (correction : Correction R) (ki dt : R) :
    QuadEstimator F R :=
  { estimator with
    bHat := fun axis => estimator.bHat axis - correction.wErr axis * (ki * dt) }

/-- Feed a correction back into the biases and the rates, and turn the estimate. -/
def applyCorrection (estimator : QuadEstimator F R) (correction : Correction R) (ki dt : R) :
    Dividing R (QuadEstimator F R) := do
  let smoothed ← (estimator.adaptBias correction ki dt).smoothedGyroMeasurement
  let wfinal (axis : Fin 3) : R :=
    smoothed.2 axis - smoothed.1.bHat axis + correction.wErr axis * correction.kp
  let turned ← smoothed.1.integrateAngularRate wfinal dt
  pure { turned with bodyRate := fun axis => turned.gyroLpf axis - turned.bHat axis }

/-- Take in one sample once the clocks run. -/
def updateFromSample (estimator : QuadEstimator F R) (sample : ImuPacket F R) (dt : R) :
    Dividing R (QuadEstimator F R) := do
  let currentTime := sample.header.timestamp
  let byAccel ← (estimator.filterSample sample).correctByAccel currentTime
  let byExtatt ← byAccel.1.correctByExtatt byAccel.2 currentTime dt
  let correction := byExtatt.2
  -- The gains are ten times as high until the time of initialization has passed.
  if currentTime < estimator.initTimeUs then
    byExtatt.1.applyCorrection { correction with kp := estimator.kP * FlightFloat.lit 10 }
      (estimator.kI * FlightFloat.lit 10) dt
  else byExtatt.1.applyCorrection correction estimator.kI dt

/-- The vehicle has gone for half a second without the help of gravity. -/
def unhealthyDueToAccel (estimator : QuadEstimator F R) (currentTime : Nat) : Bool :=
  estimator.useAcc && wrappingAddU64 estimator.lastAccUpdateUs 500000 < currentTime &&
    !estimator.fixedWing

/-- Every component of the estimate is finite. -/
def hasFiniteAttitude (estimator : QuadEstimator F R) : Bool :=
  FlightFloat.isFinite estimator.qHat.w && FlightFloat.isFinite estimator.qHat.i &&
    FlightFloat.isFinite estimator.qHat.j && FlightFloat.isFinite estimator.qHat.k

/-- One estimation from a sample, if there is one. -/
def estimatePackets (estimator : QuadEstimator F R) (imu : Option (ImuPacket F R)) (dt : R) :
    Dividing R (QuadEstimator F R × AttitudeState R) :=
  if FlightFloat.lt dt (FlightFloat.lit 0) then
    pure (estimator, estimator.report false)
  else
    match imu with
    | none => pure (estimator, estimator.report estimator.hasFiniteAttitude)
    | some sample =>
      let currentTime := sample.header.timestamp
      if !estimator.isInitialized then
        let started := estimator.startClocks currentTime
        pure (started, started.report true)
      else do
        let updated ← estimator.updateFromSample sample dt
        let isHealthy := !updated.unhealthyDueToAccel currentTime && updated.hasFiniteAttitude
        pure (updated, updated.report isHealthy)

variable [FloatCast F R]

omit [FlightFloat R] in
/-- The quaternion an outside measurement names. -/
def externalQuaternion (msg : ExternalAttitudeMsg F) : FlightQuaternion R where
  w := FloatCast.fromF32 msg.qw
  i := FloatCast.fromF32 msg.qx
  j := FloatCast.fromF32 msg.qy
  k := FloatCast.fromF32 msg.qz

/-- Keep a normalized outside attitude for the next sample. -/
def setExternalAttitudeUpdate (estimator : QuadEstimator F R) (msg : ExternalAttitudeMsg F) :
    Dividing R (QuadEstimator F R) := do
  let q ← (externalQuaternion msg).normalizeMut
  pure { estimator with qExtatt := some q }

/-- Take in an outside attitude, if there is one. -/
def takeExternalAttitude (estimator : QuadEstimator F R)
    (externalAttitude : Option (ExternalAttitudeMsg F)) : Dividing R (QuadEstimator F R) :=
  match externalAttitude with
  | some msg => estimator.setExternalAttitudeUpdate msg
  | none => pure estimator

/-- One estimation. -/
def estimate (estimator : QuadEstimator F R) (ctx : EstimatorCtx F R) :
    Dividing R (QuadEstimator F R × AttitudeState R) := do
  let informed ← estimator.takeExternalAttitude ctx.externalAttitude
  informed.estimatePackets ctx.sensors.imu ctx.dt

end QuadEstimator

instance {F R : Type} [FlightFloat R] [FloatCast F R] :
    Estimator F R (AttitudeState R) (QuadEstimator F R) where
  estimate estimator ctx := Library.result (estimator.estimate ctx)
  isHealthy state := state.isHealthy
  updateParams := QuadEstimator.updateParams
  reset := QuadEstimator.resetState
  resetAdaptiveBias := QuadEstimator.resetAdaptiveBias

end Veloxity
