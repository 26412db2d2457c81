import Mathlib.Data.Fin.VecNotation
import Veloxity.Control.Interfaces
import Veloxity.Mixer.Matrix

/-! The attitude controller of a quadrotor: five loops with integrators, and their gains. -/

namespace Veloxity

/-- Operations of a floating-point format that only attitudes need. -/
class AttitudeFloat (α : Type) where
  /-- Above every number. -/
  infinity : α
  /-- Angle of a point from its ordinate and its abscissa. -/
  atan2 : α → α → α
  /-- Angle with a given sine. -/
  asin : α → α

/-- A quaternion by its scalar and its three imaginary parts. -/
structure FlightQuaternion (R : Type) where
  w : R
  i : R
  j : R
  k : R

/-- What an attitude estimate tells the controller. -/
structure AttitudeState (R : Type) where
  qHat : FlightQuaternion R
  qDot : FlightQuaternion R
  bodyRate : Fin 3 → R
  bHat : Fin 3 → R
  isHealthy : Bool

/-- One loop with its gains, its limits and what it remembers. -/
structure Pid (R : Type) where
  p : R
  i : R
  d : R
  max : R
  min : R
  tau : R
  integrator : R
  differentiator : R
  prevX : R
  prevT : R

/-- Motor and propeller constants that bound the thrust. -/
structure MotorThrustModel (R : Type) where
  resistance : R
  diameter4 : R
  diameter5 : R
  cq : R
  ct : R
  kv : R
  noLoadCurrent : R
  numMotors : R
  maxVoltage : R
  pi2 : R

/-- The controller with its five loops, for parameters whose floating-point values have the first
format. -/
structure QuadController (F R : Type) where
  rollRatePid : Pid R
  pitchRatePid : Pid R
  yawRatePid : Pid R
  rollAnglePid : Pid R
  pitchAnglePid : Pid R
  equilibriumTorques : Fin 3 → R
  rcMaxThrottle : R
  useMotorParameters : Bool
  motorThrustModel : MotorThrustModel R

/-- Gains of one loop. -/
structure PidGains (R : Type) where
  p : R
  i : R
  d : R
  tau : R

/-- Everything the controller takes from the parameters. -/
structure ControllerGains (R : Type) where
  rollRate : PidGains R
  pitchRate : PidGains R
  yawRate : PidGains R
  rollAngle : PidGains R
  pitchAngle : PidGains R
  equilibriumTorques : Fin 3 → R
  rcMaxThrottle : R
  useMotorParameters : Bool
  motorThrustModel : MotorThrustModel R

variable {F R : Type} [FlightFloat R]

section Attitude

variable [AttitudeFloat R]

/-- Roll, pitch and yaw of a quaternion. -/
def quaternionToEuler (q : FlightQuaternion R) : Fin 3 → R :=
  let one : R := FlightFloat.lit 1
  let two : R := FlightFloat.lit 2
  let sinRoll := two * (q.w * q.i + q.j * q.k)
  let cosRoll := one - two * (q.i * q.i + q.j * q.j)
  let sinPitch := two * (q.w * q.j - q.k * q.i)
  let sinYaw := two * (q.w * q.k + q.i * q.j)
  let cosYaw := one - two * (q.j * q.j + q.k * q.k)
  ![AttitudeFloat.atan2 sinRoll cosRoll,
    AttitudeFloat.asin (FlightFloat.clamp sinPitch (FlightFloat.lit (-1)) one),
    AttitudeFloat.atan2 sinYaw cosYaw]

end Attitude

/-- The level attitude before any estimate. -/
def AttitudeState.default : AttitudeState R where
  qHat := ⟨FlightFloat.lit 1, FlightFloat.lit 0, FlightFloat.lit 0, FlightFloat.lit 0⟩
  qDot := ⟨FlightFloat.lit 0, FlightFloat.lit 0, FlightFloat.lit 0, FlightFloat.lit 0⟩
  bodyRate _ := FlightFloat.lit 0
  bHat _ := FlightFloat.lit 0
  isHealthy := false

namespace Pid

/-- A loop without gains or limits. -/
def default [AttitudeFloat R] : Pid R where
  p := FlightFloat.lit 0
  i := FlightFloat.lit 0
  d := FlightFloat.lit 0
  max := AttitudeFloat.infinity
  min := -AttitudeFloat.infinity
  tau := FlightFloat.lit 0.05
  integrator := FlightFloat.lit 0
  differentiator := FlightFloat.lit 0
  prevX := FlightFloat.lit 0
  prevT := FlightFloat.lit (-1)

/-- One step of the loop from a measured derivative, unwinding an integrator that saturates it. -/
def runWithDerivative (pid : Pid R) (x xC xdot dt : R) (enableIntegrator : Bool) : Pid R × R :=
  let error := xC - x
  let pTerm := pid.p * error
  let dTerm := if FlightFloat.lt (FlightFloat.lit 0) pid.d then pid.d * xdot else FlightFloat.lit 0
  let integrates := FlightFloat.lt (FlightFloat.lit 0) pid.i && enableIntegrator
  let integrator := if integrates then pid.integrator + error * dt else pid.integrator
  let iTerm := if integrates then pid.i * integrator else FlightFloat.lit 0
  let output := pTerm - dTerm + iTerm
  let saturated := FlightFloat.clamp output pid.min pid.max
  let unwinds := !FlightFloat.eq output saturated && FlightFloat.lt (FlightFloat.lit 0) pid.i &&
    FlightFloat.lt (FlightFloat.abs (output - pTerm + dTerm)) (FlightFloat.abs iTerm)
  ({ pid with integrator := if unwinds then (saturated - pTerm + dTerm) / pid.i else integrator },
    saturated)

/-- One step of the loop, with the derivative filtered from the last two values. -/
def run (pid : Pid R) (x xC dt : R) (enableIntegrator : Bool) : Pid R × R :=
  let twoTau := FlightFloat.lit 2 * pid.tau
  let differentiator :=
    if FlightFloat.lt (FlightFloat.lit 0.0001) dt then
      (twoTau - dt) / (twoTau + dt) * pid.differentiator +
        FlightFloat.lit 2 / (twoTau + dt) * (x - pid.prevX)
    else pid.differentiator
  -- A step too short to differentiate over counts as standing still.
  let xdot := if FlightFloat.lt (FlightFloat.lit 0.0001) dt then differentiator
    else FlightFloat.lit 0
  { pid with differentiator, prevX := x }.runWithDerivative x xC xdot dt enableIntegrator

/-- Forget everything but the gains and the limits. -/
def reset (pid : Pid R) : Pid R :=
  { pid with
    integrator := FlightFloat.lit 0, differentiator := FlightFloat.lit 0
    prevX := FlightFloat.lit 0, prevT := FlightFloat.lit (-1) }

omit [FlightFloat R] in
/-- The loop with other gains. -/
def withGains (pid : Pid R) (gains : PidGains R) : Pid R :=
  { pid with p := gains.p, i := gains.i, d := gains.d, tau := gains.tau }

omit [FlightFloat R] in
/-- Gains the loop flies on. -/
def gains (pid : Pid R) : PidGains R := { p := pid.p, i := pid.i, d := pid.d, tau := pid.tau }

end Pid

namespace MotorThrustModel

/-- A model of no motor. -/
def default : MotorThrustModel R where
  resistance := FlightFloat.lit 0
  diameter4 := FlightFloat.lit 0
  diameter5 := FlightFloat.lit 0
  cq := FlightFloat.lit 0
  ct := FlightFloat.lit 0
  kv := FlightFloat.lit 0
  noLoadCurrent := FlightFloat.lit 0
  numMotors := FlightFloat.lit 0
  maxVoltage := FlightFloat.lit 0
  pi2 := FlightFloat.lit 0

/-- Largest thrust of all motors together at a density of the air. -/
def calculateMaxThrust (model : MotorThrustModel R) (airDensity : R) : R :=
  let a := model.resistance * airDensity * model.diameter5 * model.cq /
    (FlightFloat.lit 4 * model.pi2 * model.kv)
  let b := model.kv
  let c := model.noLoadCurrent * model.resistance - model.maxVoltage
  let omega := (-b + FlightFloat.sqrt (b * b - FlightFloat.lit 4 * a * c)) / (FlightFloat.lit 2 * a)
  airDensity * model.diameter4 * model.ct * omega * omega / (FlightFloat.lit 4 * model.pi2) *
    model.numMotors

end MotorThrustModel

section Gains

variable [FlightFloat F] [FloatCast F R]

/-- Floating-point value of a parameter in the controller's format, zero when it has another
type. -/
def controllerParamFloat (params : Params F) (id : ParamId) : R :=
  FloatCast.fromF32 (params.floatOr id (FlightFloat.lit 0))

/-- The motors and propellers the parameters describe. -/
def MotorThrustModel.fromParams (params : Params F) : MotorThrustModel R :=
  let diameter : R := controllerParamFloat params .PARAM_PROP_DIAMETER
  let diameter2 := diameter * diameter
  { resistance := controllerParamFloat params .PARAM_MOTOR_RESISTANCE
    diameter4 := diameter2 * diameter2
    diameter5 := diameter2 * diameter2 * diameter
    cq := controllerParamFloat params .PARAM_PROP_CQ
    ct := controllerParamFloat params .PARAM_PROP_CT
    kv := controllerParamFloat params .PARAM_MOTOR_KV
    noLoadCurrent := controllerParamFloat params .PARAM_NO_LOAD_CURRENT
    numMotors := FlightFloat.lit (params.intOr .PARAM_NUM_MOTORS 0)
    maxVoltage := controllerParamFloat params .PARAM_VOLT_MAX
    pi2 := FlightFloat.pi * FlightFloat.pi }

omit [FlightFloat F] in
/-- Gains of one loop, with the filter constant all loops share. -/
def PidGains.fromParams (params : Params F) (p i d : ParamId) : PidGains R :=
  let gain (id : ParamId) : R :=
    match params.getById id with
    | .float value => FloatCast.fromF32 value
    | _ => FlightFloat.lit 0
  { p := gain p, i := gain i, d := gain d, tau := gain .PARAM_PID_TAU }

/-- Everything the controller takes from the parameters, as they set it. -/
def ControllerGains.fromParams (params : Params F) : ControllerGains R where
  rollRate := .fromParams params .PARAM_PID_ROLL_RATE_P .PARAM_PID_ROLL_RATE_I
    .PARAM_PID_ROLL_RATE_D
  pitchRate := .fromParams params .PARAM_PID_PITCH_RATE_P .PARAM_PID_PITCH_RATE_I
    .PARAM_PID_PITCH_RATE_D
  yawRate := .fromParams params .PARAM_PID_YAW_RATE_P .PARAM_PID_YAW_RATE_I .PARAM_PID_YAW_RATE_D
  rollAngle := .fromParams params .PARAM_PID_ROLL_ANGLE_P .PARAM_PID_ROLL_ANGLE_I
    .PARAM_PID_ROLL_ANGLE_D
  pitchAngle := .fromParams params .PARAM_PID_PITCH_ANGLE_P .PARAM_PID_PITCH_ANGLE_I
    .PARAM_PID_PITCH_ANGLE_D
  equilibriumTorques :=
    ![controllerParamFloat params .PARAM_X_EQ_TORQUE,
      controllerParamFloat params .PARAM_Y_EQ_TORQUE,
      controllerParamFloat params .PARAM_Z_EQ_TORQUE]
  rcMaxThrottle := controllerParamFloat params .PARAM_RC_MAX_THROTTLE
  useMotorParameters := params.intOr .PARAM_USE_MOTOR_PARAMETERS 0 != 0
  motorThrustModel := .fromParams params

end Gains

/-- Forces, torques and passthrough values in the order of the mixer's inputs. -/
def ControllerOutput.fromForcesTorquesAndPassthrough (forces torques : Fin 3 → R)
    (passthrough : Fin 4 → R) : ControllerOutput R where
  u := ![forces 0, forces 1, forces 2, torques 0, torques 1, torques 2, passthrough 0,
    passthrough 1, passthrough 2, passthrough 3]

/-- A commanded force, scaled when it is given as a throttle. -/
def forceOutput (value : R) (controlType : ControlType) (isFz : Bool)
    (rcMaxThrottle : R) (useMotorParameters : Bool) (maxThrust : R) : R :=
  if controlType ≠ .throttle then value
  else
    -- Throttle upwards is a force downwards on the last axis.
    let sign : R := if isFz then FlightFloat.lit (-1) else FlightFloat.lit 1
    let output := sign * value * rcMaxThrottle
    if useMotorParameters then output * maxThrust else output

/-- A short step at some throttle may be integrated over. -/
def controllerShouldUpdateIntegrators [FlightFloat F] (command : CombinedControl F) (dt : R) :
    Bool :=
  FlightFloat.lt dt (FlightFloat.lit 0.01) &&
    (FlightFloat.lt (FlightFloat.lit 0.1) command.fx.value ||
      FlightFloat.lt (FlightFloat.lit 0.1) command.fy.value ||
      FlightFloat.lt (FlightFloat.lit 0.1) command.fz.value)

namespace QuadController

/-- A controller without gains. -/
def default [AttitudeFloat R] : QuadController F R where
  rollRatePid := .default
  pitchRatePid := .default
  yawRatePid := .default
  rollAnglePid := .default
  pitchAnglePid := .default
  equilibriumTorques _ := FlightFloat.lit 0
  rcMaxThrottle := FlightFloat.lit 1
  useMotorParameters := false
  motorThrustModel := .default

/-- Forget what the loops remember. -/
def resetPids (controller : QuadController F R) : QuadController F R :=
  { controller with
    rollRatePid := controller.rollRatePid.reset
    pitchRatePid := controller.pitchRatePid.reset
    yawRatePid := controller.yawRatePid.reset
    rollAnglePid := controller.rollAnglePid.reset
    pitchAnglePid := controller.pitchAnglePid.reset }

omit [FlightFloat R] in
/-- Everything the controller has taken from the parameters. -/
def gains (controller : QuadController F R) : ControllerGains R where
  rollRate := controller.rollRatePid.gains
  pitchRate := controller.pitchRatePid.gains
  yawRate := controller.yawRatePid.gains
  rollAngle := controller.rollAnglePid.gains
  pitchAngle := controller.pitchAnglePid.gains
  equilibriumTorques := controller.equilibriumTorques
  rcMaxThrottle := controller.rcMaxThrottle
  useMotorParameters := controller.useMotorParameters
  motorThrustModel := controller.motorThrustModel

variable [FloatCast F R]

/-- Torque about the roll axis. -/
def runRoll [AttitudeFloat R] (controller : QuadController F R) (state : AttitudeState R)
    (channel : ControlChannel F) (dt : R) (updateIntegrators : Bool) : QuadController F R × R :=
  let value : R := FloatCast.fromF32 channel.value
  match channel.controlType with
  | .rate =>
    let ran := controller.rollRatePid.run (state.bodyRate 0) value dt updateIntegrators
    ({ controller with rollRatePid := ran.1 }, ran.2)
  | .angle =>
    let ran := controller.rollAnglePid.runWithDerivative (quaternionToEuler state.qHat 0) value
      (state.bodyRate 0) dt updateIntegrators
    ({ controller with rollAnglePid := ran.1 }, ran.2)
  | _ => (controller, value)

/-- Torque about the pitch axis. -/
def runPitch [AttitudeFloat R] (controller : QuadController F R) (state : AttitudeState R)
    (channel : ControlChannel F) (dt : R) (updateIntegrators : Bool) : QuadController F R × R :=
  let value : R := FloatCast.fromF32 channel.value
  match channel.controlType with
  | .rate =>
    let ran := controller.pitchRatePid.run (state.bodyRate 1) value dt updateIntegrators
    ({ controller with pitchRatePid := ran.1 }, ran.2)
  | .angle =>
    let ran := controller.pitchAnglePid.runWithDerivative (quaternionToEuler state.qHat 1) value
      (state.bodyRate 1) dt updateIntegrators
    ({ controller with pitchAnglePid := ran.1 }, ran.2)
  | _ => (controller, value)

/-- Torque about the yaw axis, which has no angle loop. -/
def runYaw (controller : QuadController F R) (state : AttitudeState R)
    (channel : ControlChannel F) (dt : R) (updateIntegrators : Bool) : QuadController F R × R :=
  let value : R := FloatCast.fromF32 channel.value
  match channel.controlType with
  | .rate =>
    let ran := controller.yawRatePid.run (state.bodyRate 2) value dt updateIntegrators
    ({ controller with yawRatePid := ran.1 }, ran.2)
  | _ => (controller, value)

/-- Torques, forces and passthrough values of one control step. -/
def runPidControl [AttitudeFloat R] (controller : QuadController F R) (state : AttitudeState R)
    (command : CombinedControl F) (dt : R) (addEquilibriumTorques updateIntegrators : Bool)
    (airDensity : R) : QuadController F R × ControllerOutput R :=
  let rolled := controller.runRoll state command.qx dt updateIntegrators
  let pitched := rolled.1.runPitch state command.qy dt updateIntegrators
  let yawed := pitched.1.runYaw state command.qz dt updateIntegrators
  let torque (axis : Fin 3) (loop : R) : R :=
    if addEquilibriumTorques then loop + controller.equilibriumTorques axis else loop
  let maxThrust : R :=
    if controller.useMotorParameters then controller.motorThrustModel.calculateMaxThrust airDensity
    else FlightFloat.lit 0
  let force (channel : ControlChannel F) (isFz : Bool) : R :=
    forceOutput (FloatCast.fromF32 channel.value) channel.controlType isFz
      controller.rcMaxThrottle controller.useMotorParameters maxThrust
  (yawed.1, .fromForcesTorquesAndPassthrough
    ![force command.fx false, force command.fy false, force command.fz true]
    ![torque 0 rolled.2, torque 1 pitched.2, torque 2 yawed.2]
    fun channel => FloatCast.fromF32 (command.passthrough channel).value)

variable [FlightFloat F]

/-- Take the gains from the parameters. -/
def updateGains (controller : QuadController F R) (params : Params F) : QuadController F R :=
  let gains : ControllerGains R := .fromParams params
  { rollRatePid := controller.rollRatePid.withGains gains.rollRate
    pitchRatePid := controller.pitchRatePid.withGains gains.pitchRate
    yawRatePid := controller.yawRatePid.withGains gains.yawRate
    rollAnglePid := controller.rollAnglePid.withGains gains.rollAngle
    pitchAnglePid := controller.pitchAnglePid.withGains gains.pitchAngle
    equilibriumTorques := gains.equilibriumTorques
    rcMaxThrottle := gains.rcMaxThrottle
    useMotorParameters := gains.useMotorParameters
    motorThrustModel := gains.motorThrustModel }

/-- One control step of the vehicle. -/
def control [AttitudeFloat R] (controller : QuadController F R) (state : AttitudeState R)
    (ctx : ControllerCtx F R) : QuadController F R × ControllerOutput R :=
  controller.runPidControl state ctx.command ctx.dt true
    (ctx.stateManager.isArmed && controllerShouldUpdateIntegrators ctx.command ctx.dt)
    ctx.airDensity

/-- Torques a copy of the controller gives to the sticks in the level attitude. -/
def calculateEquilibriumTorquesFromRc [AttitudeFloat R] (controller : QuadController F R)
    (rcControl : CombinedControl F) (params : Params F) : QuadController F R × (Fin 3 → F) :=
  let output := ((controller.updateGains params).resetPids.runPidControl AttitudeState.default
    rcControl (FlightFloat.lit 0) false false (FlightFloat.lit 1.225)).2
  (controller,
    ![FloatCast.toF32Lossy (output.u 3), FloatCast.toF32Lossy (output.u 4),
      FloatCast.toF32Lossy (output.u 5)])

/-- The gains that were taken are those the parameters set. -/
@[simp] theorem gains_updateGains (controller : QuadController F R) (params : Params F) :
    (controller.updateGains params).gains = .fromParams params := rfl

end QuadController

instance [AttitudeFloat R] [FlightFloat F] [FloatCast F R] :
    Controller F R (AttitudeState R) (ControllerOutput R) (QuadController F R) where
  control := QuadController.control
  updateGains := QuadController.updateGains
  calculateEquilibriumTorquesFromRc := QuadController.calculateEquilibriumTorquesFromRc

/-- Rational numbers have no infinity, and only level attitudes are run in this format. -/
instance : AttitudeFloat ℚ where
  infinity := 1000000
  atan2 _ _ := 0
  asin _ := 0

end Veloxity
