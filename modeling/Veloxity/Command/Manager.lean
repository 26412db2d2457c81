import Veloxity.Comm.Messages
import Veloxity.Command.Lockout
import Veloxity.Rc.Receiver

/-! Resolution of radio-control, offboard and failsafe commands into one control command. -/

namespace Veloxity

/-- How a control channel's value is to be read. -/
inductive ControlType where
  | rate | angle | throttle | passthrough
  deriving DecidableEq, Repr

/-- Value of the attitude mode parameter that selects rate mode. -/
abbrev attitudeRateMode : Int := 0

/-- No override is in effect. -/
def OVERRIDE_NO_OVERRIDE : BitVec 16 := 0x0

/-- The attitude override switch is on. -/
def OVERRIDE_ATT_SWITCH : BitVec 16 := 0x1

/-- The throttle override switch is on. -/
def OVERRIDE_THR_SWITCH : BitVec 16 := 0x2

/-- The roll stick overrides. -/
def OVERRIDE_X : BitVec 16 := 0x4

/-- The pitch stick overrides. -/
def OVERRIDE_Y : BitVec 16 := 0x8

/-- The yaw stick overrides. -/
def OVERRIDE_Z : BitVec 16 := 0x10

/-- The throttle stick is below the offboard throttle. -/
def OVERRIDE_T : BitVec 16 := 0x20

/-- Offboard roll is inactive. -/
def OVERRIDE_OFFBOARD_X_INACTIVE : BitVec 16 := 0x40

/-- Offboard pitch is inactive. -/
def OVERRIDE_OFFBOARD_Y_INACTIVE : BitVec 16 := 0x80

/-- Offboard yaw is inactive. -/
def OVERRIDE_OFFBOARD_Z_INACTIVE : BitVec 16 := 0x100

/-- Offboard throttle is inactive. -/
def OVERRIDE_OFFBOARD_T_INACTIVE : BitVec 16 := 0x200

/-- One channel of a control command. -/
structure ControlChannel (F : Type) where
  active : Bool
  controlType : ControlType
  value : F
  deriving DecidableEq

/-- A control command for all axes, forces and passthrough channels. -/
structure CombinedControl (F : Type) where
  stampMs : Nat
  qx : ControlChannel F
  qy : ControlChannel F
  qz : ControlChannel F
  fx : ControlChannel F
  fy : ControlChannel F
  fz : ControlChannel F
  passthrough : Fin 4 → ControlChannel F

section

variable {F : Type} [FlightFloat F]

/-- An inactive channel in rate mode. -/
def ControlChannel.default : ControlChannel F :=
  { active := false, controlType := .rate, value := FlightFloat.zero }

/-- An active channel of the given type at zero. -/
def ControlChannel.activeZero (controlType : ControlType) : ControlChannel F :=
  { active := true, controlType, value := FlightFloat.zero }

/-- A command with every channel inactive. -/
def CombinedControl.default : CombinedControl F :=
  { stampMs := 0, qx := .default, qy := .default, qz := .default, fx := .default, fy := .default,
    fz := .default, passthrough := fun _ => .default }

end

/-- Whether the attitude mode parameter must be set to rate after this pass. -/
structure CommandRunResult where
  forceRcAttitudeModeRate : Bool
  deriving DecidableEq

/-- The command manager's commands, override state and lockout. -/
structure CommandManager (F : Type) where
  rcCommand : CombinedControl F
  offboardCommand : CombinedControl F
  combinedCommand : CombinedControl F
  multirotorFailsafeCommand : CombinedControl F
  fixedwingFailsafeCommand : CombinedControl F
  lastOffboardCommandUs : Nat
  lastStickOverrideTime : Stick → Nat
  rcThrottleOverride : Bool
  rcAttitudeOverride : Bool
  rcOverride : BitVec 16
  rcAngleModeLockout : RcAngleModeLockoutMachine

section

variable {F : Type}

/-- The attitude mode parameter selects rate mode. -/
def paramRcAttitudeModeIsRate (params : Params F) : Bool :=
  match params.getById .PARAM_RC_ATTITUDE_MODE with
  | .int value => value = attitudeRateMode
  | _ => false

/-- Angle mode is selected by the mapped switch, or else by the parameter. -/
def rcAngleModeSelected (params : Params F) (rc : Rc F) : Bool :=
  if rc.switchMapped .AttType then rc.switchOn .AttType else !paramRcAttitudeModeIsRate params

/-- The angle lockout is switched on. -/
def estimatorAngleLockoutEnabled (params : Params F) : Bool :=
  params.isNonzeroInt .PARAM_EST_ANGLE_LOCKOUT

/-- The attitude override switch is mapped and on. -/
def Rc.attitudeOverrideOn (rc : Rc F) : Bool :=
  rc.switchMapped .AttOverride && rc.switchOn .AttOverride

variable [FlightFloat F]

namespace CommandManager

/-- A manager with zero failsafe commands and no other command. -/
def new : CommandManager F where
  rcCommand := .default
  offboardCommand := .default
  combinedCommand := .default
  multirotorFailsafeCommand :=
    { CombinedControl.default with
      qx := .activeZero .angle, qy := .activeZero .angle, qz := .activeZero .rate,
      fx := .activeZero .throttle, fy := .activeZero .throttle, fz := .activeZero .throttle }
  fixedwingFailsafeCommand :=
    { CombinedControl.default with
      qx := .activeZero .passthrough, qy := .activeZero .passthrough,
      qz := .activeZero .passthrough, fx := .activeZero .passthrough,
      fy := .activeZero .passthrough, fz := .activeZero .passthrough }
  lastOffboardCommandUs := 0
  lastStickOverrideTime := fun _ => 0
  rcThrottleOverride := false
  rcAttitudeOverride := false
  rcOverride := OVERRIDE_NO_OVERRIDE
  rcAngleModeLockout := {}

/-- Put a throttle on the force axis the parameters name and zero on the others. -/
def withFailsafeThrottle (command : CombinedControl F) (params : Params F) (throttle : F) :
    CombinedControl F :=
  let zeroed :=
    { command with
      fx := { command.fx with value := FlightFloat.zero }
      fy := { command.fy with value := FlightFloat.zero }
      fz := { command.fz with value := FlightFloat.zero } }
  match params.getById .PARAM_RC_F_AXIS with
  | .int 0 => { zeroed with fx := { zeroed.fx with value := throttle } }
  | .int 1 => { zeroed with fy := { zeroed.fy with value := throttle } }
  | _ => { zeroed with fz := { zeroed.fz with value := throttle } }

/-- The configured failsafe throttle cannot be flown by a multirotor. -/
def failsafeThrottleInvalid (params : Params F) : Bool :=
  let failsafeThrottle := params.floatOr .PARAM_FAILSAFE_THROTTLE FlightFloat.zero
  !params.isNonzeroInt .PARAM_FIXED_WING &&
    (FlightFloat.lt failsafeThrottle FlightFloat.zero ||
      FlightFloat.lt (FlightFloat.lit 1) failsafeThrottle)

/-- Recompute the failsafe commands and the flag for an invalid failsafe throttle. -/
def updateFailsafeConfig (manager : CommandManager F) (params : Params F) (state : StateManager) :
    CommandManager F × StateManager :=
  let invalid := failsafeThrottleInvalid params
  let throttle :=
    if invalid then FlightFloat.zero
    else params.floatOr .PARAM_FAILSAFE_THROTTLE FlightFloat.zero
  let state :=
    if invalid then state.update (.ERROR_OCCURRED ErrorFlag.INVALID_FAILSAFE) params
    else state.update (.ERROR_CLEARED ErrorFlag.INVALID_FAILSAFE) params
  let fixedwing := manager.fixedwingFailsafeCommand
  ({ manager with
      multirotorFailsafeCommand :=
        withFailsafeThrottle manager.multirotorFailsafeCommand params throttle
      fixedwingFailsafeCommand :=
        { fixedwing with
          fx := { fixedwing.fx with value := FlightFloat.zero }
          fy := { fixedwing.fy with value := FlightFloat.zero }
          fz := { fixedwing.fz with value := FlightFloat.zero } } },
    state)

/-- Initialise the failsafe configuration. -/
def init (manager : CommandManager F) (params : Params F) (state : StateManager) :
    CommandManager F × StateManager :=
  manager.updateFailsafeConfig params state

/-- Deactivate every channel of a command. -/
def deactivate (command : CombinedControl F) : CombinedControl F :=
  { command with
    qx := { command.qx with active := false }
    qy := { command.qy with active := false }
    qz := { command.qz with active := false }
    fx := { command.fx with active := false }
    fy := { command.fy with active := false }
    fz := { command.fz with active := false }
    passthrough := fun channel => { command.passthrough channel with active := false } }

/-- Deactivate the offboard command once it is too old. -/
def updateOffboardTimeout (manager : CommandManager F) (nowUs : Nat) (params : Params F) :
    CommandManager F :=
  let timeoutMs := asU32 (params.intOr .PARAM_OFFBOARD_TIMEOUT 100)
  if nowUs ≤ manager.lastOffboardCommandUs + timeoutMs * 1000 then manager
  else { manager with offboardCommand := deactivate manager.offboardCommand }

/-- Control types an offboard mode gives to roll and pitch, to yaw and to the forces. -/
def offboardTypes : OffboardControlMode → ControlType × ControlType × ControlType
  | .modePassThrough => (.passthrough, .passthrough, .passthrough)
  | .modeRollratePitchrateYawrateThrottle => (.rate, .rate, .throttle)
  | .modeRollPitchYawrateThrottle => (.angle, .rate, .throttle)

/-- Take over a received offboard command. -/
def setNewOffboardCommand (manager : CommandManager F) (nowUs : Nat) (msg : OffboardControlMsg F) :
    CommandManager F :=
  let attitude := (offboardTypes msg.mode).1
  let yaw := (offboardTypes msg.mode).2.1
  let force := (offboardTypes msg.mode).2.2
  { manager with
    lastOffboardCommandUs := nowUs
    offboardCommand :=
      { stampMs := truncU32 (nowUs / 1000)
        qx := { active := .qx ∉ msg.ignore, controlType := attitude, value := msg.qx }
        qy := { active := .qy ∉ msg.ignore, controlType := attitude, value := msg.qy }
        qz := { active := .qz ∉ msg.ignore, controlType := yaw, value := msg.qz }
        fx := { active := .fx ∉ msg.ignore, controlType := force, value := msg.fx }
        fy := { active := .fy ∉ msg.ignore, controlType := force, value := msg.fy }
        fz := { active := .fz ∉ msg.ignore, controlType := force, value := msg.fz }
        passthrough := fun channel =>
          { active := .pass channel ∉ msg.ignore, controlType := .passthrough,
            value := msg.passthrough channel } } }

/-- Roll and pitch type of the radio-control command when nothing forces it. -/
def rcRollPitchType (params : Params F) (rc : Rc F) : ControlType :=
  if rc.switchMapped .AttType then
    if rc.switchOn .AttType then .angle else .rate
  else if params.intOr .PARAM_RC_ATTITUDE_MODE 200 = attitudeRateMode then .rate
  else .angle

/-- Scale of a roll or pitch stick for the given command type. -/
def rollPitchScale (params : Params F) (rollPitchType : ControlType)
    (rateLimit angleLimit : ParamId)
    (value : F) : F :=
  match rollPitchType with
  | .rate => value * params.floatOr rateLimit (FlightFloat.lit 1)
  | .angle => value * params.floatOr angleLimit (FlightFloat.lit 1)
  | _ => value

/-- Turn the sticks into the radio-control command. -/
def interpretRc (manager : CommandManager F) (rc : Rc F) (params : Params F)
    (forcedRollPitchType : Option ControlType) : CommandManager F :=
  let fStickValue := rc.stick .F
  let axis := params.intOr .PARAM_RC_F_AXIS 2
  let fixedWing := params.isNonzeroInt .PARAM_FIXED_WING
  let rollPitchType := forcedRollPitchType.getD (rcRollPitchType params rc)
  let attitudeType := if fixedWing then .passthrough else rollPitchType
  let forceType : ControlType := if fixedWing then .passthrough else .throttle
  let force (own : Bool) : ControlChannel F :=
    { active := true, controlType := forceType,
      value := if own then fStickValue else FlightFloat.zero }
  { manager with
    rcCommand :=
      { manager.rcCommand with
        qx :=
          { active := true, controlType := attitudeType
            value := if fixedWing then rc.stick .X else rollPitchScale params rollPitchType
              .PARAM_RC_MAX_ROLLRATE .PARAM_RC_MAX_ROLL (rc.stick .X) }
        qy :=
          { active := true, controlType := attitudeType
            value := if fixedWing then rc.stick .Y else rollPitchScale params rollPitchType
              .PARAM_RC_MAX_PITCHRATE .PARAM_RC_MAX_PITCH (rc.stick .Y) }
        qz :=
          { active := true, controlType := if fixedWing then .passthrough else .rate
            value := if fixedWing then rc.stick .Z
              else rc.stick .Z * params.floatOr .PARAM_RC_MAX_YAWRATE (FlightFloat.lit 1) }
        fx := force (axis = 0)
        fy := force (axis = 1)
        fz := force (axis ≠ 0 ∧ axis ≠ 1) } }

/-- Interpret the sticks of a fresh sample, or whenever the rate type is forced. -/
def interpretWhen (manager : CommandManager F) (hasNewRc forceRcRate : Bool) (rc : Rc F)
    (params : Params F) : CommandManager F :=
  if hasNewRc || forceRcRate then
    manager.interpretRc rc params (if forceRcRate then some .rate else none)
  else manager

/-- A stick overrides while its lag runs or while it is deflected beyond the deviation. -/
def attitudeStickDeviated (manager : CommandManager F) (rc : Rc F) (stick : Stick)
    (deviationParam : F) (lagTimeMs nowMs : Nat) : Bool :=
  if nowMs < saturatingAddU32 (manager.lastStickOverrideTime stick) lagTimeMs then true
  else !FlightFloat.le (FlightFloat.abs (rc.stick stick)) deviationParam

/-- Restart the lag of a stick that is deflected while no lag runs. -/
def noteStickOverride (manager : CommandManager F) (rc : Rc F) (stick : Stick)
    (deviationParam : F) (lagTimeMs nowMs : Nat) : CommandManager F :=
  if nowMs < saturatingAddU32 (manager.lastStickOverrideTime stick) lagTimeMs then manager
  else if FlightFloat.le (FlightFloat.abs (rc.stick stick)) deviationParam then manager
  else
    { manager with
      lastStickOverrideTime := Function.update manager.lastStickOverrideTime stick nowMs }

/-- Deflection beyond which a stick overrides. -/
def overrideDeviation (params : Params F) : F :=
  params.floatOr .PARAM_RC_OVERRIDE_DEVIATION (FlightFloat.lit 0.1)

/-- Time for which a stick keeps overriding after it was deflected. -/
def overrideLagTimeMs (params : Params F) : Nat :=
  asU32 (params.intOr .PARAM_OVERRIDE_LAG_TIME 200)

/-- An override mask with one bit set when its reason holds. -/
def maskWhen (holds : Bool) (bit : BitVec 16) : BitVec 16 :=
  if holds then bit else OVERRIDE_NO_OVERRIDE

/-- Select the attitude command of each axis and report why. -/
def doAttitudeMuxing (manager : CommandManager F) (params : Params F) (rc : Rc F) (nowMs : Nat)
    (forceRcAttitude : Bool) : CommandManager F × BitVec 16 :=
  let deviationParam := overrideDeviation params
  let lagTimeMs := overrideLagTimeMs params
  let switchOverride := rc.attitudeOverrideOn
  let deviated stick := manager.attitudeStickDeviated rc stick deviationParam lagTimeMs nowMs
  let offboard := manager.offboardCommand
  let mask :=
    maskWhen (switchOverride || forceRcAttitude) OVERRIDE_ATT_SWITCH |||
    maskWhen (deviated .X) OVERRIDE_X |||
    maskWhen (!offboard.qx.active) OVERRIDE_OFFBOARD_X_INACTIVE |||
    maskWhen (deviated .Y) OVERRIDE_Y |||
    maskWhen (!offboard.qy.active) OVERRIDE_OFFBOARD_Y_INACTIVE |||
    maskWhen (deviated .Z) OVERRIDE_Z |||
    maskWhen (!offboard.qz.active) OVERRIDE_OFFBOARD_Z_INACTIVE
  let combined :=
    { manager.combinedCommand with
      qx :=
        if forceRcAttitude || switchOverride || deviated .X || !offboard.qx.active then
          manager.rcCommand.qx
        else offboard.qx
      qy :=
        if forceRcAttitude || switchOverride || deviated .Y || !offboard.qy.active then
          manager.rcCommand.qy
        else offboard.qy
      -- A forced attitude source leaves yaw alone.
      qz :=
        if switchOverride || deviated .Z || !offboard.qz.active then manager.rcCommand.qz
        else offboard.qz }
  let noted := [Stick.X, .Y, .Z].foldl
    (fun manager stick => manager.noteStickOverride rc stick deviationParam lagTimeMs nowMs) manager
  ({ noted with combinedCommand := combined }, mask)

/-- Select the throttle command and report why. -/
def doThrottleMuxing (manager : CommandManager F) (params : Params F) (rc : Rc F) :
    CommandManager F × BitVec 16 :=
  let axis := asU32 (params.intOr .PARAM_RC_F_AXIS 200)
  let throttleOf (command : CombinedControl F) :=
    if axis = 0 then command.fx else if axis = 1 then command.fy else command.fz
  let rcThrottleValue := (throttleOf manager.rcCommand).value
  let offboardChannel := throttleOf manager.offboardCommand
  let takeMin :=
    match params.getById .PARAM_RC_OVERRIDE_TAKE_MIN_THROTTLE with
    | .int value => value != 0
    | _ => true
  let mask :=
    maskWhen rc.throttleOverrideOn OVERRIDE_THR_SWITCH |||
    maskWhen (offboardChannel.active && takeMin &&
      FlightFloat.lt rcThrottleValue offboardChannel.value) OVERRIDE_T |||
    maskWhen (!offboardChannel.active) OVERRIDE_OFFBOARD_T_INACTIVE
  let source := if mask ≠ OVERRIDE_NO_OVERRIDE then manager.rcCommand else manager.offboardCommand
  ({ manager with
      combinedCommand :=
        { manager.combinedCommand with fx := source.fx, fy := source.fy, fz := source.fz } },
    mask)

/-- Select the source of every channel. -/
def doMuxing (manager : CommandManager F) (params : Params F) (rc : Rc F) (nowMs : Nat)
    (forceRcAttitude : Bool) : CommandManager F :=
  let attitude := manager.doAttitudeMuxing params rc nowMs forceRcAttitude
  let throttle := attitude.1.doThrottleMuxing params rc
  { throttle.1 with
    rcOverride := attitude.2 ||| throttle.2
    rcAttitudeOverride := attitude.2 ≠ OVERRIDE_NO_OVERRIDE
    rcThrottleOverride := throttle.2 ≠ OVERRIDE_NO_OVERRIDE
    combinedCommand :=
      { throttle.1.combinedCommand with passthrough := throttle.1.offboardCommand.passthrough } }

/-- An active offboard roll or pitch command is an angle. -/
def offboardAngleRequested (manager : CommandManager F) : Bool :=
  (manager.offboardCommand.qx.active && manager.offboardCommand.qx.controlType = .angle) ||
    (manager.offboardCommand.qy.active && manager.offboardCommand.qy.controlType = .angle)

/-- The override switch or an inactive offboard axis asks for the radio-control attitude. -/
def rcAttitudeSourceRequested (manager : CommandManager F) (rc : Rc F) : Bool :=
  rc.attitudeOverrideOn || !manager.offboardCommand.qx.active || !manager.offboardCommand.qy.active

/-- What the lockout sees of the current commands. -/
def lockoutInput (manager : CommandManager F) (params : Params F) (rc : Rc F)
    (state : StateManager) : RcAngleModeLockoutInput :=
  { fixedWing := params.isNonzeroInt .PARAM_FIXED_WING
    estimatorUnhealthy := decide (ErrorFlag.UNHEALTHY_ESTIMATOR ⊆ state.getErrors)
    offboardAngleRequested := manager.offboardAngleRequested
    rcAngleRequested := rcAngleModeSelected params rc
    rcAttitudeSourceRequested := manager.rcAttitudeSourceRequested rc
    attTypeSwitchMapped := rc.switchMapped .AttType
    attTypeSwitchRate := !rc.switchOn .AttType
    paramModeRate := paramRcAttitudeModeIsRate params }

/-- Run the lockout when it applies to this vehicle. -/
def estimatorModeSafety (manager : CommandManager F) (params : Params F) (rc : Rc F)
    (state : StateManager) : CommandManager F × RcAngleModeLockoutOutput :=
  if params.isNonzeroInt .PARAM_FIXED_WING || !estimatorAngleLockoutEnabled params then
    ({ manager with rcAngleModeLockout := manager.rcAngleModeLockout.reset }, {})
  else
    let stepped := manager.rcAngleModeLockout.step (manager.lockoutInput params rc state)
    ({ manager with rcAngleModeLockout := stepped.1 }, stepped.2)

/-- Everything a command pass changes. -/
structure Pass (F : Type) where
  manager : CommandManager F
  rc : Rc F
  state : StateManager
  result : CommandRunResult

/-- Raise the loss of the link before resolving commands. -/
def noteRcLoss (nowMs : Nat) (params : Params F) (rc : Rc F) (state : StateManager) :
    StateManager :=
  if !rc.checkRcHealth (nowMs * 1000) params then
    state.update (.ERROR_OCCURRED ErrorFlag.RC_LOST) params
  else state

/-- The failsafe command for the configured kind of vehicle. -/
def failsafeCommand (manager : CommandManager F) (params : Params F) : CombinedControl F :=
  if params.isNonzeroInt .PARAM_FIXED_WING then manager.fixedwingFailsafeCommand
  else manager.multirotorFailsafeCommand

/-- Resolve the commands of a vehicle that is not in failsafe. -/
def resolve (manager : CommandManager F) (nowMs : Nat) (params : Params F) (rc : Rc F)
    (state : StateManager) : Pass F :=
  let timed := manager.updateOffboardTimeout (nowMs * 1000) params
  let guarded := timed.estimatorModeSafety params rc state
  let safety := guarded.2
  let fresh := rc.takeNewCommand
  let interpreted := guarded.1.interpretWhen fresh.1 safety.forceRcRate fresh.2 params
  { manager := interpreted.doMuxing params fresh.2 nowMs safety.forceRcAttitude
    rc := fresh.2, state, result := { forceRcAttitudeModeRate := safety.forceParamRate } }

/-- Resolve all commands into the combined command. -/
def run (manager : CommandManager F) (nowMs : Nat) (params : Params F) (rc : Rc F)
    (state : StateManager) : Pass F :=
  let linked := noteRcLoss nowMs params rc state
  if linked.isInFailsafe then
    -- Failsafe leaves everything but the combined command as it was.
    { manager := { manager with combinedCommand := manager.failsafeCommand params }, rc
      state := linked, result := { forceRcAttitudeModeRate := false } }
  else manager.resolve nowMs params rc linked

/-- The resolved command. -/
def combinedControl (manager : CommandManager F) : CombinedControl F := manager.combinedCommand

/-- The command interpreted from the sticks. -/
def rcControl (manager : CommandManager F) : CombinedControl F := manager.rcCommand

/-- The mask of overrides in effect. -/
def getRcOverride (manager : CommandManager F) : BitVec 16 := manager.rcOverride

end CommandManager

end

end Veloxity
