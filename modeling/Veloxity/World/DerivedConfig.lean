import Veloxity.Control.QuadController
import Veloxity.Library.Derived
import Veloxity.Mixer.Selection
import Veloxity.Params.ServiceLaws
import Veloxity.World.Announcements

/-! The configuration derived from the parameters, and how reactions keep it up to date. -/

namespace Veloxity

open Library (DerivedValue)

variable {F R S E D : Type}

/-- The firmware on a board, with the multipliers its battery monitor was last given. -/
structure BoardedWorld (F R E D : Type) where
  world : World F R E (QuadController F R) (MatrixMixer F R) D
  batteryMonitor : F × F

/-- Everything that is computed from the parameters when they change, and kept until they do. -/
@[ext] structure DerivedConfig (F R : Type) where
  sticks : Stick → StickConfig
  switches : Switch → SwitchConfig
  failsafe : (CombinedControl F × CombinedControl F) × Bool
  mixerParams : MixerParams R
  mixerChoice : MixerStatus × MixerSelection R
  telemetryHz : NamedTelemetryStream → Nat
  outputRawImuDivisor : Nat
  batteryMonitor : F × F
  gains : ControllerGains R

/-- A change of this parameter has the sticks mapped again. -/
def mapsSticks : ParamId → Bool
  | .PARAM_RC_X_CHANNEL | .PARAM_RC_Y_CHANNEL | .PARAM_RC_Z_CHANNEL | .PARAM_RC_F_CHANNEL => true
  | _ => false

/-- A change of this parameter has the switches mapped again. -/
def mapsSwitches : ParamId → Bool
  | .PARAM_RC_ATTITUDE_OVERRIDE_CHANNEL | .PARAM_RC_THROTTLE_OVERRIDE_CHANNEL
  | .PARAM_RC_ATT_CONTROL_TYPE_CHANNEL | .PARAM_RC_ARM_CHANNEL | .PARAM_RC_OUTPUT_KILL_CHANNEL
  | .PARAM_RC_SWITCH_5_DIRECTION | .PARAM_RC_SWITCH_6_DIRECTION | .PARAM_RC_SWITCH_7_DIRECTION
  | .PARAM_RC_SWITCH_8_DIRECTION => true
  | _ => false

/-- A change of this parameter has the mixer read its runtime parameters again. -/
def bearsOnMixer (id : ParamId) : Bool := isMixerRuntimeParam id || isMixerConfigParam id

/-- A change of this parameter has the battery monitor configured again. -/
def bearsOnBattery : ParamId → Bool
  | .PARAM_BATTERY_VOLTAGE_MULTIPLIER | .PARAM_BATTERY_CURRENT_MULTIPLIER => true
  | _ => false

/-- A change of this parameter sets the rate of this stream. -/
def setsRateOf (stream : NamedTelemetryStream) (id : ParamId) : Bool :=
  telemetryStreamForParam id = some stream

/-- What the mixer has chosen by its last refresh. -/
def MatrixMixer.choice (mixer : MatrixMixer F R) : MixerStatus × MixerSelection R :=
  (mixer.status,
    { outputTypes := mixer.outputTypes, defaultPwmRates := mixer.defaultPwmRates
      primaryMixer := mixer.primaryMixer, secondaryMixer := mixer.secondaryMixer })

variable [FlightFloat F]

/-- Multipliers of the battery monitor, as the parameters set them. -/
def batteryMultipliers (params : Params F) : F × F :=
  (params.floatOr .PARAM_BATTERY_VOLTAGE_MULTIPLIER FlightFloat.zero,
    params.floatOr .PARAM_BATTERY_CURRENT_MULTIPLIER FlightFloat.zero)

namespace BoardedWorld

/-- Everything in the firmware that is derived from the parameters. -/
def derived (boarded : BoardedWorld F R E D) : DerivedConfig F R where
  sticks := boarded.world.rc.sticks
  switches := boarded.world.rc.switches
  failsafe := (boarded.world.command.failsafeCommands,
    decide (.invalidFailsafe ∈ boarded.world.state.getErrors))
  mixerParams := boarded.world.mixer.params
  mixerChoice := boarded.world.mixer.choice
  telemetryHz := boarded.world.comm.telemetry.telemetryRates.hz
  outputRawImuDivisor := boarded.world.comm.telemetry.telemetryRates.outputRawImuDivisor
  batteryMonitor := boarded.batteryMonitor
  gains := boarded.world.controller.gains

/-- Answer the parameter requests. -/
def serviceParamEvents [ReflectionFormat F] (boarded : BoardedWorld F R E D) :
    BoardedWorld F R E D :=
  { boarded with world := boarded.world.serviceParamEvents }

/-- Have every reaction set off at once. -/
def markAllParamsChanged (boarded : BoardedWorld F R E D) : BoardedWorld F R E D :=
  { boarded with
    world :=
      { boarded.world with
        paramEvents := Veloxity.markAllParamsChanged boarded.world.paramEvents } }

/-- Give the battery monitor its multipliers when one of them has changed. -/
def configureBatteryMonitor (boarded : BoardedWorld F R E D) : BoardedWorld F R E D :=
  let events := boarded.world.paramEvents
  if events.fullRefresh || events.changes.items.any fun change => bearsOnBattery change.id then
    { boarded with batteryMonitor := batteryMultipliers boarded.world.params }
  else boarded

variable [FlightFloat R] [FloatCast F R] [AttitudeFloat R] [Svd R]
  [Estimator F R (AttitudeState R) E]

/-- Set off the reactions to changed parameters, on the board and in the firmware. -/
def applyParamReactions (boarded : BoardedWorld F R E D) (nowUs : Nat) : BoardedWorld F R E D :=
  let configured := boarded.configureBatteryMonitor
  { configured with world := configured.world.applyParamReactions nowUs }

/-- The firmware after a full refresh from its parameters. -/
def refreshed (boarded : BoardedWorld F R E D) (nowUs : Nat) : BoardedWorld F R E D :=
  boarded.markAllParamsChanged.applyParamReactions nowUs

end BoardedWorld

section Values

/-- Channels of the sticks. -/
def sticksValue : DerivedValue (Params F) ParamId (Stick → StickConfig) :=
  .ofSource Rc.stickConfig mapsSticks

/-- Channels of the switches. -/
def switchesValue : DerivedValue (Params F) ParamId (Switch → SwitchConfig) :=
  .ofSource Rc.switchConfig mapsSwitches

/-- Commands for the loss of the link, and whether their throttle is invalid. -/
def failsafeValue :
    DerivedValue (Params F) ParamId ((CombinedControl F × CombinedControl F) × Bool) where
  recompute params value :=
    ((CommandManager.withFailsafeThrottle value.1.1 params
        (CommandManager.configuredThrottle params),
      { value.1.2 with
        fx := { value.1.2.fx with value := FlightFloat.zero }
        fy := { value.1.2.fy with value := FlightFloat.zero }
        fz := { value.1.2.fz with value := FlightFloat.zero } }),
      CommandManager.failsafeThrottleInvalid params)
  reacts := bearsOnFailsafe
  settled params value := by
    -- A throttle replaces the one put on before.
    simp only [CommandManager.withFailsafeThrottle_idem]

/-- Multipliers of the battery monitor. -/
def batteryValue : DerivedValue (Params F) ParamId (F × F) :=
  .ofSource batteryMultipliers bearsOnBattery

omit [FlightFloat F] in
/-- Rate of one stream. -/
def rateValue (stream : NamedTelemetryStream) : DerivedValue (Params F) ParamId Nat :=
  .ofSource (fun params => telemetryRateParam params stream.rateParam) (setsRateOf stream)

omit [FlightFloat F] in
/-- How many inertial samples share one raw output, which the parameters never ask for. -/
def divisorValue : DerivedValue (Params F) ParamId Nat :=
  .ofSource (fun _ => 0) (setsRateOf .outputRaw)

variable [FlightFloat R] [FloatCast F R]

omit [FlightFloat F] in
/-- Runtime parameters of the mixer. -/
def mixerParams (params : Params F) : MixerParams R :=
  let primaryChoice := mixerParamInt params .PARAM_PRIMARY_MIXER
  let fixedWing := mixerParamInt params .PARAM_FIXED_WING != 0 ||
    primaryChoice = FIXEDWING_MIXER || primaryChoice = INVERTED_VTAIL_MIXER
  { idleThrottle := mixerParamFloat params .PARAM_MOTOR_IDLE_THROTTLE
    numMotors := (mixerParamInt params .PARAM_NUM_MOTORS).toNat
    fixedWing
    useMotorParameters := !fixedWing && mixerParamInt params .PARAM_USE_MOTOR_PARAMETERS != 0
    throttleAxis := (min (mixerParamInt params .PARAM_RC_F_AXIS) 2).toNat }

omit [FlightFloat F] in
/-- Runtime parameters of the mixer, which are read again with its choice as well. -/
def mixerParamsValue : DerivedValue (Params F) ParamId (MixerParams R) :=
  .ofSource mixerParams bearsOnMixer

/-- Gains of the controller, which are read again at every change. -/
def gainsValue : DerivedValue (Params F) ParamId (ControllerGains R) :=
  .ofSource .fromParams fun _ => true

variable [Svd R]

omit [FlightFloat F] in
/-- The chosen mixers, which stay as they are when the choice is invalid. -/
def mixerChoiceValue :
    DerivedValue (Params F) ParamId (MixerStatus × MixerSelection R) where
  recompute params value :=
    match mixerSelection params with
    | none => (.invalidMixer, value.2)
    | some selection => (.healthy, selection)
  reacts := isMixerConfigParam
  settled params value := by
    -- A selection does not depend on the one before.
    cases mixerSelection (R := R) params <;> rfl

/-- A way for every derived value to follow the parameters. -/
abbrev FollowRule (F : Type) : Type 1 :=
  (Value : Type) → DerivedValue (Params F) ParamId Value → Value → Value

namespace DerivedConfig

/-- Every derived value follows the parameters in one way. -/
def follow (config : DerivedConfig F R) (rule : FollowRule F) : DerivedConfig F R where
  sticks := rule _ sticksValue config.sticks
  switches := rule _ switchesValue config.switches
  failsafe := rule _ failsafeValue config.failsafe
  mixerParams := rule _ mixerParamsValue config.mixerParams
  mixerChoice := rule _ mixerChoiceValue config.mixerChoice
  telemetryHz stream := rule _ (rateValue stream) (config.telemetryHz stream)
  outputRawImuDivisor := rule _ divisorValue config.outputRawImuDivisor
  batteryMonitor := rule _ batteryValue config.batteryMonitor
  gains := rule _ gainsValue config.gains

/-- Every derived value reacts to the announced changes. -/
def react (config : DerivedConfig F R) (params : Params F) (announced : List ParamId) :
    DerivedConfig F R :=
  config.follow fun _ derived value => derived.react params value announced

/-- Every derived value is computed anew. -/
def refresh (config : DerivedConfig F R) (params : Params F) : DerivedConfig F R :=
  config.follow fun _ derived value => derived.recompute params value

end DerivedConfig

end Values

end Veloxity
