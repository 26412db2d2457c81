import Veloxity.Command.Manager
import Veloxity.Mixer.Canned

/-! The mixer that multiplies control outputs by the rows of one of two matrices. -/

namespace Veloxity

/-- Forces, torques and passthrough values a controller asks for. -/
structure ControllerOutput (R : Type) where
  u : MixerOutputs R

/-- Parameters the mixer reads again whenever they change. -/
structure MixerParams (R : Type) where
  idleThrottle : R
  numMotors : Nat
  fixedWing : Bool
  useMotorParameters : Bool
  throttleAxis : Nat

/-- The mixer, for parameters whose floating-point values have the first format. -/
structure MatrixMixer (F R : Type) where
  params : MixerParams R
  status : MixerStatus
  outputTypes : MixerOutputs MixerOutputType
  defaultPwmRates : MixerOutputs R
  primaryMixer : MixerMatrix R
  secondaryMixer : MixerMatrix R

/-- A changed parameter decides which mixer is flown. -/
def isMixerConfigParam : ParamId → Bool
  | .PARAM_PRIMARY_MIXER | .PARAM_SECONDARY_MIXER | .PARAM_PRIMARY_MIXER_OUTPUT _
  | .PARAM_PRIMARY_MIXER_PWM_RATE _ | .PARAM_PRIMARY_MIXER_CELL _ _
  | .PARAM_SECONDARY_MIXER_CELL _ _ => true
  | _ => false

/-- A changed parameter alters how the mixer is flown. -/
def isMixerRuntimeParam : ParamId → Bool
  | .PARAM_MOTOR_IDLE_THROTTLE | .PARAM_NUM_MOTORS | .PARAM_FIXED_WING
  | .PARAM_USE_MOTOR_PARAMETERS | .PARAM_RC_F_AXIS => true
  | _ => false

/-- Overrides under which the attitude rows come from the primary matrix. -/
def ATTITUDE_OVERRIDDEN : BitVec 16 :=
  OVERRIDE_ATT_SWITCH ||| OVERRIDE_X ||| OVERRIDE_OFFBOARD_X_INACTIVE ||| OVERRIDE_Y |||
    OVERRIDE_OFFBOARD_Y_INACTIVE ||| OVERRIDE_Z ||| OVERRIDE_OFFBOARD_Z_INACTIVE

/-- Overrides under which the force rows come from the primary matrix. -/
def T_OVERRIDDEN : BitVec 16 := OVERRIDE_THR_SWITCH ||| OVERRIDE_T ||| OVERRIDE_OFFBOARD_T_INACTIVE

/-- A control input is taken from the primary matrix under the given overrides. -/
def usePrimaryRowForOverride (input : Fin NUM_MIXER_OUTPUTS) (rcOverride : BitVec 16) : Bool :=
  (3 ≤ input.val && input.val ≤ 5 && rcOverride &&& ATTITUDE_OVERRIDDEN != 0) ||
    (input.val ≤ 2 && rcOverride &&& T_OVERRIDDEN != 0)

variable {F R : Type} [FlightFloat R] [FloatCast F R]

/-- Floating-point value of a parameter in the mixer's format, or zero. -/
def mixerParamFloat (params : Params F) (id : ParamId) : R :=
  match params.getById id with
  | .float value => FloatCast.fromF32 value
  | _ => FlightFloat.zero

/-- Matrix of a custom mixer. -/
def mixerFromParams (params : Params F) (mixerChoiceId : ParamId)
    (cell : Fin NUM_MIXER_OUTPUTS → Fin NUM_MIXER_OUTPUTS → ParamId) : Option (MixerMatrix R) :=
  if mixerParamInt params mixerChoiceId ≠ CUSTOM_MIXER then none
  else some fun row col => mixerParamFloat params (cell row col)

/-- Output types of a custom mixer. -/
def outputTypesFromParams (params : Params F) : Option (MixerOutputs MixerOutputType) :=
  if mixerParamInt params .PARAM_PRIMARY_MIXER ≠ CUSTOM_MIXER then none
  else some fun output =>
    mixerOutputTypeFromRosflight (mixerParamInt params (.PARAM_PRIMARY_MIXER_OUTPUT output))

/-- Update rates of a custom mixer. -/
def pwmRatesFromParams (params : Params F) : Option (MixerOutputs R) :=
  if mixerParamInt params .PARAM_PRIMARY_MIXER ≠ CUSTOM_MIXER then none
  else some fun output => mixerParamFloat params (.PARAM_PRIMARY_MIXER_PWM_RATE output)

/-- Reverse the control surfaces the parameters ask for. -/
def applyFixedwingReversals (commands : ControllerOutput R) (params : Params F) :
    ControllerOutput R :=
  let reversed (input : Fin NUM_MIXER_OUTPUTS) : Bool :=
    (input = 3 && mixerParamInt params .PARAM_AILERON_REVERSE != 0) ||
    (input = 4 && mixerParamInt params .PARAM_ELEVATOR_REVERSE != 0) ||
    (input = 5 && mixerParamInt params .PARAM_RUDDER_REVERSE != 0)
  { u := fun input =>
      if reversed input then commands.u input * FlightFloat.lit (-1) else commands.u input }

namespace MatrixMixer

/-- Read the runtime parameters again. -/
def refreshRuntimeParams (mixer : MatrixMixer F R) (params : Params F) : MatrixMixer F R :=
  let primaryChoice := mixerParamInt params .PARAM_PRIMARY_MIXER
  let fixedWing := mixerParamInt params .PARAM_FIXED_WING != 0 ||
    primaryChoice = FIXEDWING_MIXER || primaryChoice = INVERTED_VTAIL_MIXER
  { mixer with
    params :=
      { idleThrottle := mixerParamFloat params .PARAM_MOTOR_IDLE_THROTTLE
        numMotors := (mixerParamInt params .PARAM_NUM_MOTORS).toNat
        fixedWing
        useMotorParameters :=
          !fixedWing && mixerParamInt params .PARAM_USE_MOTOR_PARAMETERS != 0
        throttleAxis := (min (mixerParamInt params .PARAM_RC_F_AXIS) 2).toNat } }

variable [Svd R]

/-- Choose the mixer again, refusing only choices beyond the last one. -/
def refreshMixerConfig (mixer : MatrixMixer F R) (params : Params F) :
    MatrixMixer F R × MixerStatus :=
  let primaryChoice := mixerParamInt params .PARAM_PRIMARY_MIXER
  if NUM_MIXERS ≤ primaryChoice then (mixer, .invalidMixer)
  else
    let primary : CannedMixerConfig R :=
      match cannedMixer primaryChoice with
      | some config => config
      | none =>
        -- Negative choices fall through to the quadrotor's defaults.
        { outputTypes := (outputTypesFromParams params).getD QUAD_X_OUTPUT_TYPES
          defaultPwmRates := (pwmRatesFromParams params).getD fun _ => FlightFloat.lit 50
          matrix := (mixerFromParams params .PARAM_PRIMARY_MIXER .PARAM_PRIMARY_MIXER_CELL).getD
            (matrixFromDefault ((rawCannedMixerMatrix QUAD_X_MIXER_CHOICE).getD [])) }
    let secondary : MixerMatrix R :=
      match cannedSecondaryMixer (mixerParamInt params .PARAM_SECONDARY_MIXER) with
      | some config => config.matrix
      | none => (mixerFromParams params .PARAM_SECONDARY_MIXER .PARAM_SECONDARY_MIXER_CELL).getD
          primary.matrix
    ({ mixer with
        outputTypes := primary.outputTypes, defaultPwmRates := primary.defaultPwmRates
        primaryMixer := primary.matrix, secondaryMixer := secondary },
      .healthy)

/-- Choose the mixer and read its runtime parameters. -/
def refresh (mixer : MatrixMixer F R) (params : Params F) : MatrixMixer F R :=
  let chosen := mixer.refreshMixerConfig params
  { chosen.1 with status := chosen.2 }.refreshRuntimeParams params

/-- The mixer the parameters describe. -/
def new (params : Params F) : MatrixMixer F R :=
  refresh
    { params :=
        { numMotors := 4
          idleThrottle :=
            match params.getById .PARAM_MOTOR_IDLE_THROTTLE with
            | .float value => FloatCast.fromF32 value
            | _ => FlightFloat.lit 0.1
          fixedWing := false, useMotorParameters := false, throttleAxis := 2 }
      status := .healthy
      outputTypes := QUAD_X_OUTPUT_TYPES
      defaultPwmRates := fun _ => FlightFloat.lit 50
      primaryMixer := matrixFromDefault ((rawCannedMixerMatrix QUAD_X_MIXER_CHOICE).getD [])
      secondaryMixer := matrixFromDefault ((rawCannedMixerMatrix QUAD_X_MIXER_CHOICE).getD []) }
    params

omit [FloatCast F R] [Svd R] in
/-- Row of a control input under the given overrides. -/
def selectedMixerRow (mixer : MatrixMixer F R) (input : Fin NUM_MIXER_OUTPUTS)
    (rcOverride : BitVec 16) : MixerOutputs R :=
  if usePrimaryRowForOverride input rcOverride then mixer.primaryMixer input
  else mixer.secondaryMixer input

omit [FloatCast F R] [Svd R] in
/-- One output, summed over the control inputs that are not zero. -/
def mixSingleOutputWithSelectedRows (mixer : MatrixMixer F R) (output : Fin NUM_MIXER_OUTPUTS)
    (commands : ControllerOutput R) (rcOverride : BitVec 16) : R :=
  (List.finRange NUM_MIXER_OUTPUTS).foldl (fun value input =>
    if FlightFloat.eq (commands.u input) FlightFloat.zero then value
    else value + commands.u input * mixer.selectedMixerRow input rcOverride output)
    FlightFloat.zero

omit [Svd R] in
/-- Throttle of a motor from its speed, by the motor and propeller parameters. -/
def mixMotorParameterOutput (mixer : MatrixMixer F R) (output : Fin NUM_MIXER_OUTPUTS)
    (commands : ControllerOutput R) (rcOverride : BitVec 16) (ctx : MixerCtx F R) : R :=
  let omegaSquared := FlightFloat.max
    (mixer.mixSingleOutputWithSelectedRows output commands rcOverride) FlightFloat.zero
  let kQ : R := mixerParamFloat ctx.params .PARAM_MOTOR_KV
  if FlightFloat.lt kQ (FlightFloat.lit 0.0000001) then FlightFloat.zero
  else
    match ctx.batteryVoltage with
    | none => FlightFloat.zero
    | some batteryVoltage =>
      if FlightFloat.lt batteryVoltage (FlightFloat.lit 0.0001) then FlightFloat.zero
      else
        let resistance : R := mixerParamFloat ctx.params .PARAM_MOTOR_RESISTANCE
        let diameter : R := mixerParamFloat ctx.params .PARAM_PROP_DIAMETER
        let cq : R := mixerParamFloat ctx.params .PARAM_PROP_CQ
        let kv : R := mixerParamFloat ctx.params .PARAM_MOTOR_KV
        let noLoadCurrent : R := mixerParamFloat ctx.params .PARAM_NO_LOAD_CURRENT
        let diameter5 := diameter * diameter * diameter * diameter * diameter
        let voltage :=
          ctx.airDensity * diameter5 / (FlightFloat.lit 4 * (FlightFloat.pi * FlightFloat.pi)) *
              omegaSquared * cq * resistance / kQ +
            resistance * noLoadCurrent + kv * FlightFloat.sqrt omegaSquared
        voltage / batteryVoltage

omit [Svd R] in
/-- Commands after the reversals of an aeroplane, or without yaw at low throttle. -/
def limitedCommands (mixer : MatrixMixer F R) (controls : ControllerOutput R) (params : Params F) :
    ControllerOutput R :=
  if mixer.params.fixedWing then applyFixedwingReversals controls params
  else if FlightFloat.lt
      (FlightFloat.abs (controls.u (Fin.ofNat NUM_MIXER_OUTPUTS (min mixer.params.throttleAxis 2))))
      mixer.params.idleThrottle then
    { u := Function.update controls.u 5 FlightFloat.zero }
  else controls

omit [Svd R] in
/-- Outputs before they are scaled into range, with the unowned ones at zero. -/
def rawOutputs (mixer : MatrixMixer F R) (commands : ControllerOutput R) (ctx : MixerCtx F R) :
    MixerOutputs R := fun output =>
  match mixer.outputTypes output with
  | .aux => FlightFloat.zero
  | .motor =>
    if mixer.params.useMotorParameters then
      mixer.mixMotorParameterOutput output commands ctx.rcOverride ctx
    else mixer.mixSingleOutputWithSelectedRows output commands ctx.rcOverride
  | _ => mixer.mixSingleOutputWithSelectedRows output commands ctx.rcOverride

omit [Svd R] in
/-- One mixing pass, which a mixer without a valid choice answers with zeros. -/
def mix (mixer : MatrixMixer F R) (controls : ControllerOutput R) (ctx : MixerCtx F R) :
    MatrixMixer F R × MixerRun R :=
  if mixer.status = .invalidMixer then
    (mixer,
      { commands := List.replicate NUM_MIXER_OUTPUTS FlightFloat.zero, status := mixer.status })
  else
    let outputs := mixer.rawOutputs (mixer.limitedCommands controls ctx.params) ctx
    let maxOutput := (List.finRange NUM_MIXER_OUTPUTS).foldl (fun largest output =>
      if mixer.outputTypes output = .motor ∧
          FlightFloat.lt largest (FlightFloat.abs (outputs output)) then
        FlightFloat.abs (outputs output)
      else largest) FlightFloat.one
    let scaleFactor :=
      if FlightFloat.lt FlightFloat.one maxOutput then FlightFloat.one / maxOutput
      else FlightFloat.one
    let scaled output :=
      if mixer.outputTypes output = .motor then outputs output * scaleFactor else outputs output
    (mixer, { commands := List.ofFn scaled, status := mixer.status })

/-- React to one changed parameter. -/
def onParamChanged (mixer : MatrixMixer F R) (params : Params F) (id : ParamId) :
    MatrixMixer F R × Option MixerStatus :=
  let adjusted := if isMixerRuntimeParam id then mixer.refreshRuntimeParams params else mixer
  if isMixerConfigParam id then
    let refreshed := adjusted.refresh params
    (refreshed, some refreshed.status)
  else (adjusted, none)

/-- Rebuild from all parameters. -/
def refreshParams (mixer : MatrixMixer F R) (params : Params F) :
    MatrixMixer F R × Option MixerStatus :=
  let refreshed := mixer.refresh params
  (refreshed, some refreshed.status)

end MatrixMixer

instance [Svd R] : Mixer F R (ControllerOutput R) (MatrixMixer F R) where
  mix := MatrixMixer.mix
  outputTypes mixer := List.ofFn mixer.outputTypes
  defaultPwmRates mixer := List.ofFn mixer.defaultPwmRates
  onParamChanged := MatrixMixer.onParamChanged
  refreshParams := MatrixMixer.refreshParams

end Veloxity
