import Veloxity.Pwm.AcceptingDriver

/-! Agreement of the resting values handed to the driver with the composed outputs. -/

namespace Veloxity

variable {F R : Type} [FlightFloat R]

/-- Type a channel is composed for, once auxiliary ownership is resolved. -/
def effectiveOutputType (primaryOutputTypes : List MixerOutputType)
    (auxCommand : Option (RosflightAuxCmdMsg F)) (channel : Fin PWM_OUTPUT_CHANNELS) :
    MixerOutputType :=
  if primaryOutputTypes.getD channel .aux = .aux then
    match auxCommand with
    | none => .aux
    | some command =>
      match command.typeArray channel with
      | .disabled => .aux
      | .servo => .servo
      | .motor => .motor
  else primaryOutputTypes.getD channel .aux

/-- A channel the mixer leaves alone is driven as a motor by the auxiliary command. -/
def AuxDrivesMotor (primaryOutputTypes : List MixerOutputType)
    (auxCommand : Option (RosflightAuxCmdMsg F)) (channel : Fin PWM_OUTPUT_CHANNELS) : Prop :=
  primaryOutputTypes.getD channel .aux = .aux ∧
    ∃ command, auxCommand = some command ∧ command.typeArray channel = .motor

/-- The resting value of the mixer's type is that of the effective type, except where the
auxiliary command drives a motor. -/
theorem safeDisarmedCommand_effective_iff (primaryOutputTypes : List MixerOutputType)
    (auxCommand : Option (RosflightAuxCmdMsg F)) (channel : Fin PWM_OUTPUT_CHANNELS) :
    (safeDisarmedCommand (primaryOutputTypes.getD channel .aux) : R) =
        safeDisarmedCommand (effectiveOutputType primaryOutputTypes auxCommand channel) ↔
      ¬ AuxDrivesMotor primaryOutputTypes auxCommand channel := by
  have apart : (FlightFloat.half : R) ≠ FlightFloat.zero := FlightFloat.zero_ne_half.symm
  by_cases unowned : primaryOutputTypes.getD channel .aux = .aux
  · -- An unowned channel rests centred, so only a motor type can disagree.
    unfold effectiveOutputType AuxDrivesMotor
    rw [if_pos unowned, unowned]
    cases auxCommand with
    | none => simp
    | some command =>
      cases assigned : command.typeArray channel <;> simp [safeDisarmedCommand, assigned, apart]
  · -- An owned channel keeps the mixer's type.
    unfold effectiveOutputType AuxDrivesMotor
    rw [if_neg unowned]
    exact iff_of_true rfl fun drives => unowned drives.1

variable [FloatCast F R]

/-- The composed type of a channel is its effective one. -/
theorem outputForChannel_fst (primaryCommands : List R) (primaryOutputTypes : List MixerOutputType)
    (auxCommand : Option (RosflightAuxCmdMsg F)) (channel : Fin PWM_OUTPUT_CHANNELS) :
    (outputForChannel primaryCommands primaryOutputTypes auxCommand channel).1 =
      effectiveOutputType primaryOutputTypes auxCommand channel := by
  -- Ownership is decided first, then the auxiliary type.
  unfold outputForChannel effectiveOutputType
  by_cases unowned : primaryOutputTypes.getD channel .aux = .aux
  · rw [if_pos unowned, if_pos unowned]
    cases auxCommand with
    | none => rfl
    | some command =>
      simp only [auxOutputForChannel]
      cases command.typeArray channel <;> rfl
  · rw [if_neg unowned, if_neg unowned]

/-- A disarmed vehicle composes each channel's resting value for its effective type. -/
theorem composePwmOutputs_disarmed (primaryCommands : List R)
    (primaryOutputTypes : List MixerOutputType) (auxCommand : Option (RosflightAuxCmdMsg F))
    {state : StateManager} (params : Params F) (disarmed : state.isArmed = false)
    (channel : Fin PWM_OUTPUT_CHANNELS) :
    (composePwmOutputs primaryCommands primaryOutputTypes auxCommand state params)[channel] =
      safeDisarmedCommand (effectiveOutputType primaryOutputTypes auxCommand channel) := by
  -- The disarmed branch comes before the mask and the live value.
  simp [composePwmOutputs, disarmed, outputForChannel_fst]

/-- The driver is handed the composed value on every channel, and zero on every motor. -/
def HandedAsComposed (driver : AcceptingDriver R) (output : PwmOutputState)
    (primaryCommands : List R) (primaryOutputTypes : List MixerOutputType)
    (auxCommand : Option (RosflightAuxCmdMsg F)) (state : StateManager) (params : Params F) :
    Prop :=
  let composed := composePwmOutputs primaryCommands primaryOutputTypes auxCommand state params
  let written := (writePwmCommands driver output composed.toList primaryOutputTypes state).1
  ∀ channel : Fin PWM_OUTPUT_CHANNELS, channel.val < driver.channels →
    (written.handed channel).map Handed.value = some composed[channel] ∧
      (effectiveOutputType primaryOutputTypes auxCommand channel = .motor →
        (written.handed channel).map Handed.value = some FlightFloat.zero)

/-- While disarmed with some output on, the driver is handed the composed values and no motor is
driven, exactly when no channel the mixer leaves alone is an auxiliary motor. -/
theorem handedAsComposed_iff {driver : AcceptingDriver R} {output : PwmOutputState}
    {primaryCommands : List R} {primaryOutputTypes : List MixerOutputType}
    {auxCommand : Option (RosflightAuxCmdMsg F)} {state : StateManager} {params : Params F}
    (disarmed : state.isArmed = false) (enabled : output.isEnabled = true) :
    HandedAsComposed driver output primaryCommands primaryOutputTypes auxCommand state params ↔
      ∀ channel : Fin PWM_OUTPUT_CHANNELS, channel.val < driver.channels →
        ¬ AuxDrivesMotor primaryOutputTypes auxCommand channel := by
  -- On each channel both sides come down to the resting values of two types.
  refine forall_congr' fun channel => imp_congr_right fun present => ?_
  have handed : (((driver.rest primaryOutputTypes).handed channel).map Handed.value) =
      some (safeDisarmedCommand (primaryOutputTypes.getD channel .aux)) := by
    simp [AcceptingDriver.rest, present, Handed.value]
  rw [AcceptingDriver.write_disarmed driver _ _ disarmed enabled, handed,
    composePwmOutputs_disarmed _ _ _ _ disarmed, Option.some_inj,
    safeDisarmedCommand_effective_iff]
  refine and_iff_left_of_imp fun unassigned motor => ?_
  -- Agreement carries the motor's resting value over from the effective type.
  rw [(safeDisarmedCommand_effective_iff _ _ _).mpr unassigned, motor]
  rfl

/-- An auxiliary command that drives its fifth channel. -/
def fifthChannel (assigned : RosflightAuxCmdType) : RosflightAuxCmdMsg ℚ where
  typeArray channel := if channel = 4 then assigned else .disabled
  auxCmdArray _ := 0

/-- A mixer that owns four motors. -/
def quadTypes : List MixerOutputType := [.motor, .motor, .motor, .motor]

/-- With a servo on the fifth channel of a quadrotor, the resting values agree. -/
theorem handedAsComposed_iff_servo :
    HandedAsComposed (R := ℚ) (AcceptingDriver.new 14 fun _ => true) (PwmOutputState.new true) []
      quadTypes (some (fifthChannel .servo)) StateManager.new Params.new := by
  -- No channel is an auxiliary motor.
  refine (handedAsComposed_iff (by decide) (by decide)).mpr ?_
  intro channel _ drives
  obtain ⟨-, command, given, motor⟩ := drives
  cases given
  simp only [fifthChannel] at motor
  split at motor <;> cases motor

/-- A motor on the fifth channel of a quadrotor is handed half throttle while disarmed. -/
theorem fifthMotor_not_handedAsComposed :
    ¬ HandedAsComposed (R := ℚ) (AcceptingDriver.new 14 fun _ => true) (PwmOutputState.new true) []
      quadTypes (some (fifthChannel .motor))
      (StateManager.new.update .INITIALIZED (Params.new : Params ℚ)) Params.new := by
  -- The value handed over is that of an unowned channel.
  intro agree
  have driven := (agree ⟨4, by decide⟩ (by decide)).2 (by decide)
  have half : (1 / 2 : ℚ) = 0 := Option.some.inj driven
  norm_num at half

end Veloxity
