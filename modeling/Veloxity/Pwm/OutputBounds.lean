import Mathlib.Tactic.Linarith
import Veloxity.Core.ExactFloat
import Veloxity.Params.Service
import Veloxity.Pwm.DisarmedOutputs

/-! Which composed outputs are numbers between zero and one. -/

namespace Veloxity

open ExactFloat

/-- Idle throttle as the outputs are composed with it. -/
def idleThrottle (params : Params ExactFloat) : ExactFloat :=
  match params.getById .PARAM_MOTOR_IDLE_THROTTLE with
  | .float value => FloatCast.fromF32 value
  | _ => FlightFloat.zero

/-- A channel's value is defined where its type passes it on, and an idle throttle that replaces it
lies between zero and one. -/
def ComposableChannel (params : Params ExactFloat) (resolved : MixerOutputType × ExactFloat) :
    Prop :=
  (resolved.1 = .servo ∨ resolved.1 = .motor → resolved.2.IsNumber) ∧
    (resolved.1 = .motor → params.isNonzeroInt .PARAM_SPIN_MOTORS_WHEN_ARMED = true →
      FlightFloat.lt FlightFloat.one resolved.2 = false →
      FlightFloat.lt resolved.2 (idleThrottle params) = true → (idleThrottle params).InUnit)

/-- A resting value lies between zero and one. -/
theorem safeDisarmedCommand_inUnit (outputType : MixerOutputType) :
    (safeDisarmedCommand outputType : ExactFloat).InUnit := by
  cases outputType <;> simp [safeDisarmedCommand, zero_eq, half_eq] <;> norm_num

/-- A centred and halved servo command lies between zero and one exactly when it is a number. -/
theorem servoOutput_inUnit_iff (value : ExactFloat) :
    (FlightFloat.clamp value (FlightFloat.lit (-1)) FlightFloat.one * FlightFloat.half +
      FlightFloat.half).InUnit ↔ value.IsNumber := by
  cases value with
  | nan =>
    -- Clamping lets an undefined command through, so nothing bounds it.
    rw [clamp_nan]
    exact iff_of_false not_inUnit_nan fun isNumber => isNumber rfl
  | number value =>
    -- A number is clamped to one either side of zero, then halved and centred.
    have ordered : (-1 : ℚ) ≤ 1 := by norm_num
    obtain ⟨clamped, same, above, below⟩ := clamp_number ordered value
    have halved : FlightFloat.clamp (number value) (FlightFloat.lit (-1)) FlightFloat.one *
        FlightFloat.half + FlightFloat.half = number (clamped * (1 / 2) + 1 / 2) := by
      rw [lit_eq, one_eq, half_eq, same]
      rfl
    rw [halved, inUnit_number]
    apply iff_of_true
    · constructor <;> linarith
    · exact nofun

/-- A motor's value lies between zero and one exactly when it is a number and the idle throttle
does wherever it replaces the value. -/
theorem motorOutput_inUnit_iff (value idle : ExactFloat) {state : StateManager}
    (armed : state.isArmed = true) (spin : Bool) :
    (rawOutputForType .motor value state idle spin).InUnit ↔
      value.IsNumber ∧ (spin = true → FlightFloat.lt FlightFloat.one value = false →
        FlightFloat.lt value idle = true → idle.InUnit) := by
  cases value with
  | nan =>
    -- Every comparison fails, so the undefined value is passed on.
    have passed : rawOutputForType .motor nan state idle spin = nan := by
      simp [rawOutputForType, armed]
    rw [passed]
    exact iff_of_false not_inUnit_nan fun bounded => bounded.1 rfl
  | number value =>
    have isNumber : (number value).IsNumber := nofun
    simp only [rawOutputForType, armed, isNumber, true_and, one_eq, zero_eq, lt_number,
      Bool.not_true, Bool.false_eq_true, if_false, decide_eq_true_eq, decide_eq_false_iff_not,
      Bool.and_eq_true]
    by_cases high : 1 < value
    · simp [high]
    · by_cases idles : FlightFloat.lt (number value) idle = true ∧ spin = true
      · simp [high, idles]
      · -- Without the idle throttle what is left is cut off below zero.
        have unreplaced : spin = true → ¬ FlightFloat.lt (number value) idle = true :=
          fun spins below => idles ⟨below, spins⟩
        rw [if_neg high, if_neg idles]
        apply iff_of_true
        · by_cases low : value < 0
          · simp [low]
          · rw [if_neg low, inUnit_number]
            exact ⟨not_lt.mp low, not_lt.mp high⟩
        · intro spins _ below
          exact absurd below (unreplaced spins)

/-- The value of an armed output lies between zero and one exactly when the channel is
composable. -/
theorem rawOutputForType_inUnit_iff (resolved : MixerOutputType × ExactFloat)
    {state : StateManager} (armed : state.isArmed = true) (params : Params ExactFloat) :
    (rawOutputForType resolved.1 resolved.2 state (idleThrottle params)
        (params.isNonzeroInt .PARAM_SPIN_MOTORS_WHEN_ARMED)).InUnit ↔
      ComposableChannel params resolved := by
  obtain ⟨outputType, value⟩ := resolved
  cases outputType with
  | aux => simp [rawOutputForType, ComposableChannel, zero_eq]
  | gpio =>
    -- A digital output is zero or one whatever its command.
    simp only [rawOutputForType, ComposableChannel]
    split <;> simp [one_eq, zero_eq]
  | servo =>
    rw [rawOutputForType, servoOutput_inUnit_iff]
    simp [ComposableChannel]
  | motor =>
    rw [motorOutput_inUnit_iff value _ armed]
    simp [ComposableChannel]

/-- Every composed output is a number between zero and one if and only if, on an armed vehicle, no
enabled servo or motor is commanded an undefined value, and the idle throttle lies between zero
and one wherever it replaces a motor's value. -/
theorem composePwmOutputs_inUnit_iff (primaryCommands : List ExactFloat)
    (primaryOutputTypes : List MixerOutputType)
    (auxCommand : Option (RosflightAuxCmdMsg ExactFloat)) (state : StateManager)
    (params : Params ExactFloat) :
    (∀ channel : Fin PWM_OUTPUT_CHANNELS, InUnit
      ((composePwmOutputs primaryCommands primaryOutputTypes auxCommand state params).get channel))
      ↔
    ∀ channel : Fin PWM_OUTPUT_CHANNELS, state.isArmed = true →
      channelOutputEnabled (params.intOr .PARAM_CHANNEL_OUTPUT_MASK 0) channel = true →
        ComposableChannel params
          (outputForChannel primaryCommands primaryOutputTypes auxCommand channel) := by
  apply forall_congr'
  intro channel
  cases armed : state.isArmed with
  | false =>
    -- A disarmed channel rests at a value in range.
    have resting : (composePwmOutputs primaryCommands primaryOutputTypes auxCommand state
        params).get channel =
          safeDisarmedCommand (effectiveOutputType primaryOutputTypes auxCommand channel) :=
      composePwmOutputs_disarmed _ _ _ _ armed channel
    rw [resting]
    exact iff_of_true (safeDisarmedCommand_inUnit _) fun contradiction => by cases contradiction
  | true =>
    have composed : (composePwmOutputs primaryCommands primaryOutputTypes auxCommand state
        params).get channel =
          let resolved := outputForChannel primaryCommands primaryOutputTypes auxCommand channel
          if !channelOutputEnabled (params.intOr .PARAM_CHANNEL_OUTPUT_MASK 0) channel then
            safeDisarmedCommand resolved.1
          else rawOutputForType resolved.1 resolved.2 state (idleThrottle params)
            (params.isNonzeroInt .PARAM_SPIN_MOTORS_WHEN_ARMED) := by
      have read : (composePwmOutputs primaryCommands primaryOutputTypes auxCommand state
          params).get channel = (composePwmOutputs primaryCommands primaryOutputTypes auxCommand
            state params)[channel.val] := rfl
      rw [read, composePwmOutputs, Vector.getElem_ofFn, idleThrottle, armed]
      cases params.getById .PARAM_MOTOR_IDLE_THROTTLE <;> rfl
    rw [composed]
    cases enabled : channelOutputEnabled (params.intOr .PARAM_CHANNEL_OUTPUT_MASK 0) channel with
    | false =>
      -- So does one that the mask leaves off.
      simp [safeDisarmedCommand_inUnit]
    | true => simpa using rawOutputForType_inUnit_iff _ armed params

/-- An idle throttle of two. -/
def doubleIdle : Params ExactFloat :=
  Params.new.setById .PARAM_MOTOR_IDLE_THROTTLE (.float (.number 2))

/-- An armed manager without errors. -/
def armedManager : StateManager := { machine := .armed ∅, armingSafety := {} }

/-- The parameter service accepts an idle throttle of two, and an armed motor at rest is then
composed as two. -/
theorem doubleIdle_above_one :
    sameParamType ParamId.PARAM_MOTOR_IDLE_THROTTLE.default (.float (number 2)) = true ∧
      telemetryValueAllowed .PARAM_MOTOR_IDLE_THROTTLE (.float (number 2)) = true ∧
      ¬ ∀ channel : Fin PWM_OUTPUT_CHANNELS, InUnit
        ((composePwmOutputs [number 0] [.motor] none armedManager doubleIdle).get channel) := by
  refine ⟨rfl, by decide, ?_⟩
  intro bounded
  -- The first channel is the motor, and its value is the idle throttle.
  have composed : (composePwmOutputs [number 0] [.motor] none armedManager doubleIdle).get
      ⟨0, by decide⟩ = number 2 := by decide +kernel
  have first := bounded ⟨0, by decide⟩
  rw [composed, inUnit_number] at first
  norm_num at first

end Veloxity
