import Veloxity.Comm.Messages
import Veloxity.Pwm.Driver

/-! Which output channels are on, and what each of them is handed. -/

namespace Veloxity

/-- Channels believed to be on, one bit each. -/
structure PwmOutputState where
  enabledMask : BitVec 32
  deriving DecidableEq

namespace PwmOutputState

/-- All channels on, or all off. -/
def new (enabled : Bool) : PwmOutputState :=
  { enabledMask := if enabled then BitVec.allOnes 32 else 0 }

/-- Some channel is on. -/
def isEnabled (output : PwmOutputState) : Bool := output.enabledMask != 0

end PwmOutputState

/-- Channels a driver of the given length has. -/
def availableMask (channelCount : Nat) : BitVec 32 :=
  if channelCount = 32 then BitVec.allOnes 32 else (1#32 <<< channelCount) - 1

/-- Channels that should be on, from the kill switch and the configured mask. -/
def desiredMask (outputKillActive : Bool) (channelOutputMask : Int) (available : BitVec 32) :
    BitVec 32 :=
  if outputKillActive then 0
  else if channelOutputMask = -1 then available
  else if 0 ≤ channelOutputMask then BitVec.ofInt 32 channelOutputMask &&& available
  else 0

variable {F R D : Type}

/-- A driver, the recorded mask and the result of a call that may fail half-way. -/
structure PwmSync (D : Type) where
  driver : D
  output : PwmOutputState
  result : Except PwmError Bool

/-- Progress of switching channels one after another. -/
structure Switching (D : Type) where
  driver : D
  applied : BitVec 32
  output : PwmOutputState
  result : Except PwmError Unit

/-- Switch the marked channels in turn, stopping at the first refusal. -/
def switchChannels (act : D → Nat → D × Except PwmError Unit)
    (record : BitVec 32 → BitVec 32 → BitVec 32) (marked : BitVec 32) :
    List Nat → Switching D → Switching D
  | [], progress => progress
  | channel :: rest, progress =>
    if marked &&& 1#32 <<< channel ≠ 0 then
      let acted := act progress.driver channel
      match acted.2 with
      | .error reason => { progress with driver := acted.1, result := .error reason }
      | .ok () =>
        let applied := record progress.applied (1#32 <<< channel)
        switchChannels act record marked rest
          { progress with driver := acted.1, applied, output := { enabledMask := applied } }
    else switchChannels act record marked rest progress

variable [FlightFloat R] [PwmDriver R D]

/-- Switch off what should be off, then on what should be on, channel by channel. -/
def switchToMask (driver : D) (output : PwmOutputState) (channelCount : Nat)
    (current desired : BitVec 32) : PwmSync D :=
  let disabling := current &&& ~~~desired
  let disabled := switchChannels PwmDriver.disable (fun mask bit => mask &&& ~~~bit) disabling
    (List.range channelCount) { driver, applied := current, output, result := .ok () }
  match disabled.result with
  | .error reason => ⟨disabled.driver, disabled.output, .error reason⟩
  | .ok () =>
    let flushed := if disabling ≠ 0 then PwmDriver.flush disabled.driver else disabled.driver
    let enabled := switchChannels PwmDriver.enable (fun mask bit => mask ||| bit)
      (desired &&& ~~~current) (List.range channelCount) { disabled with driver := flushed }
    match enabled.result with
    | .error reason => ⟨enabled.driver, enabled.output, .error reason⟩
    | .ok () => ⟨enabled.driver, enabled.output, .ok true⟩

/-- Bring the driver's channels in line with the kill switch and the configured mask. -/
def syncPwmOutputState (driver : D) (output : PwmOutputState) (outputKillActive : Bool)
    (channelOutputMask : Int) : PwmSync D :=
  let channelCount := min (PwmDriver.len driver) 32
  let available := availableMask channelCount
  let desired := desiredMask outputKillActive channelOutputMask available
  let current := output.enabledMask &&& available
  if desired = current then ⟨driver, { enabledMask := current }, .ok false⟩
  else if desired = available ∧ current = 0 then
    let started := PwmDriver.enableAll driver
    match started.2 with
    | .error reason => ⟨started.1, output, .error reason⟩
    | .ok () => ⟨started.1, { enabledMask := desired }, .ok true⟩
  else if desired = 0 then
    ⟨PwmDriver.flush (PwmDriver.disableAll driver), { enabledMask := 0 }, .ok true⟩
  else switchToMask driver output channelCount current desired

/-- Hand the driver live commands when armed and resting ones otherwise. -/
def writePwmCommands (driver : D) (output : PwmOutputState) (commands : List R)
    (outputTypes : List MixerOutputType) (state : StateManager) : D × Except PwmError Bool :=
  if !output.isEnabled then (driver, .ok false)
  else
    let sent := if state.isArmed then PwmDriver.sendCommands driver commands
      else PwmDriver.sendDisarmedCommands driver outputTypes
    (sent.1, sent.2.map fun _ => true)

/-- A channel is not masked out by the configuration. -/
def channelOutputEnabled (mask : Int) (channel : Nat) : Bool :=
  mask = -1 || (decide (0 ≤ mask) && decide (channel < 32) && mask.toNat.testBit channel)

variable [FloatCast F R]

/-- Type and value an auxiliary command gives a channel. -/
def auxOutputForChannel (auxCommand : Option (RosflightAuxCmdMsg F))
    (channel : Fin PWM_OUTPUT_CHANNELS) : MixerOutputType × R :=
  match auxCommand with
  | none => (.aux, FlightFloat.zero)
  | some auxCommand =>
    match auxCommand.typeArray channel with
    | .disabled => (.aux, FlightFloat.zero)
    | .servo => (.servo, FloatCast.fromF32 (auxCommand.auxCmdArray channel))
    | .motor => (.motor, FloatCast.fromF32 (auxCommand.auxCmdArray channel))

/-- Type and value of a channel, taken from the mixer where it owns the channel. -/
def outputForChannel (primaryCommands : List R) (primaryOutputTypes : List MixerOutputType)
    (auxCommand : Option (RosflightAuxCmdMsg F)) (channel : Fin PWM_OUTPUT_CHANNELS) :
    MixerOutputType × R :=
  let primaryType := primaryOutputTypes.getD channel .aux
  if primaryType = .aux then auxOutputForChannel auxCommand channel
  else (primaryType, primaryCommands.getD channel FlightFloat.zero)

/-- Physical value of an armed output. -/
def rawOutputForType (outputType : MixerOutputType) (value : R) (state : StateManager)
    (idleThrottle : R) (spinWhenArmed : Bool) : R :=
  match outputType with
  | .aux => FlightFloat.zero
  | .servo =>
    FlightFloat.clamp value (FlightFloat.lit (-1)) FlightFloat.one * FlightFloat.half +
      FlightFloat.half
  | .gpio => if FlightFloat.lt FlightFloat.zero value then FlightFloat.one else FlightFloat.zero
  | .motor =>
    if !state.isArmed then FlightFloat.zero
    else if FlightFloat.lt FlightFloat.one value then FlightFloat.one
    else if FlightFloat.lt value idleThrottle && spinWhenArmed then idleThrottle
    else if FlightFloat.lt value FlightFloat.zero then FlightFloat.zero
    else value

/-- Physical value of every channel, from the mixer's and the auxiliary commands. -/
def composePwmOutputs (primaryCommands : List R) (primaryOutputTypes : List MixerOutputType)
    (auxCommand : Option (RosflightAuxCmdMsg F)) (state : StateManager) (params : Params F) :
    Vector R PWM_OUTPUT_CHANNELS :=
  let idleThrottle : R :=
    match params.getById .PARAM_MOTOR_IDLE_THROTTLE with
    | .float value => FloatCast.fromF32 value
    | _ => FlightFloat.zero
  let spinWhenArmed := params.isNonzeroInt .PARAM_SPIN_MOTORS_WHEN_ARMED
  let channelOutputMask := params.intOr .PARAM_CHANNEL_OUTPUT_MASK 0
  Vector.ofFn fun channel =>
    let resolved := outputForChannel primaryCommands primaryOutputTypes auxCommand channel
    if !state.isArmed then safeDisarmedCommand resolved.1
    else if !channelOutputEnabled channelOutputMask channel then safeDisarmedCommand resolved.1
    else rawOutputForType resolved.1 resolved.2 state idleThrottle spinWhenArmed

end Veloxity
