import Veloxity.Boards.ServoDriver

/-! The outputs of the simulated board, which the simulator reads as pulse widths. -/

namespace Veloxity

/-- The cast of a number to a 16-bit word, which drops the fraction and saturates. -/
class CastU16 (R : Type) where
  castU16 : R → UInt16

instance : CastU16 ℚ where
  castU16 value := UInt16.ofNat (min ⌊value⌋.toNat 65535)

/-- Number of outputs of the simulated board. -/
def NUM_PWM_CHANNELS : Nat := 14

/-- Pulse widths of the outputs, and how each output is driven. -/
structure FfiPwmDriver (R : Type) where
  outputs : Vector UInt16 NUM_PWM_CHANNELS
  outputRatesHz : Vector R NUM_PWM_CHANNELS
  outputProtocols : Vector PwmOutputProtocol NUM_PWM_CHANNELS

namespace FfiPwmDriver

variable {R : Type}

/-- A driver with its outputs at rest. -/
def new [FlightFloat R] : FfiPwmDriver R where
  outputs := Vector.replicate NUM_PWM_CHANNELS 1000
  outputRatesHz := Vector.replicate NUM_PWM_CHANNELS (FlightFloat.lit 50)
  outputProtocols := Vector.replicate NUM_PWM_CHANNELS .standardPwm

/-- Set the pulse width of one output. -/
def setPwm (driver : FfiPwmDriver R) (channel : Nat) (pwmUs : UInt16) :
    FfiPwmDriver R × Except PwmError Unit :=
  if within : channel < NUM_PWM_CHANNELS then
    ({ driver with outputs := driver.outputs.set channel pwmUs within }, .ok ())
  else (driver, .error .channelOutOfRange)

/-- Treat the values of the channels from one on, up to the first that is refused. -/
def forChannels {α : Type}
    (treat : FfiPwmDriver R → Nat → α → FfiPwmDriver R × Except PwmError Unit) :
    FfiPwmDriver R → Nat → List α → FfiPwmDriver R × Except PwmError Unit
  | driver, _, [] => (driver, .ok ())
  | driver, channel, value :: rest =>
    match treat driver channel value with
    | (driver, .ok ()) => forChannels treat driver (channel + 1) rest
    | (driver, .error reason) => (driver, .error reason)

/-- Record the rate of one output, and the protocol it stands for. -/
def configureOutputRate [FlightFloat R] (driver : FfiPwmDriver R) (index : Nat) (rate : R) :
    FfiPwmDriver R × Except PwmError Unit :=
  match outputProtocolForRate rate with
  | .error reason => (driver, .error reason)
  | .ok protocol =>
    -- The protocol is written before the rate is settled.
    let recorded :=
      { driver with outputProtocols := driver.outputProtocols.setIfInBounds index protocol }
    match effectiveOutputRateHz rate with
    | .error reason => (recorded, .error reason)
    | .ok rate =>
      ({ recorded with outputRatesHz := driver.outputRatesHz.setIfInBounds index rate }, .ok ())

/-- Protocol of one output. -/
def outputProtocol (driver : FfiPwmDriver R) (channel : Nat) : Except PwmError PwmOutputProtocol :=
  match driver.outputProtocols[channel]? with
  | some protocol => .ok protocol
  | none => .error .channelOutOfRange

/-- Drive one output with a command from zero to one. -/
def sendCommand [FlightFloat R] [CastU16 R] (driver : FfiPwmDriver R) (channel : Nat)
    (command : R) : FfiPwmDriver R × Except PwmError Unit :=
  driver.setPwm channel (CastU16.castU16 (FlightFloat.lit 1000 +
    FlightFloat.clamp command (FlightFloat.lit 0) (FlightFloat.lit 1) * FlightFloat.lit 1000))

/-- Drive one output with its resting value, which the digital protocol does not scale. -/
def sendDisarmedCommand [FlightFloat R] [CastU16 R] (driver : FfiPwmDriver R) (channel : Nat)
    (outputType : MixerOutputType) : FfiPwmDriver R × Except PwmError Unit :=
  let command : R := safeDisarmedCommand outputType
  match driver.outputProtocol channel with
  | .error reason => (driver, .error reason)
  | .ok .standardPwm =>
    driver.setPwm channel
      (CastU16.castU16 (FlightFloat.lit 1000 + command * FlightFloat.lit 1000))
  | .ok .dshot =>
    let output := if outputType = .motor then FlightFloat.lit 0 else command
    driver.setPwm channel (CastU16.castU16 output)

instance [FlightFloat R] [CastU16 R] : PwmDriver R (FfiPwmDriver R) where
  len _ := NUM_PWM_CHANNELS
  isEnabled _ := true
  enable driver channel :=
    (driver, if NUM_PWM_CHANNELS ≤ channel then .error .channelOutOfRange else .ok ())
  disable driver channel := driver.setPwm channel 1000
  enableAll driver := (driver, .ok ())
  disableAll driver := { driver with outputs := Vector.replicate NUM_PWM_CHANNELS 1000 }
  flush driver := driver
  configureOutputRates driver ratesHz :=
    driver.forChannels configureOutputRate 0 (ratesHz.take NUM_PWM_CHANNELS)
  sendCommands driver commands :=
    driver.forChannels sendCommand 0 (commands.take NUM_PWM_CHANNELS)
  sendDisarmedCommands driver outputTypes :=
    driver.forChannels sendDisarmedCommand 0 (outputTypes.take NUM_PWM_CHANNELS)

end FfiPwmDriver

end Veloxity
