import Veloxity.Mixer.Interface

/-! Output drivers, and the values that keep a disarmed vehicle still. -/

namespace Veloxity

/-- Reasons a driver can refuse a call. -/
inductive PwmError where
  | channelOutOfRange | genericError | invalidRate | unsupportedProtocol
  deriving DecidableEq, Repr

/-- Number of physical output channels the firmware composes values for. -/
def PWM_OUTPUT_CHANNELS : Nat := 14

variable {R D : Type}

/-- Resting value of an output, chosen by what it drives. -/
def safeDisarmedCommand [FlightFloat R] (outputType : MixerOutputType) : R :=
  match outputType with
  | .motor | .gpio => FlightFloat.zero
  | .aux | .servo => FlightFloat.half

/-- Resting values of all channels, with the unowned ones centred. -/
def disarmedCommands [FlightFloat R] (len : Nat) (outputTypes : List MixerOutputType) :
    Vector R PWM_OUTPUT_CHANNELS :=
  Vector.ofFn fun channel =>
    if channel.val < len then safeDisarmedCommand (outputTypes.getD channel .aux)
    else FlightFloat.half

/-- A driver of the physical outputs, whose calls may fail after changing it. -/
class PwmDriver (R : outParam Type) [FlightFloat R] (D : Type) where
  /-- Number of channels. -/
  len : D → Nat
  /-- Every channel is on. -/
  isEnabled : D → Bool
  /-- Switch one channel on. -/
  enable : D → Nat → D × Except PwmError Unit
  /-- Switch one channel off. -/
  disable : D → Nat → D × Except PwmError Unit
  /-- Switch every channel on. -/
  enableAll : D → D × Except PwmError Unit
  /-- Switch every channel off. -/
  disableAll : D → D
  /-- Push the current values out. -/
  flush : D → D
  /-- Set the update rates of the mixer's channels. -/
  configureOutputRates : D → List R → D × Except PwmError Unit := fun driver _ => (driver, .ok ())
  /-- Hand over one value for each channel. -/
  sendCommands : D → List R → D × Except PwmError Unit
  /-- Hand over the resting value of each channel. -/
  sendDisarmedCommands : D → List MixerOutputType → D × Except PwmError Unit :=
    fun driver outputTypes =>
      sendCommands driver (disarmedCommands (len driver) outputTypes).toList

end Veloxity
