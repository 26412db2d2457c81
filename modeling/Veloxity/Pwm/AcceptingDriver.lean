import Veloxity.Pwm.OutputSync

/-! A driver that accepts every call and remembers what each channel was last handed. -/

namespace Veloxity

/-- What a channel was last handed: a live command, or the resting value of an output type. -/
inductive Handed (R : Type) where
  | command (value : R)
  | resting (outputType : MixerOutputType)
  deriving DecidableEq

/-- Physical value a channel was handed. -/
def Handed.value {R : Type} [FlightFloat R] : Handed R → R
  | .command value => value
  | .resting outputType => safeDisarmedCommand outputType

/-- Channels of a driver that never refuses, with their switches and last values. -/
structure AcceptingDriver (R : Type) where
  channels : Nat
  enabled : Nat → Bool
  handed : Nat → Option (Handed R)

namespace AcceptingDriver

variable {R : Type}

/-- A driver nothing has been handed to, with some channels already on. -/
def new (channels : Nat) (enabled : Nat → Bool) : AcceptingDriver R :=
  { channels, enabled, handed := fun _ => none }

/-- Turn one channel's switch. -/
def switch (driver : AcceptingDriver R) (channel : Nat) (on : Bool) : AcceptingDriver R :=
  { driver with enabled := Function.update driver.enabled channel on }

/-- Hand over live commands, as far as both the driver and the commands reach. -/
def take (driver : AcceptingDriver R) (commands : List R) : AcceptingDriver R :=
  { driver with
    handed := fun channel =>
      if channel < driver.channels ∧ channel < commands.length then
        commands[channel]?.map .command
      else driver.handed channel }

/-- Hand over resting values on every channel the firmware composes. -/
def rest (driver : AcceptingDriver R) (outputTypes : List MixerOutputType) : AcceptingDriver R :=
  { driver with
    handed := fun channel =>
      if channel < driver.channels ∧ channel < PWM_OUTPUT_CHANNELS then
        some (.resting (outputTypes.getD channel .aux))
      else driver.handed channel }

end AcceptingDriver

instance {R : Type} [FlightFloat R] : PwmDriver R (AcceptingDriver R) where
  len driver := driver.channels
  isEnabled driver := (List.range driver.channels).all driver.enabled
  enable driver channel := (driver.switch channel true, .ok ())
  disable driver channel := (driver.switch channel false, .ok ())
  enableAll driver := ({ driver with enabled := fun _ => true }, .ok ())
  disableAll driver := { driver with enabled := fun _ => false }
  flush driver := driver
  sendCommands driver commands := (driver.take commands, .ok ())
  sendDisarmedCommands driver outputTypes := (driver.rest outputTypes, .ok ())

namespace AcceptingDriver

variable {R : Type} [FlightFloat R]

/-- A disarmed write hands each composed channel its resting value, and nothing else. -/
theorem write_disarmed (driver : AcceptingDriver R) {output : PwmOutputState} (commands : List R)
    (outputTypes : List MixerOutputType) {state : StateManager}
    (disarmed : state.isArmed = false) (enabled : output.isEnabled = true) :
    (writePwmCommands driver output commands outputTypes state).1 = driver.rest outputTypes := by
  -- The armed branch is not taken, and the driver accepts the call.
  simp only [writePwmCommands, enabled, disarmed, Bool.not_true, Bool.false_eq_true, ↓reduceIte]
  rfl

end AcceptingDriver

end Veloxity
