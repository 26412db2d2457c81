import Veloxity.Mixer.Matrix
import Veloxity.Pwm.AcceptingDriver
import Veloxity.World.World

/-! A vehicle on the bench, which estimates nothing and asks its outputs for nothing. -/

namespace Veloxity

variable {F R : Type}

/-- An estimator whose estimates say nothing and are always healthy. -/
inductive IdleEstimator (F R : Type) where
  | mk

/-- A controller that asks for no force and no torque. -/
inductive IdleController (F R : Type) where
  | mk

instance : Estimator F R Unit (IdleEstimator F R) where
  estimate estimator _ := (estimator, ())
  isHealthy _ := true

instance [FlightFloat F] [FlightFloat R] :
    Controller F R Unit (ControllerOutput R) (IdleController F R) where
  control controller _ _ := (controller, { u := fun _ => FlightFloat.zero })
  updateGains controller _ := controller
  calculateEquilibriumTorquesFromRc controller _ _ := (controller, fun _ => FlightFloat.zero)

/-- A bench vehicle that flies the mixers of the firmware. -/
abbrev BenchWorld (F R : Type) :=
  World F R (IdleEstimator F R) (IdleController F R) (MatrixMixer F R) (AcceptingDriver R)

section

variable [FlightFloat F] [FlightFloat R] [FloatCast F R] [ReflectionFormat F] [Svd R]

/-- A bench vehicle as it starts, with its channels switched off. -/
def benchWorld (params : Params F) (channels : Nat) : BenchWorld F R :=
  World.init params .new .mk .mk (.new params) (.new channels fun _ => false) 0 none

end

/-- A radio-control sample with centred sticks, the throttle down and one switch. -/
def switchSample [FlightFloat F] (timestamp : Nat) (switchOn : Bool) : RcPacket F where
  header := { timestamp }
  nChan := 6
  chan channel :=
    if channel.val = 2 then FlightFloat.zero
    else if channel.val = 4 then (if switchOn then FlightFloat.one else FlightFloat.zero)
    else FlightFloat.lit 0.5
  lol := false

/-- An inertial sample of a vehicle at rest. -/
def restingSample [FlightFloat F] [FlightFloat R] (timestamp : Nat) : ImuPacket F R where
  header := { timestamp }
  accel _ := FlightFloat.zero
  gyro _ := FlightFloat.zero
  temperature := FlightFloat.zero
  seq := 0

/-- Parameters of a calibrated vehicle that is armed by a switch. -/
def switchParams [FlightFloat F] : Params F :=
  ((Params.new.setById .PARAM_GYRO_X_BIAS (.float (FlightFloat.lit 0.01))).setById
    .PARAM_FAILSAFE_THROTTLE (.float FlightFloat.zero)).setById .PARAM_RC_ARM_CHANNEL (.int 4)

end Veloxity
