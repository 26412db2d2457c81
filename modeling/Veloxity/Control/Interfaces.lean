import Veloxity.Command.Manager
import Veloxity.Sensors.Bus

/-! What an estimator and a controller offer to the control pipeline. -/

namespace Veloxity

/-- Surroundings an estimation reads. -/
structure EstimatorCtx (F R : Type) where
  sensors : ProcessedSensors F R
  params : Params F
  dt : R
  externalAttitude : Option (ExternalAttitudeMsg F)

/-- An estimator of the attitude. -/
class Estimator (F R State : outParam Type) (E : Type) where
  /-- One estimation. -/
  estimate : E → EstimatorCtx F R → E × State
  /-- An estimate can be flown on. -/
  isHealthy : State → Bool
  /-- React to changed parameters. -/
  updateParams : E → Params F → E := fun estimator _ => estimator
  /-- Forget everything. -/
  reset : E → E := fun estimator => estimator
  /-- Forget the adapted biases. -/
  resetAdaptiveBias : E → E := fun estimator => estimator

/-- Surroundings a control step reads. -/
structure ControllerCtx (F R : Type) where
  stateManager : StateManager
  command : CombinedControl F
  params : Params F
  airDensity : R
  dt : R

/-- A controller, which reads the state manager without changing it. -/
class Controller (F R State Output : outParam Type) (C : Type) where
  /-- One control step. -/
  control : C → State → ControllerCtx F R → C × Output
  /-- React to changed parameters. -/
  updateGains : C → Params F → C
  /-- Torques that hold the vehicle still at the current sticks. -/
  calculateEquilibriumTorquesFromRc : C → CombinedControl F → Params F → C × (Fin 3 → F)

end Veloxity
