import Veloxity.State.Machine

/-! What a mixer offers to the control pipeline. -/

namespace Veloxity

/-- What a physical output channel drives. -/
inductive MixerOutputType where
  | aux | motor | servo | gpio
  deriving DecidableEq, Repr

/-- Whether the configured mixer can be flown. -/
inductive MixerStatus where
  | healthy | invalidMixer
  deriving DecidableEq, Repr

/-- Actuator commands of one mixing pass with the mixer's verdict on itself. -/
structure MixerRun (R : Type) where
  commands : List R
  status : MixerStatus

/-- Surroundings a mixing pass reads. -/
structure MixerCtx (F R : Type) where
  state : StateManager
  params : Params F
  rcOverride : BitVec 16
  airDensity : R
  batteryVoltage : Option R

/-- A mixer turns control outputs into actuator commands and owns some output channels. -/
class Mixer (F R : outParam Type) (Input : outParam Type) (M : Type) where
  /-- One mixing pass. -/
  mix : M → Input → MixerCtx F R → M × MixerRun R
  /-- What each owned channel drives. -/
  outputTypes : M → List MixerOutputType := fun _ => []
  /-- Preferred update rate of each owned channel. -/
  defaultPwmRates : M → List R := fun _ => []
  /-- React to one changed parameter, reporting a status when it mattered. -/
  onParamChanged : M → Params F → ParamId → M × Option MixerStatus := fun mixer _ _ => (mixer, none)
  /-- Rebuild from all parameters, reporting a status when it mattered. -/
  refreshParams : M → Params F → M × Option MixerStatus := fun mixer _ => (mixer, none)

end Veloxity
