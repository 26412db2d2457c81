import Veloxity.Comm.Manager
import Veloxity.Command.Service
import Veloxity.Control.Pipeline
import Veloxity.Sensors.Ingestion

/-! The firmware's whole state, and how it starts. -/

namespace Veloxity

/-- The firmware's whole state, with the calls it has made on the board. -/
structure World (F R E C M D : Type) where
  params : Params F
  paramListState : ParamListState
  paramEvents : ParamEventQueues F
  commEvents : CommEventQueues F
  commandEvents : CommandEventQueues F
  companionEvents : CompanionEventQueues F
  companionLink : CompanionLinkState
  pendingHardError : Option RosflightHardErrorMsg
  auxCommand : Option (RosflightAuxCmdMsg F)
  externalAttitude : Option (ExternalAttitudeMsg F)
  comm : CommManager F
  processedSensors : ProcessedSensors F R
  controlImuAccumulator : ImuSampleAccumulator F R
  sensorProcessors : SensorProcessorSet F R
  rc : Rc F
  command : CommandManager F
  state : StateManager
  calFlags : CalibrationFlags
  estimator : E
  controller : C
  mixer : M
  controlPipeline : ControlPipelineResource
  pwmOutput : PwmOutputState
  pwm : D
  lastImuSeen : Nat
  controlHz : Nat
  lastControlUpdateUs : Nat
  lastRealtimeControlUs : Nat
  nextRealtimeServiceUs : Nat
  boardCalls : List (BoardCall F)

namespace World

variable {F R S O E C M D : Type}

/-- Re-arm at once when the last reset was a hard fault in flight. -/
def rearmAfterHardfault (backup : Option RosflightHardErrorMsg) (params : Params F)
    (state : StateManager) : StateManager :=
  match backup with
  | some msg => if msg.doRearm ≠ 0 then state.update .HARDFAULT_REARM_REQUESTED params else state
  | none => state

variable [FlightFloat F]

/-- State manager after initialisation, with the calibration interlock checked. -/
def interlockedState (params : Params F) (state : StateManager) : StateManager :=
  initializeImuCalibrationError (state.update .INITIALIZED params) params

variable [ReflectionFormat F]

/-- Stored parameters with the canned mixers reflected into them. -/
def initialParams (params : Params F) : Params F :=
  syncReflectedMixerParams (syncReflectedMixerParams params .PARAM_PRIMARY_MIXER)
    .PARAM_SECONDARY_MIXER

variable [FlightFloat R] [FloatCast F R] [Estimator F R S E] [Controller F R S O C]
  [PwmDriver R D]

/-- The firmware as it starts, from the stored parameters and the backup memory. -/
def init (params : Params F) (state : StateManager) (estimator : E) (controller : C) (mixer : M)
    (pwm : D) (nowUs : Nat) (backup : Option RosflightHardErrorMsg) : World F R E C M D :=
  let params := initialParams params
  let commanded := CommandManager.new.init params (interlockedState params state)
  { params
    paramListState := {}, paramEvents := {}, commEvents := {}, commandEvents := {}
    companionEvents := {}, companionLink := {}
    pendingHardError := backup
    auxCommand := none, externalAttitude := none
    comm :=
      { CommManager.new nowUs with
        telemetry := (TelemetrySender.new nowUs).configureTelemetryFromParams params }
    processedSensors := {}
    controlImuAccumulator := .new
    sensorProcessors := .new
    rc := Rc.new.init params
    command := commanded.1
    state := rearmAfterHardfault backup params commanded.2
    calFlags := ∅
    estimator := Estimator.updateParams estimator params
    controller := Controller.updateGains controller params
    mixer
    controlPipeline := {}
    pwmOutput := .new (PwmDriver.isEnabled pwm)
    pwm
    lastImuSeen := nowUs
    controlHz := 0
    lastControlUpdateUs := nowUs, lastRealtimeControlUs := nowUs, nextRealtimeServiceUs := nowUs
    boardCalls := [] }

end World

end Veloxity
