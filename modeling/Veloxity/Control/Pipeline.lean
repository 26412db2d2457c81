import Veloxity.Control.Interfaces
import Veloxity.Pwm.OutputSync

/-! From a new inertial sample to the values on the outputs. -/

namespace Veloxity

/-- Inertial samples summed since the last control update. -/
structure ImuSampleAccumulator (F R : Type) where
  accelSum : Fin 3 → R
  gyroSum : Fin 3 → R
  temperatureSum : F
  count : Nat
  latestHeader : RosflightPacketHeader
  latestSeq : Nat

namespace ImuSampleAccumulator

variable {F R : Type} [FlightFloat F] [FlightFloat R]

/-- No sample yet. -/
def new : ImuSampleAccumulator F R :=
  { accelSum := fun _ => FlightFloat.zero, gyroSum := fun _ => FlightFloat.zero,
    temperatureSum := FlightFloat.zero, count := 0, latestHeader := {}, latestSeq := 0 }

/-- Some sample has been summed. -/
def hasSamples (accumulator : ImuSampleAccumulator F R) : Bool := accumulator.count != 0

/-- Sum one more sample, with a count that stops at its largest value. -/
def push (accumulator : ImuSampleAccumulator F R) (sample : ImuPacket F R) :
    ImuSampleAccumulator F R :=
  { accelSum := fun axis => accumulator.accelSum axis + sample.accel axis
    gyroSum := fun axis => accumulator.gyroSum axis + sample.gyro axis
    temperatureSum := accumulator.temperatureSum + sample.temperature
    count := min (accumulator.count + 1) 65535
    latestHeader := sample.header, latestSeq := sample.seq }

/-- Mean of the summed samples under the newest header, leaving nothing behind. -/
def takeAverage (accumulator : ImuSampleAccumulator F R) :
    ImuSampleAccumulator F R × Option (ImuPacket F R) :=
  if accumulator.count = 0 then (accumulator, none)
  else
    (new, some
      { header := accumulator.latestHeader
        accel := fun axis => accumulator.accelSum axis / FlightFloat.lit accumulator.count
        gyro := fun axis => accumulator.gyroSum axis / FlightFloat.lit accumulator.count
        temperature := accumulator.temperatureSum / FlightFloat.lit accumulator.count
        seq := accumulator.latestSeq })

end ImuSampleAccumulator

/-- The pipeline's memory of the last sample and of the configured rates. -/
structure ControlPipelineResource where
  lastImuTime : Nat := 0
  pwmRatesConfigured : Bool := false
  deriving DecidableEq, Repr

/-- What a control pass changes. -/
structure ControlPipeline (F E C M D : Type) where
  resource : ControlPipelineResource
  externalAttitude : Option (ExternalAttitudeMsg F)
  state : StateManager
  estimator : E
  controller : C
  mixer : M
  pwm : D

/-- What a control pass reads. -/
structure ControlPipelineInput (F R : Type) where
  params : Params F
  sensors : ProcessedSensors F R
  auxCommand : Option (RosflightAuxCmdMsg F)
  command : CommandManager F
  pwmOutput : PwmOutputState

namespace ControlPipeline

variable {F R S O E C M D : Type}

/-- Accept a sample newer than the last one. -/
def acceptSample (pipeline : ControlPipeline F E C M D) (params : Params F) (currentTime : Nat) :
    ControlPipeline F E C M D :=
  { pipeline with
    resource := { pipeline.resource with lastImuTime := currentTime }
    state := pipeline.state.setErrorFlag ErrorFlag.TIME_GOING_BACKWARDS false params }

variable [FlightFloat R]

/-- Time between two samples in seconds. -/
def sampleInterval (currentTime lastTime : Nat) : R :=
  FlightFloat.lit ((currentTime - lastTime : Nat) : ℚ) * FlightFloat.lit 1e-6

/-- Estimate the attitude and report whether it is healthy. -/
def estimateAttitude [Estimator F R S E] (pipeline : ControlPipeline F E C M D)
    (input : ControlPipelineInput F R) (dt : R) : ControlPipeline F E C M D × S :=
  let estimated := Estimator.estimate pipeline.estimator
    { sensors := input.sensors, params := input.params, dt
      externalAttitude := pipeline.externalAttitude }
  ({ pipeline with
      estimator := estimated.1, externalAttitude := none
      state := pipeline.state.setErrorFlag ErrorFlag.UNHEALTHY_ESTIMATOR
        (!Estimator.isHealthy (E := E) estimated.2) input.params },
    estimated.2)

variable [FloatCast F R]

/-- Compute and mix the control outputs, reporting whether the mixer could be flown. -/
def controlAndMix [FlightFloat F] [Controller F R S O C] [Mixer F R O M]
    (pipeline : ControlPipeline F E C M D) (input : ControlPipelineInput F R) (dt : R)
    (attitude : S) : ControlPipeline F E C M D × List R :=
  let airDensity : R := input.sensors.airDensity
  let controls := Controller.control pipeline.controller attitude
    { stateManager := pipeline.state, command := input.command.combinedControl
      params := input.params, airDensity, dt }
  let mixed := Mixer.mix pipeline.mixer controls.2
    { state := pipeline.state, params := input.params, rcOverride := input.command.getRcOverride
      airDensity
      batteryVoltage := input.sensors.battery.map fun battery => FloatCast.fromF32 battery.voltage }
  ({ pipeline with
      controller := controls.1, mixer := mixed.1
      state := pipeline.state.setErrorFlag ErrorFlag.INVALID_MIXER
        (mixed.2.status = .invalidMixer) input.params },
    mixed.2.commands)

variable [PwmDriver R D]

/-- Give the driver the mixer's update rates until it has taken them. -/
def configureRates [Mixer F R O M] (pipeline : ControlPipeline F E C M D) :
    ControlPipeline F E C M D :=
  if pipeline.resource.pwmRatesConfigured then pipeline
  else
    let configured := PwmDriver.configureOutputRates pipeline.pwm
      (Mixer.defaultPwmRates pipeline.mixer)
    match configured.2 with
    | .ok () =>
      { pipeline with
        pwm := configured.1, resource := { pipeline.resource with pwmRatesConfigured := true } }
    | .error _ => { pipeline with pwm := configured.1 }

/-- Compose the outputs and hand them to the driver. -/
def writeOutputs [Mixer F R O M] (pipeline : ControlPipeline F E C M D)
    (input : ControlPipelineInput F R) (commands : List R) : ControlPipeline F E C M D :=
  let outputTypes := Mixer.outputTypes pipeline.mixer
  let outputs : Vector R PWM_OUTPUT_CHANNELS :=
    composePwmOutputs commands outputTypes input.auxCommand pipeline.state input.params
  { pipeline with
    pwm := (writePwmCommands pipeline.pwm input.pwmOutput outputs.toList outputTypes
      pipeline.state).1 }

variable [FlightFloat F] [Estimator F R S E] [Controller F R S O C] [Mixer F R O M]

/-- Run the pipeline on an accepted sample. -/
def runControl (pipeline : ControlPipeline F E C M D) (input : ControlPipelineInput F R) (dt : R) :
    ControlPipeline F E C M D :=
  let estimated := pipeline.estimateAttitude input dt
  let mixed := estimated.1.controlAndMix input dt estimated.2
  mixed.1.configureRates.writeOutputs input mixed.2

/-- Run the pipeline when there is a sample newer than the last one. -/
def runControlPipelineIfNewImu (pipeline : ControlPipeline F E C M D)
    (input : ControlPipelineInput F R) : ControlPipeline F E C M D × Bool :=
  match input.sensors.imu with
  | none => (pipeline, false)
  | some imuPacket =>
    let currentTime := imuPacket.header.timestamp
    let lastImuTime := pipeline.resource.lastImuTime
    if lastImuTime = 0 then
      -- The first sample only starts the clock.
      ({ pipeline with resource := { pipeline.resource with lastImuTime := currentTime } }, false)
    else if currentTime ≤ lastImuTime then
      ({ pipeline with
          state := pipeline.state.setErrorFlag ErrorFlag.TIME_GOING_BACKWARDS true input.params },
        false)
    else
      ((pipeline.acceptSample input.params currentTime).runControl input
        (sampleInterval currentTime lastImuTime), true)

end ControlPipeline

end Veloxity
