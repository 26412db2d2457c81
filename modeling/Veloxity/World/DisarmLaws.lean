import Veloxity.Pwm.SwitchedDriver
import Veloxity.World.Bench
import Veloxity.World.StageEffects

/-! Whether disarming stops the outputs, pass by pass. -/

namespace Veloxity

variable {F R S O E C M : Type}

namespace World

section Frames

variable {D : Type} [FlightFloat F] [FlightFloat R] [FloatCast F R] [ReflectionFormat F]
  [Estimator F R S E] [Controller F R S O C] [Mixer F R O M]

omit [FlightFloat R] [FloatCast F R] in
/-- The communication stage keeps the outputs. -/
theorem communication_outputs (world : World F R E C M D) (input : CommStageInput F) :
    (world.runCommunicationAndParameterServiceStage input).pwm = world.pwm ∧
      (world.runCommunicationAndParameterServiceStage input).pwmOutput = world.pwmOutput := by
  -- Reactions reach neither the driver nor its mask.
  have before := (requestGyroCalibrationIfNeeded_flightPart _).trans
    (serveReceived_flightPart world input)
  have driver := congrArg FlightPart.pwm before
  have mask := congrArg FlightPart.pwmOutput before
  unfold runCommunicationAndParameterServiceStage
  simp only
  split
  · exact ⟨driver, mask⟩
  · exact ⟨driver, mask⟩

omit [ReflectionFormat F] [Controller F R S O C] [Mixer F R O M] in
/-- The sensor stage keeps the outputs. -/
theorem sensors_outputs (world : World F R E C M D) (input : SensorStageInput F R)
    (log : Option StatustextMsg) :
    (world.runSensorIngestionAndHealthStage input log).pwm = world.pwm ∧
      (world.runSensorIngestionAndHealthStage input log).pwmOutput = world.pwmOutput := by
  have senses := world.senses_processSensorBusAfterUpdate input.raw input.nowMs
  obtain ⟨state, calFlags, settled⟩ := ((world.processSensorBusAfterUpdate input.raw
    input.nowMs).noteSensorHealth input.nowUs).settleArmCalibration_eq
  obtain ⟨commEvents, drained⟩ := drainLogs_eq
    ((world.processSensorBusAfterUpdate input.raw input.nowMs).updateSensorHealthAndCalibration
      input.nowUs) log
  -- Health, calibration and responses reach neither the driver nor its mask.
  unfold runSensorIngestionAndHealthStage drainLogsAndSendResponses
  dsimp only
  rw [drained, updateSensorHealthAndCalibration, settled]
  exact senses.outputs

end Frames

section Pipeline

variable [FlightFloat F] [FlightFloat R] [FloatCast F R] [Estimator F R S E]
  [Controller F R S O C] [Mixer F R O M]

/-- An accepted sample ends with a write under the state it leaves. -/
theorem runControl_writes (pipeline : ControlPipeline F E C M (SwitchedDriver R))
    (input : ControlPipelineInput F R) (dt : R) :
    ∃ (commands : Vector R PWM_OUTPUT_CHANNELS) (outputTypes : List MixerOutputType),
      (pipeline.runControl input dt).pwm = (writePwmCommands pipeline.pwm input.pwmOutput
        commands.toList outputTypes (pipeline.runControl input dt).state).1 := by
  -- The driver takes any rates without a change.
  have configured (mixed : ControlPipeline F E C M (SwitchedDriver R)) :
      mixed.configureRates.pwm = mixed.pwm := by
    unfold ControlPipeline.configureRates
    split
    · rfl
    · rfl
  have written (mixed : ControlPipeline F E C M (SwitchedDriver R)) (mixes : List R) :
      ∃ (commands : Vector R PWM_OUTPUT_CHANNELS) (outputTypes : List MixerOutputType),
        (mixed.writeOutputs input mixes).pwm = (writePwmCommands mixed.pwm input.pwmOutput
          commands.toList outputTypes (mixed.writeOutputs input mixes).state).1 :=
    ⟨_, _, rfl⟩
  have mixed : ((pipeline.estimateAttitude input dt).1.controlAndMix input dt
      (pipeline.estimateAttitude input dt).2).1.pwm = pipeline.pwm := rfl
  obtain ⟨commands, outputTypes, same⟩ := written ((pipeline.estimateAttitude input
    dt).1.controlAndMix input dt (pipeline.estimateAttitude input dt).2).1.configureRates
    ((pipeline.estimateAttitude input dt).1.controlAndMix input dt
      (pipeline.estimateAttitude input dt).2).2
  rw [configured, mixed] at same
  exact ⟨commands, outputTypes, same⟩

end Pipeline

section Pass

variable [FlightFloat F] [FlightFloat R] [FloatCast F R] [Estimator F R S E]
  [Controller F R S O C] [Mixer F R O M]

/-- The control stage takes the held sample, which is newer than a last one it knows. -/
def AcceptsSample {D : Type} (world : World F R E C M D) : Prop :=
  world.controlPipeline.lastImuTime ≠ 0 ∧ ∃ imu, world.processedSensors.imu = some imu ∧
    world.controlPipeline.lastImuTime < imu.header.timestamp

/-- A refused sample leaves the driver alone. -/
theorem control_refused {world : World F R E C M (SwitchedDriver R)}
    (refused : ¬ world.AcceptsSample) :
    world.runControlAndMixingStageIfNewImu.1.pwm = world.pwm := by
  show (world.pipeline.runControlPipelineIfNewImu world.pipelineInput).1.pwm = world.pipeline.pwm
  unfold ControlPipeline.runControlPipelineIfNewImu
  -- Each early exit leaves before the write.
  split
  · rfl
  · rename_i imu held
    dsimp only
    split_ifs with first stale
    · rfl
    · rfl
    · exact absurd ⟨first, imu, held, Nat.lt_of_not_le stale⟩ refused

/-- An accepted sample ends with a write under the state it leaves. -/
theorem control_accepted {world : World F R E C M (SwitchedDriver R)}
    (accepted : world.AcceptsSample) :
    ∃ (commands : Vector R PWM_OUTPUT_CHANNELS) (outputTypes : List MixerOutputType),
      world.runControlAndMixingStageIfNewImu.1.pwm = (writePwmCommands world.pwm world.pwmOutput
        commands.toList outputTypes world.runControlAndMixingStageIfNewImu.1.state).1 := by
  obtain ⟨known, imu, held, newer⟩ := accepted
  -- None of the early exits is taken.
  have ran : world.pipeline.runControlPipelineIfNewImu world.pipelineInput =
      ((world.pipeline.acceptSample world.params imu.header.timestamp).runControl
        world.pipelineInput (ControlPipeline.sampleInterval imu.header.timestamp
          world.controlPipeline.lastImuTime), true) := by
    unfold ControlPipeline.runControlPipelineIfNewImu
    rw [show (world.pipelineInput : ControlPipelineInput F R).sensors.imu = some imu from held]
    dsimp only
    rw [if_neg (show ¬ world.pipeline.resource.lastImuTime = 0 from known),
      if_neg (show ¬ imu.header.timestamp ≤ world.pipeline.resource.lastImuTime from
        Nat.not_le_of_lt newer)]
    rfl
  show ∃ (commands : Vector R PWM_OUTPUT_CHANNELS) (outputTypes : List MixerOutputType),
    (world.pipeline.runControlPipelineIfNewImu world.pipelineInput).1.pwm = (writePwmCommands
      world.pwm world.pwmOutput commands.toList outputTypes
        (world.pipeline.runControlPipelineIfNewImu world.pipelineInput).1.state).1
  rw [ran]
  exact runControl_writes _ _ _

variable [ReflectionFormat F]

/-- A disarmed vehicle has no channel on that was last handed a live command. -/
def OutputsStopped (world : World F R E C M (SwitchedDriver R)) : Prop :=
  world.state.isArmed = false → ∀ channel, ¬ world.pwm.Live channel

/-- A pass up to its control stage, with the commands resolved and the channels switched. -/
def resolvedPass {D : Type} [PwmDriver R D] (world : World F R E C M D) (input : PassInput F R) :
    World F R E C M D :=
  let served := world.runCommunicationAndParameterServiceStage input.communication
  let sensed := served.runSensorIngestionAndHealthStage input.sensors input.log
  sensed.runRcCommandStateStages input.rcMs sensed.processedSensors.rc

/-- A pass that finds the vehicle disarmed over a live channel has a sample to run control on. -/
def StopsInTime (world : World F R E C M (SwitchedDriver R)) (input : PassInput F R) : Prop :=
  (world.resolvedPass input).state.isArmed = false →
    (∃ channel, (world.resolvedPass input).pwm.Live channel) →
      (world.resolvedPass input).AcceptsSample

/-- The driver's channels are as the firmware believes. -/
def OutputsTracked (world : World F R E C M (SwitchedDriver R)) : Prop :=
  world.pwm.Tracked world.pwmOutput

/-- Up to the control stage the outputs stay tracked. -/
theorem OutputsTracked.resolvedPass {world : World F R E C M (SwitchedDriver R)}
    (tracked : world.OutputsTracked) (input : PassInput F R) :
    (world.resolvedPass input).OutputsTracked := by
  obtain ⟨driver, mask⟩ := world.communication_outputs input.communication
  obtain ⟨sensedDriver, sensedMask⟩ := (world.runCommunicationAndParameterServiceStage
    input.communication).sensors_outputs input.sensors input.log
  have sensed : ((world.runCommunicationAndParameterServiceStage
      input.communication).runSensorIngestionAndHealthStage input.sensors
      input.log).OutputsTracked := by
    unfold OutputsTracked
    rw [sensedDriver, sensedMask, driver, mask]
    exact tracked
  unfold World.resolvedPass
  dsimp only
  generalize (world.runCommunicationAndParameterServiceStage
    input.communication).runSensorIngestionAndHealthStage input.sensors input.log = before
    at sensed ⊢
  -- Resolving commands leaves the outputs to the switching.
  obtain ⟨pass, params, paramEvents, -, -, passed⟩ :=
    before.runRcCommandState_eq input.rcMs before.processedSensors.rc
  unfold runRcCommandStateStages
  rw [passed]
  exact sensed.sync _ _

omit [ReflectionFormat F] in
/-- Telemetry after the control stage leaves the outputs and the state to it. -/
theorem control_telemetry_outputs (world : World F R E C M (SwitchedDriver R)) (nowUs : Nat) :
    let ended := world.runControlAndMixingStageIfNewImu.1.runTelemetryStage nowUs
    ended.pwm = world.runControlAndMixingStageIfNewImu.1.pwm ∧
      ended.state = world.runControlAndMixingStageIfNewImu.1.state ∧
      ended.pwmOutput = world.pwmOutput := by
  -- Telemetry only sends.
  have told (ran : World F R E C M (SwitchedDriver R)) :
      ∃ comm, ran.runTelemetryStage nowUs = { ran with comm } := by
    unfold runTelemetryStage
    split
    · exact ⟨ran.comm, rfl⟩
    · exact ⟨_, rfl⟩
  obtain ⟨comm, same⟩ := told world.runControlAndMixingStageIfNewImu.1
  intro ended
  rw [show ended = _ from same]
  exact ⟨rfl, rfl, rfl⟩

/-- The control and telemetry stages end a pass. -/
theorem runOnce_outputs (world : World F R E C M (SwitchedDriver R)) (input : PassInput F R) :
    (world.runOnce input).pwm = (world.resolvedPass input).runControlAndMixingStageIfNewImu.1.pwm ∧
      (world.runOnce input).state =
        (world.resolvedPass input).runControlAndMixingStageIfNewImu.1.state ∧
      (world.runOnce input).pwmOutput = (world.resolvedPass input).pwmOutput :=
  control_telemetry_outputs (world.resolvedPass input) input.telemetryUs

/-- A whole pass keeps the outputs tracked. -/
theorem OutputsTracked.runOnce {world : World F R E C M (SwitchedDriver R)}
    (tracked : world.OutputsTracked) (input : PassInput F R) :
    (world.runOnce input).OutputsTracked := by
  obtain ⟨driver, -, mask⟩ := world.runOnce_outputs input
  have resolved := tracked.resolvedPass input
  unfold OutputsTracked
  rw [driver, mask]
  -- Only an accepted sample writes outputs.
  by_cases accepted : (world.resolvedPass input).AcceptsSample
  · obtain ⟨commands, outputTypes, written⟩ := control_accepted accepted
    rw [written]
    exact resolved.write commands outputTypes _
  · rw [control_refused accepted]
    exact resolved

/-- While the outputs are tracked, a pass leaves a disarmed vehicle's outputs stopped exactly when
it has a sample to stop them on. -/
theorem outputsStopped_runOnce_iff {world : World F R E C M (SwitchedDriver R)}
    (tracked : world.OutputsTracked) (input : PassInput F R) :
    (world.runOnce input).OutputsStopped ↔ world.StopsInTime input := by
  obtain ⟨driver, state, -⟩ := world.runOnce_outputs input
  have resolved := tracked.resolvedPass input
  -- The pipeline only raises and clears errors.
  have armed : (world.runOnce input).state.isArmed = (world.resolvedPass input).state.isArmed := by
    rw [state]
    exact (evolves_runControlPipelineIfNewImu (world.resolvedPass input).pipeline _).isArmed_eq
  unfold OutputsStopped StopsInTime
  rw [armed]
  refine forall_congr' fun disarmed => ?_
  rw [driver]
  constructor
  · rintro stopped ⟨channel, live⟩
    by_contra refused
    rw [control_refused refused] at stopped
    exact stopped channel live
  · intro stops channel live
    by_cases accepted : (world.resolvedPass input).AcceptsSample
    · obtain ⟨commands, outputTypes, written⟩ := control_accepted accepted
      rw [written] at live
      rw [state] at armed
      exact resolved.not_live_of_write _ outputTypes (armed.trans disarmed) channel live
    · rw [control_refused accepted] at live
      exact accepted (stops ⟨channel, live⟩)

omit [Mixer F R O M] in
/-- The outputs are tracked from the start. -/
theorem outputsTracked_init (params : Params F) (estimator : E) (controller : C) (mixer : M)
    (channels : Nat) (enabled : Nat → Bool) (nowUs : Nat) (backup : Option RosflightHardErrorMsg) :
    (World.init params .new estimator controller mixer (SwitchedDriver.new channels enabled)
      nowUs backup).OutputsTracked :=
  SwitchedDriver.tracked_start channels enabled _

/-- In every run of passes, outputs are stopped whenever the vehicle is disarmed if and only if
every pass that finds it disarmed over a live channel has a sample to run control on. -/
theorem outputsStopped_along_iff (params : Params F) (estimator : E) (controller : C) (mixer : M)
    (channels : Nat) (enabled : Nat → Bool) (nowUs : Nat) (backup : Option RosflightHardErrorMsg)
    (passes : List (PassInput F R)) :
    Library.Along (fun world input => (world.runOnce input).OutputsStopped) runOnce
        (World.init params .new estimator controller mixer (SwitchedDriver.new channels enabled)
          nowUs backup) passes ↔
      Library.Along StopsInTime runOnce
        (World.init params .new estimator controller mixer (SwitchedDriver.new channels enabled)
          nowUs backup) passes :=
  Library.along_congr OutputsTracked (fun _ input tracked => tracked.runOnce input)
    (fun _ input tracked => outputsStopped_runOnce_iff tracked input)
    (outputsTracked_init params estimator controller mixer channels enabled nowUs backup) passes

end Pass

end World

/-- Parameters of a calibrated quadrotor that is armed by a switch. -/
def quadParams : Params ℚ := switchParams.setById .PARAM_PRIMARY_MIXER (.int 2)

/-- A quadrotor on the bench as it starts, with its eight channels switched off. -/
def benchQuad : World ℚ ℚ (IdleEstimator ℚ ℚ) (IdleController ℚ ℚ) (MatrixMixer ℚ ℚ)
    (SwitchedDriver ℚ) :=
  World.init quadParams .new .mk .mk (.new quadParams) (.new 8 fun _ => false) 0 none

/-- A pass that hears the arming switch, with or without an inertial sample. -/
def switchPass (nowUs : Nat) (imu : Option (ImuPacket ℚ ℚ)) (switchOn : Bool) : PassInput ℚ ℚ where
  communication :=
    { incoming := [], clock := { timesyncUs := nowUs, offboardUs := nowUs }
      storage := { readParams := fun _ params => (params, false), writeParams := fun _ _ => false }
      reactionUs := nowUs }
  sensors :=
    { nowUs, nowMs := nowUs / 1000
      raw := { imu := imu.map .ok, rc := some (.ok (switchSample nowUs switchOn)) } }
  log := none
  rcMs := nowUs / 1000
  telemetryUs := nowUs

/-- The quadrotor is armed with a sample to run control on. -/
def armedRun : List (PassInput ℚ ℚ) :=
  [switchPass 1000 (some (restingSample 1000)) false,
    switchPass 2000 (some (restingSample 2000)) true]

/-- Disarming without a sample leaves a motor at its idle throttle. -/
theorem armedRun_not_stopped :
    ¬ Library.Along (fun world input => (world.runOnce input).OutputsStopped) World.runOnce
      benchQuad (armedRun ++ [switchPass 3000 none false]) := by
  have evaluated (world : World ℚ ℚ (IdleEstimator ℚ ℚ) (IdleController ℚ ℚ) (MatrixMixer ℚ ℚ)
      (SwitchedDriver ℚ)) (reached : (Library.run World.runOnce benchQuad armedRun).runOnce
        (switchPass 3000 none false) = world) :
      world.state.isArmed = false ∧ (0 < world.pwm.channels ∧ world.pwm.enabled 0 = true) ∧
        world.pwm.handed 0 = some (.command (1 / 10)) := by
    rw [← reached]
    decide +kernel
  obtain ⟨disarmed, on, handed⟩ := evaluated _ rfl
  intro stops
  -- The last pass finds the vehicle disarmed and the first motor live.
  have stopped := ((Library.along_append armedRun [switchPass 3000 none false]).mp stops).2.1
  exact stopped disarmed 0 ⟨on, 1 / 10, handed⟩

end Veloxity
