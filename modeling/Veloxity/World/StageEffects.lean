import Veloxity.Sensors.CalibrationLaws
import Veloxity.World.Runs

/-! What one stage can do, in the order in which it does it. -/

namespace Veloxity

open StateManager (Evolves ErrorEvent PilotEvent)

variable {F R S O E C M D : Type}

namespace Stage

/-- The inertial report a stage processes, where nothing at all means no news. -/
def imuReport : Stage F R → RawPacket (ImuPacket F R)
  | .sensors input _ | .serviceSensors input => input.raw.imu
  | .imuTick input => input.raw
  | _ => none

/-- The stage receives a new inertial sample. -/
def receivesImu (stage : Stage F R) : Bool := (takeOkPacket stage.imuReport).isSome

/-- An inertial sample is held once the stage has processed its reports. -/
def holdsImu (held : Bool) (stage : Stage F R) : Bool :=
  match stage with
  | .sensors _ _ | .imuTick _ => stage.receivesImu
  -- A service poll without news keeps the sample held so far.
  | .serviceSensors _ => if stage.imuReport.isSome then stage.receivesImu else held
  | _ => held

end Stage

/-- What processing reports does before the inertial sensor's health is checked. -/
structure Senses (world ready : World F R E C M D) : Prop where
  evolved : Evolves F (ErrorEvent ErrorFlag.UNCALIBRATED_IMU) world.state ready.state
  calibrating : ready.state.isCalibrating = world.state.isCalibrating
  lastImuSeen : ready.lastImuSeen = world.lastImuSeen
  mixer : ready.mixer = world.mixer
  command : ready.command = world.command
  outputs : ready.pwm = world.pwm ∧ ready.pwmOutput = world.pwmOutput
  effect : ∀ touched, otherWindows ⊆ touched → (.gyro ∈ world.calFlags → gyroWindow ⊆ touched) →
    CalibrationEffect touched world.calFlags ready.calFlags world.params ready.params

namespace World

section

variable [FlightFloat F] [FlightFloat R] [FloatCast F R] [Estimator F R S E]

/-- A world with the reports of a stage processed, and when its health is checked. -/
def sensed (world : World F R E C M D) : Stage F R → Option (World F R E C M D × Nat)
  | .sensors input _ =>
    some (world.processSensorBusAfterUpdate input.raw input.nowMs, input.nowUs)
  | .serviceSensors input => some (world.processServiceSensors input, input.nowUs)
  | .imuTick input =>
    some ((world.processImuSensorAfterUpdate input.raw).recordControlImuCandidate, input.nowUs)
  | _ => none

/-- The world right after a stage has checked the inertial sensor's health. -/
def checked (world : World F R E C M D) (stage : Stage F R) : Option (World F R E C M D) :=
  (world.sensed stage).map fun ready => ready.1.noteSensorHealth ready.2

end

section

variable [Estimator F R S E]

/-- Adopting processed samples and finishing calibrations only senses. -/
theorem senses_adoptIngestion (world : World F R E C M D) (done : SensorIngestion F R)
    (paramEvents : ParamEventQueues F)
    (effect : ∀ touched, otherWindows ⊆ touched →
      (.gyro ∈ world.calFlags → gyroWindow ⊆ touched) →
      CalibrationEffect touched world.calFlags done.flags world.params done.params) :
    Senses world ({ world.adoptIngestion done with paramEvents }.finishImuCalibration
      world.calFlags) := by
  -- Finishing replaces nothing that was processed.
  obtain ⟨state, estimator, controlPipeline, finished⟩ := finishImuCalibration_eq
    { world.adoptIngestion done with paramEvents } world.calFlags
  exact
    { evolved := evolves_finishImuCalibration { world.adoptIngestion done with paramEvents } _
      calibrating :=
        isCalibrating_finishImuCalibration { world.adoptIngestion done with paramEvents } _
      lastImuSeen := by rw [finished]; rfl
      mixer := by rw [finished]; rfl
      command := by rw [finished]; rfl
      outputs := by rw [finished]; exact ⟨rfl, rfl⟩
      effect := by rw [finished]; exact effect }

variable [FlightFloat F] [FlightFloat R] [FloatCast F R]

/-- Processing a whole bus only senses. -/
theorem senses_processSensorBusAfterUpdate (world : World F R E C M D) (raw : SensorBus F R)
    (nowMs : Nat) : Senses world (world.processSensorBusAfterUpdate raw nowMs) := by
  -- Publishing a barometer calibration only queues news.
  obtain ⟨paramEvents, published⟩ := publishBaroCalibration_eq
    (world.adoptIngestion (world.ingestion.processSensorBus raw nowMs)) world.calFlags world.params
  unfold processSensorBusAfterUpdate
  dsimp only
  rw [published]
  exact senses_adoptIngestion world _ paramEvents fun touched others gyro =>
    world.ingestion.effect_processSensorBus raw nowMs others gyro

/-- What follows the processing of a whole bus leaves the samples alone. -/
theorem processSensorBusAfterUpdate_processedSensors (world : World F R E C M D)
    (raw : SensorBus F R) (nowMs : Nat) :
    (world.processSensorBusAfterUpdate raw nowMs).processedSensors =
      (world.adoptIngestion (world.ingestion.processSensorBus raw nowMs)).processedSensors := by
  -- A barometer calibration is published and an inertial one finished, neither with the samples.
  obtain ⟨paramEvents, published⟩ := publishBaroCalibration_eq
    (world.adoptIngestion (world.ingestion.processSensorBus raw nowMs)) world.calFlags world.params
  obtain ⟨state, estimator, controlPipeline, finished⟩ := finishImuCalibration_eq
    { world.adoptIngestion (world.ingestion.processSensorBus raw nowMs) with paramEvents }
    world.calFlags
  unfold processSensorBusAfterUpdate
  dsimp only
  rw [published, finished]

/-- A sample is held after a whole bus exactly when its inertial report was one. -/
theorem processSensorBusAfterUpdate_holds (world : World F R E C M D) (raw : SensorBus F R)
    (nowMs : Nat) :
    (world.processSensorBusAfterUpdate raw nowMs).processedSensors.imu.isSome =
      (takeOkPacket raw.imu).isSome := by
  rw [processSensorBusAfterUpdate_processedSensors]
  exact world.ingestion.processSensorBus_holds raw nowMs

/-- Processing an inertial report alone only senses. -/
theorem senses_processImuSensorAfterUpdate (world : World F R E C M D)
    (raw : RawPacket (ImuPacket F R)) : Senses world (world.processImuSensorAfterUpdate raw) :=
  senses_adoptIngestion world (world.ingestion.processImuSensor raw) world.paramEvents
    fun _ others gyro => world.ingestion.effect_processImuSensor raw
      ((show accelWindow ⊆ otherWindows by decide).trans others) gyro

/-- A sample is held after an inertial report exactly when the report was one. -/
theorem processImuSensorAfterUpdate_holds (world : World F R E C M D)
    (raw : RawPacket (ImuPacket F R)) :
    (world.processImuSensorAfterUpdate raw).processedSensors.imu.isSome =
      (takeOkPacket raw).isSome := by
  -- What follows the processing leaves the samples alone.
  obtain ⟨state, estimator, controlPipeline, finished⟩ := finishImuCalibration_eq
    (world.adoptIngestion (world.ingestion.processImuSensor raw)) world.calFlags
  unfold processImuSensorAfterUpdate
  rw [finished]
  exact world.ingestion.processImuSensor_holds raw

omit [Estimator F R S E] [FloatCast F R] in
/-- Summing a sample replaces nothing but the sums. -/
theorem recordControlImuCandidate_eq (world : World F R E C M D) :
    ∃ controlImuAccumulator, world.recordControlImuCandidate =
      { world with controlImuAccumulator } := by
  -- Without a sample nothing is summed.
  unfold recordControlImuCandidate
  split
  · exact ⟨_, rfl⟩
  · exact ⟨world.controlImuAccumulator, rfl⟩

/-- Every sensor stage senses, and holds a sample as its report says. -/
theorem senses_sensed (world : World F R E C M D) (stage : Stage F R) {ready : World F R E C M D}
    {nowUs : Nat} (sensing : world.sensed stage = some (ready, nowUs)) :
    Senses world ready ∧
      ready.processedSensors.imu.isSome = stage.holdsImu world.processedSensors.imu.isSome := by
  cases stage with
  | sensors input log =>
    obtain ⟨rfl, rfl⟩ := Prod.mk.inj (Option.some.inj sensing)
    exact ⟨senses_processSensorBusAfterUpdate world _ _,
      processSensorBusAfterUpdate_holds world _ _⟩
  | serviceSensors input =>
    obtain ⟨rfl, rfl⟩ := Prod.mk.inj (Option.some.inj sensing)
    have senses := senses_processSensorBusAfterUpdate world input.raw input.nowMs
    refine ⟨⟨senses.evolved, senses.calibrating, senses.lastImuSeen, senses.mixer,
      senses.command, senses.outputs, senses.effect⟩, ?_⟩
    -- Only the service poll keeps a sample it has no news of.
    have held := processSensorBusAfterUpdate_holds world input.raw input.nowMs
    show (if input.raw.imu.isSome then
        (world.processSensorBusAfterUpdate input.raw input.nowMs).processedSensors.imu
      else world.processedSensors.imu).isSome = if input.raw.imu.isSome then _ else _
    rw [apply_ite Option.isSome, held]
    rfl
  | imuTick input =>
    obtain ⟨rfl, rfl⟩ := Prod.mk.inj (Option.some.inj sensing)
    obtain ⟨controlImuAccumulator, recorded⟩ :=
      (world.processImuSensorAfterUpdate input.raw).recordControlImuCandidate_eq
    have senses := senses_processImuSensorAfterUpdate world input.raw
    rw [recorded]
    exact ⟨⟨senses.evolved, senses.calibrating, senses.lastImuSeen, senses.mixer,
      senses.command, senses.outputs, senses.effect⟩,
      processImuSensorAfterUpdate_holds world input.raw⟩
  | _ => exact nomatch sensing

end

section Health

/-- A held sample has its time remembered, and clears the report of its absence. -/
theorem noteSensorHealth_of_held {world : World F R E C M D} (nowUs : Nat)
    (held : world.processedSensors.imu.isSome) :
    world.noteSensorHealth nowUs =
      { world with
        state := world.state.setErrorFlag ErrorFlag.IMU_NOT_RESPONDING false world.params
        lastImuSeen := nowUs } := by
  -- The first branch is taken.
  simp [noteSensorHealth, updateSensorHealth, held]

/-- A long absence is reported. -/
theorem noteSensorHealth_of_silent {world : World F R E C M D} {nowUs : Nat}
    (missing : world.processedSensors.imu.isSome = false)
    (late : world.lastImuSeen + IMU_TIMEOUT_US < nowUs) :
    world.noteSensorHealth nowUs =
      { world with
        state := world.state.setErrorFlag ErrorFlag.IMU_NOT_RESPONDING true world.params } := by
  -- The second branch is taken.
  simp [noteSensorHealth, updateSensorHealth, missing, late]

/-- A short absence is let pass. -/
theorem noteSensorHealth_of_recent {world : World F R E C M D} {nowUs : Nat}
    (missing : world.processedSensors.imu.isSome = false)
    (recent : ¬world.lastImuSeen + IMU_TIMEOUT_US < nowUs) :
    world.noteSensorHealth nowUs = world := by
  -- The last branch is taken.
  simp [noteSensorHealth, updateSensorHealth, missing, recent]

/-- The event by which a stage settles the calibration that arming waits for. -/
def armCalibrationEvent (world : World F R E C M D) : Option Event :=
  if world.state.isCalibrating ∧ .gyroFailed ∈ world.calFlags then some .CALIBRATION_FAILED
  else if world.state.isCalibrating ∧ .gyro ∉ world.calFlags then some .CALIBRATION_COMPLETE
  else none

/-- Settling applies its event to the state. -/
theorem settleArmCalibration_state (world : World F R E C M D) :
    world.settleArmCalibration.state =
      match world.armCalibrationEvent with
      | some event => world.state.update event world.params
      | none => world.state := by
  -- The conditions are the same.
  unfold settleArmCalibration armCalibrationEvent
  split
  · rfl
  · split
    · rfl
    · rfl

/-- Settling replaces nothing but the state and the flags. -/
theorem settleArmCalibration_eq (world : World F R E C M D) :
    ∃ state calFlags, world.settleArmCalibration = { world with state, calFlags } := by
  -- Each branch replaces one or both of them.
  unfold settleArmCalibration
  split
  · exact ⟨_, _, rfl⟩
  · split
    · exact ⟨_, world.calFlags, rfl⟩
    · exact ⟨world.state, world.calFlags, rfl⟩

/-- Failure and completion of a calibration are ordinary events. -/
theorem armCalibrationEvent_ordinary {world : World F R E C M D} {event : Event}
    (settles : world.armCalibrationEvent = some event) :
    (∀ flag, event ≠ .ERROR_OCCURRED flag) ∧ ∀ flag, event ≠ .ERROR_CLEARED flag := by
  unfold armCalibrationEvent at settles
  -- Neither of the two events is about errors.
  split_ifs at settles
  · cases settles
    simp
  · cases settles
    simp

/-- Settling keeps every error but the missing calibration. -/
theorem mem_getErrors_settleArmCalibration {kind : ErrorKind} (spared : kind ≠ .uncalibratedImu)
    (world : World F R E C M D) :
    kind ∈ world.settleArmCalibration.state.getErrors ↔ kind ∈ world.state.getErrors := by
  -- At most one ordinary event is applied.
  rw [settleArmCalibration_state]
  cases settles : world.armCalibrationEvent with
  | none => exact Iff.rfl
  | some event =>
    obtain ⟨raised, cleared⟩ := armCalibrationEvent_ordinary settles
    exact StateManager.mem_getErrors_update_of_ordinary spared raised cleared

/-- While only ignorable errors wait to arm, settling keeps every other error. -/
theorem mem_getErrors_settleArmCalibration_of_ignorable {kind : ErrorKind}
    (blocks : kind ≠ .unhealthyEstimator) {world : World F R E C M D}
    (ignorable : world.state.machine.HoldsOnlyIgnorable) :
    kind ∈ world.settleArmCalibration.state.getErrors ↔ kind ∈ world.state.getErrors := by
  -- At most one ordinary event is applied.
  rw [settleArmCalibration_state]
  cases settles : world.armCalibrationEvent with
  | none => exact Iff.rfl
  | some event =>
    obtain ⟨raised, cleared⟩ := armCalibrationEvent_ordinary settles
    exact StateManager.mem_getErrors_update_of_ignorable blocks ignorable raised cleared

end Health

section Control

variable [FlightFloat F] [FlightFloat R] [FloatCast F R] [Estimator F R S E]
  [Controller F R S O C] [Mixer F R O M] [PwmDriver R D]

/-- One run of the control pipeline on a given sample. -/
def controlOn (world : World F R E C M D) (imu : Option (ImuPacket F R)) :
    ControlPipeline F E C M D × Bool :=
  world.pipeline.runControlPipelineIfNewImu
    { (world.pipelineInput : ControlPipelineInput F R) with
      sensors := { world.processedSensors with imu } }

/-- A control part of a stage runs the pipeline at most once. -/
structure ControlsOnce (world : World F R E C M D) (after : World F R E C M D × Bool) : Prop where
  sensors : after.1.processedSensors = world.processedSensors
  lastImuSeen : after.1.lastImuSeen = world.lastImuSeen
  params : after.1.params = world.params
  command : after.1.command = world.command
  ran : (after.1.state = world.state ∧ after.1.mixer = world.mixer ∧ after.2 = false) ∨
    ∃ imu, after.1.state = (world.controlOn imu).1.state ∧
      after.1.mixer = (world.controlOn imu).1.mixer ∧ after.2 = (world.controlOn imu).2

omit [FlightFloat F] [FlightFloat R] [FloatCast F R] [Estimator F R S E] [Controller F R S O C]
  [Mixer F R O M] [PwmDriver R D] in
/-- Moving the deadline on replaces nothing else. -/
theorem consumeControlUpdateDeadline_eq (world : World F R E C M D) (nowUs : Nat) :
    ∃ lastControlUpdateUs, world.consumeControlUpdateDeadline nowUs =
      { world with lastControlUpdateUs } := by
  -- Without a rate there is no deadline.
  unfold consumeControlUpdateDeadline
  split
  · exact ⟨world.lastControlUpdateUs, rfl⟩
  · exact ⟨_, rfl⟩

/-- The control stage runs the pipeline on the held sample. -/
theorem controlsOnce_runControlAndMixingStageIfNewImu (world : World F R E C M D) :
    ControlsOnce world world.runControlAndMixingStageIfNewImu :=
  ⟨rfl, rfl, rfl, rfl, Or.inr ⟨world.processedSensors.imu, rfl, rfl, rfl⟩⟩

/-- The control stage on averaged samples runs the pipeline once, if there are any. -/
theorem controlsOnce_runControlAndMixingStageWithAccumulatedImu (world : World F R E C M D) :
    ControlsOnce world world.runControlAndMixingStageWithAccumulatedImu := by
  unfold runControlAndMixingStageWithAccumulatedImu
  dsimp only
  split
  · exact ⟨rfl, rfl, rfl, rfl, Or.inl ⟨rfl, rfl, rfl⟩⟩
  · -- The mean stands in for the held sample only while the pipeline runs.
    rename_i sample averaged
    exact ⟨rfl, rfl, rfl, rfl, Or.inr ⟨some sample, rfl, rfl, rfl⟩⟩

/-- A control update that is due runs the pipeline once, and any other not at all. -/
theorem controlsOnce_runControlAndMixingStageIfControlDue (world : World F R E C M D)
    (nowUs : Nat) : ControlsOnce world (world.runControlAndMixingStageIfControlDue nowUs) := by
  have idle : ControlsOnce world (world, false) :=
    ⟨rfl, rfl, rfl, rfl, Or.inl ⟨rfl, rfl, rfl⟩⟩
  unfold runControlAndMixingStageIfControlDue
  split
  · split
    · exact idle
    · -- The deadline moves on before the pipeline runs.
      obtain ⟨lastControlUpdateUs, moved⟩ := world.consumeControlUpdateDeadline_eq nowUs
      rw [moved]
      have controls := controlsOnce_runControlAndMixingStageWithAccumulatedImu
        { world with lastControlUpdateUs }
      exact ⟨controls.sensors, controls.lastImuSeen, controls.params, controls.command,
        controls.ran⟩
  · split
    · exact idle
    · exact controlsOnce_runControlAndMixingStageIfNewImu world

/-- A control part of a stage evolves the state by the pipeline's errors. -/
theorem ControlsOnce.evolved {world : World F R E C M D} {after : World F R E C M D × Bool}
    (controls : ControlsOnce world after) :
    Evolves F (ErrorEvent controlErrors) world.state after.1.state := by
  -- A control part that does not run leaves the state alone.
  rcases controls.ran with ⟨same, _, _⟩ | ⟨imu, same, _, _⟩
  · rw [same]
    exact .refl
  · rw [same]
    exact evolves_runControlPipelineIfNewImu world.pipeline _

omit [FlightFloat F] [FlightFloat R] [FloatCast F R] [Estimator F R S E] [Controller F R S O C]
  [Mixer F R O M] [PwmDriver R D] in
/-- Remembering when control last ran replaces nothing else. -/
theorem noteControl_eq (ran : World F R E C M D × Bool) (finishedUs : Nat) :
    ∃ lastRealtimeControlUs, noteControl ran finishedUs =
      { ran.1 with lastRealtimeControlUs } := by
  -- Without a run nothing is remembered.
  unfold noteControl
  split
  · exact ⟨_, rfl⟩
  · exact ⟨ran.1.lastRealtimeControlUs, rfl⟩

end Control

section Rest

variable [FlightFloat F] [FlightFloat R] [FloatCast F R] [ReflectionFormat F] [Estimator F R S E]
  [Controller F R S O C] [Mixer F R O M] [PwmDriver R D]

omit [ReflectionFormat F] in
/-- A stage runs the control pipeline to its end. -/
def controlRan (world : World F R E C M D) : Stage F R → Bool
  | .imuTick input =>
    (((world.processImuSensorAfterUpdate
      input.raw).recordControlImuCandidate.updateSensorHealthAndCalibration
      input.nowUs).runControlAndMixingStageIfControlDue input.nowUs).2
  | .controlUpdate nowUs _ => (world.runControlAndMixingStageIfControlDue nowUs).2
  | .control => world.runControlAndMixingStageIfNewImu.2
  | _ => false

omit [ReflectionFormat F] in
/-- Sending and queueing to the companion is no control part. -/
theorem controlsOnce_comm (world : World F R E C M D) (comm : CommManager F)
    (commEvents : CommEventQueues F) :
    ControlsOnce world ({ world with comm, commEvents }, false) :=
  ⟨rfl, rfl, rfl, rfl, Or.inl ⟨rfl, rfl, rfl⟩⟩

omit [FlightFloat F] [FlightFloat R] [FloatCast F R] [ReflectionFormat F] [Estimator F R S E]
  [Controller F R S O C] [Mixer F R O M] [PwmDriver R D] in
/-- Queueing a log text replaces nothing but the queued responses. -/
theorem drainLogs_eq (world : World F R E C M D) (log : Option StatustextMsg) :
    ∃ commEvents, world.drainLogs log = { world with commEvents } := by
  -- Without a listener or a text nothing is queued.
  unfold drainLogs
  split
  · exact ⟨_, rfl⟩
  · exact ⟨world.commEvents, rfl⟩

/-- What a stage does: it senses, serves the companion, hears the pilot or runs control. -/
inductive StageEffect (world : World F R E C M D) (stage : Stage F R) : Prop
  | sensed (ready : World F R E C M D) (nowUs : Nat)
      (sensing : world.sensed stage = some (ready, nowUs)) (senses : Senses world ready)
      (held : ready.processedSensors.imu.isSome =
        stage.holdsImu world.processedSensors.imu.isSome)
      (rest : ControlsOnce (ready.noteSensorHealth nowUs).settleArmCalibration
        (world.stage stage, world.controlRan stage))
  | served (input : CommStageInput F) (same : stage = .communication input)
  | piloted (nowMs : Nat) (freshRc : Option (RcPacket F)) (same : stage = .rcCommand nowMs freshRc)
  | controlled (idle : world.sensed stage = none) (keeps : ∀ held, stage.holdsImu held = held)
      (rest : ControlsOnce world (world.stage stage, world.controlRan stage))

/-- Every stage does one of these things. -/
theorem stageEffect (world : World F R E C M D) (stage : Stage F R) :
    StageEffect world stage := by
  -- Noting the time of a control update changes nothing that is looked at here.
  have noted {before : World F R E C M D} {ran : World F R E C M D × Bool} (finishedUs : Nat)
      (controls : ControlsOnce before ran) :
      ControlsOnce before (noteControl ran finishedUs, ran.2) := by
    obtain ⟨lastRealtimeControlUs, same⟩ := noteControl_eq ran finishedUs
    rw [same]
    exact ⟨controls.sensors, controls.lastImuSeen, controls.params, controls.command, controls.ran⟩
  cases stage with
  | communication input => exact .served input rfl
  | rcCommand nowMs freshRc => exact .piloted nowMs freshRc rfl
  | sensors input log =>
    obtain ⟨senses, held⟩ := senses_sensed world (.sensors input log) rfl
    obtain ⟨commEvents, drained⟩ := drainLogs_eq
      ((world.processSensorBusAfterUpdate input.raw input.nowMs).updateSensorHealthAndCalibration
        input.nowUs) log
    refine .sensed _ _ rfl senses held ?_
    -- Only the responses are sent after the check.
    show ControlsOnce _ (drainLogsAndSendResponses _ log, false)
    unfold drainLogsAndSendResponses
    rw [drained]
    exact controlsOnce_comm _ _ _
  | serviceSensors input =>
    obtain ⟨senses, held⟩ := senses_sensed world (.serviceSensors input) rfl
    exact .sensed _ _ rfl senses held ⟨rfl, rfl, rfl, rfl, Or.inl ⟨rfl, rfl, rfl⟩⟩
  | imuTick input =>
    obtain ⟨senses, held⟩ := senses_sensed world (.imuTick input) rfl
    exact .sensed _ _ rfl senses held (noted input.finishedUs
      (controlsOnce_runControlAndMixingStageIfControlDue _ input.nowUs))
  | controlUpdate nowUs finishedUs =>
    exact .controlled rfl (fun _ => rfl)
      (noted finishedUs (controlsOnce_runControlAndMixingStageIfControlDue world nowUs))
  | control =>
    exact .controlled rfl (fun _ => rfl) (controlsOnce_runControlAndMixingStageIfNewImu world)
  | telemetry nowUs =>
    refine .controlled rfl (fun _ => rfl) ?_
    show ControlsOnce world (world.runTelemetryStage nowUs, false)
    unfold runTelemetryStage
    split
    · exact controlsOnce_comm world world.comm world.commEvents
    · exact controlsOnce_comm world _ world.commEvents
  | realtimeTelemetry nowUs =>
    exact .controlled rfl (fun _ => rfl) (controlsOnce_comm world _ world.commEvents)
  | responses log maxResponses =>
    obtain ⟨commEvents, drained⟩ := world.drainLogs_eq log
    refine .controlled rfl (fun _ => rfl) ?_
    show ControlsOnce world (world.drainLogsAndSendResponsesLimited log maxResponses, false)
    unfold drainLogsAndSendResponsesLimited
    rw [drained]
    exact controlsOnce_comm world _ _
  | controlRate controlHz nowUs =>
    exact .controlled rfl (fun _ => rfl) ⟨rfl, rfl, rfl, rfl, Or.inl ⟨rfl, rfl, rfl⟩⟩
  | serviceOpportunity nextUs =>
    exact .controlled rfl (fun _ => rfl) ⟨rfl, rfl, rfl, rfl, Or.inl ⟨rfl, rfl, rfl⟩⟩

omit [FlightFloat F] [FlightFloat R] [FloatCast F R] [ReflectionFormat F] [Estimator F R S E]
  [Controller F R S O C] [Mixer F R O M] [PwmDriver R D] in
/-- Settling a calibration evolves the state by at most one event. -/
theorem evolves_settleArmCalibration (world : World F R E C M D) :
    Evolves F (fun _ _ => True) world.state world.settleArmCalibration.state := by
  rw [settleArmCalibration_state]
  split
  · exact .event world.params trivial
  · exact .refl

/-- Every stage evolves the state by events. -/
theorem evolves_stage (world : World F R E C M D) (stage : Stage F R) :
    Evolves F (fun _ _ => True) world.state (world.stage stage).state := by
  have any {permitted : StateManager → Event → Prop} {start finish : StateManager}
      (evolved : Evolves F permitted start finish) : Evolves F (fun _ _ => True) start finish :=
    evolved.mono fun _ _ _ => trivial
  -- The parts of a stage follow each other.
  rcases world.stageEffect stage with
    ⟨ready, nowUs, _, senses, _, rest⟩ | ⟨input, rfl⟩ | ⟨nowMs, freshRc, rfl⟩ | ⟨_, _, rest⟩
  · exact (((any senses.evolved).trans (any (evolves_noteSensorHealth ready nowUs))).trans
      (evolves_settleArmCalibration _)).trans (any rest.evolved)
  · exact any (evolves_communication world input)
  · exact any (evolves_runRcCommandState world nowMs freshRc)
  · exact any rest.evolved

end Rest

section Start

variable [FlightFloat F] [ReflectionFormat F] [FlightFloat R] [FloatCast F R] [Estimator F R S E]
  [Controller F R S O C] [PwmDriver R D]

/-- The start evolves a new state manager by events, the first of which initialises it. -/
theorem evolves_init (params : Params F) (state : StateManager) (estimator : E) (controller : C)
    (mixer : M) (pwm : D) (nowUs : Nat) (backup : Option RosflightHardErrorMsg) :
    Evolves F (fun _ _ => True) (state.update .INITIALIZED (initialParams params))
      (init params state estimator controller mixer pwm nowUs backup :
        World F R E C M D).state := by
  have any {permitted : StateManager → Event → Prop} {start finish : StateManager}
      (evolved : Evolves F permitted start finish) : Evolves F (fun _ _ => True) start finish :=
    evolved.mono fun _ _ _ => trivial
  have rearmed (start : StateManager) : Evolves F (fun _ _ => True) start
      (rearmAfterHardfault backup (initialParams params) start) := by
    unfold rearmAfterHardfault
    split
    · split
      · exact .event (initialParams params) trivial
      · exact .refl
    · exact .refl
  -- The calibration interlock and the failsafe are checked in between.
  exact ((any (StateManager.evolves_setErrorFlag _ _ _ _)).trans
    (any (CommandManager.evolves_updateFailsafeConfig _ _ _))).trans (rearmed _)

end Start

end World

end Veloxity
