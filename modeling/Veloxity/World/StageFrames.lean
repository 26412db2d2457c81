import Veloxity.World.StageEffects

/-! What only serving the companion changes, and what only the control schedule changes. -/

namespace Veloxity

/-- Everything through which the companion is served. -/
structure CompanionPart (F : Type) where
  paramListState : ParamListState
  setRequests : Library.BoundedQueue PARAM_SET_BURST_QUEUE_CAPACITY (ParamSetRequested F)
  readRequests : Library.BoundedQueue PARAM_SET_BURST_QUEUE_CAPACITY ParamIdentifier
  listRequests : Library.BoundedQueue 2 Unit
  commEvents : CommEventQueues F
  commandEvents : CommandEventQueues F
  companionEvents : CompanionEventQueues F
  companionLink : CompanionLinkState
  pendingHardError : Option RosflightHardErrorMsg
  sysid : Nat
  msgs : Messages F
  replies : List (Reply F)

namespace World

variable {F R S O E C M D : Type}

/-- The part of the world that serves the companion. -/
def companionPart (world : World F R E C M D) : CompanionPart F where
  paramListState := world.paramListState
  setRequests := world.paramEvents.setRequests
  readRequests := world.paramEvents.readRequests
  listRequests := world.paramEvents.listRequests
  commEvents := world.commEvents
  commandEvents := world.commandEvents
  companionEvents := world.companionEvents
  companionLink := world.companionLink
  pendingHardError := world.pendingHardError
  sysid := world.comm.sysid
  msgs := world.comm.msgs
  replies := world.comm.replies

/-- The rate of control and the time of its last update. -/
def schedule (world : World F R E C M D) : Nat × Nat := (world.controlHz, world.lastControlUpdateUs)

/-- The companion is served as before, and control is scheduled as before. -/
structure Unserved (before after : World F R E C M D) : Prop where
  companion : after.companionPart = before.companionPart
  schedule : after.schedule = before.schedule

/-- Nothing has happened. -/
theorem Unserved.refl (world : World F R E C M D) : Unserved world world := ⟨rfl, rfl⟩

/-- One thing after another. -/
theorem Unserved.trans {before middle after : World F R E C M D} (first : Unserved before middle)
    (second : Unserved middle after) : Unserved before after :=
  ⟨second.companion.trans first.companion, second.schedule.trans first.schedule⟩

section Sensors

variable [FlightFloat F] [FlightFloat R] [FloatCast F R] [Estimator F R S E]

omit [FlightFloat F] [FlightFloat R] [FloatCast F R] [Estimator F R S E] in
/-- Publishing a barometer calibration only queues news of changed parameters. -/
theorem unserved_publishBaroCalibration (world : World F R E C M D) (before : CalibrationFlags)
    (paramsBefore : Params F) :
    Unserved world (world.publishBaroCalibration before paramsBefore) := by
  -- News of changes is no request.
  unfold publishBaroCalibration
  split
  · exact ⟨rfl, rfl⟩
  · exact .refl world

/-- Processing a whole bus serves nobody. -/
theorem unserved_processSensorBusAfterUpdate (world : World F R E C M D) (raw : SensorBus F R)
    (nowMs : Nat) : Unserved world (world.processSensorBusAfterUpdate raw nowMs) := by
  have adopted :
      Unserved world (world.adoptIngestion (world.ingestion.processSensorBus raw nowMs)) :=
    ⟨rfl, rfl⟩
  have published := unserved_publishBaroCalibration
    (world.adoptIngestion (world.ingestion.processSensorBus raw nowMs)) world.calFlags world.params
  obtain ⟨state, estimator, controlPipeline, finished⟩ := finishImuCalibration_eq
    ((world.adoptIngestion (world.ingestion.processSensorBus raw nowMs)).publishBaroCalibration
      world.calFlags world.params) world.calFlags
  -- Finishing a calibration replaces three other parts.
  unfold processSensorBusAfterUpdate
  dsimp only
  rw [finished]
  exact (adopted.trans published).trans ⟨rfl, rfl⟩

/-- Processing an inertial report alone serves nobody. -/
theorem unserved_processImuSensorAfterUpdate (world : World F R E C M D)
    (raw : RawPacket (ImuPacket F R)) :
    Unserved world (world.processImuSensorAfterUpdate raw) := by
  obtain ⟨state, estimator, controlPipeline, finished⟩ := finishImuCalibration_eq
    (world.adoptIngestion (world.ingestion.processImuSensor raw)) world.calFlags
  -- A finished calibration changes the manager, the estimator and the pipeline only.
  unfold processImuSensorAfterUpdate
  rw [finished]
  exact ⟨rfl, rfl⟩

/-- The sensor part of every stage serves nobody. -/
theorem unserved_sensed (world : World F R E C M D) {stage : Stage F R}
    {ready : World F R E C M D} {nowUs : Nat} (sensing : world.sensed stage = some (ready, nowUs)) :
    Unserved world ready := by
  -- Three stages read sensors, and none of them hears the companion.
  cases stage with
  | sensors input log =>
    obtain ⟨rfl, rfl⟩ := Prod.mk.inj (Option.some.inj sensing)
    exact world.unserved_processSensorBusAfterUpdate input.raw input.nowMs
  | serviceSensors input =>
    obtain ⟨rfl, rfl⟩ := Prod.mk.inj (Option.some.inj sensing)
    have processed := world.unserved_processSensorBusAfterUpdate input.raw input.nowMs
    exact ⟨processed.companion, processed.schedule⟩
  | imuTick input =>
    obtain ⟨rfl, rfl⟩ := Prod.mk.inj (Option.some.inj sensing)
    have processed := world.unserved_processImuSensorAfterUpdate input.raw
    obtain ⟨controlImuAccumulator, recorded⟩ :=
      (world.processImuSensorAfterUpdate input.raw).recordControlImuCandidate_eq
    rw [recorded]
    exact ⟨processed.companion, processed.schedule⟩
  | _ => cases sensing

omit [FlightFloat F] [FlightFloat R] [FloatCast F R] [Estimator F R S E] in
/-- Judging the sensor's health serves nobody. -/
theorem unserved_updateSensorHealthAndCalibration (world : World F R E C M D) (nowUs : Nat) :
    Unserved world (world.updateSensorHealthAndCalibration nowUs) := by
  obtain ⟨state, calFlags, settled⟩ := (world.noteSensorHealth nowUs).settleArmCalibration_eq
  rw [updateSensorHealthAndCalibration, settled]
  exact ⟨rfl, rfl⟩

end Sensors

section Control

/-- Choosing the attitude mode only queues news of a changed parameter. -/
theorem unserved_setParam [FlightFloat F] (world : World F R E C M D) (id : ParamId)
    (value : ParamValue F) : Unserved world (world.setParam id value) := by
  -- A value that differs from itself is set, and any other left alone.
  unfold setParam setParamAndEmitChange
  dsimp only
  split
  · exact ⟨rfl, rfl⟩
  · exact ⟨rfl, rfl⟩

/-- A radio-control pass serves nobody. -/
theorem unserved_runRcCommandState [FlightFloat F] (world : World F R E C M D) (nowMs : Nat)
    (freshRc : Option (RcPacket F)) : Unserved world (world.runRcCommandState nowMs freshRc) := by
  -- Whatever the pass resolves, only the parameters and their news could matter.
  have kept (set : Params F × ParamEventQueues F)
      (served : Unserved world { world with params := set.1, paramEvents := set.2 })
      (rc : Rc F) (command : CommandManager F) (state : StateManager) :
      Unserved world
        { world with rc, command, params := set.1, paramEvents := set.2, state } :=
    ⟨served.companion, served.schedule⟩
  apply kept
  -- What may be set is the attitude mode.
  split
  · exact world.unserved_setParam .PARAM_RC_ATTITUDE_MODE (.int attitudeRateMode)
  · exact .refl world

/-- Letting the outputs follow serves nobody. -/
theorem unserved_runPwmOutputStage [FlightFloat F] [FlightFloat R] [PwmDriver R D]
    (world : World F R E C M D) : Unserved world world.runPwmOutputStage := by
  obtain ⟨pwm, pwmOutput, synced⟩ := world.runPwmOutputStage_eq
  rw [synced]
  exact ⟨rfl, rfl⟩

/-- The radio-control stage serves nobody. -/
theorem unserved_runRcCommandStateStages [FlightFloat F] [FlightFloat R] [PwmDriver R D]
    (world : World F R E C M D) (nowMs : Nat) (freshRc : Option (RcPacket F)) :
    Unserved world (world.runRcCommandStateStages nowMs freshRc) := by
  -- The pass is followed by its outputs.
  rw [runRcCommandStateStages]
  exact (world.unserved_runRcCommandState nowMs freshRc).trans (unserved_runPwmOutputStage _)

variable [FlightFloat F] [FlightFloat R] [FloatCast F R] [Estimator F R S E]
  [Controller F R S O C] [Mixer F R O M] [PwmDriver R D]

/-- The control stage serves nobody. -/
theorem unserved_runControlAndMixingStageIfNewImu (world : World F R E C M D) :
    Unserved world world.runControlAndMixingStageIfNewImu.1 :=
  ⟨rfl, rfl⟩

/-- The control stage on averaged samples serves nobody. -/
theorem unserved_runControlAndMixingStageWithAccumulatedImu (world : World F R E C M D) :
    Unserved world world.runControlAndMixingStageWithAccumulatedImu.1 := by
  unfold runControlAndMixingStageWithAccumulatedImu
  dsimp only
  -- Without samples no control runs.
  split
  · exact .refl world
  · exact ⟨rfl, rfl⟩

omit [FlightFloat F] [FlightFloat R] [FloatCast F R] [Estimator F R S E] [Controller F R S O C]
  [Mixer F R O M] [PwmDriver R D] in
/-- Moving the deadline on keeps the rate and serves nobody. -/
theorem consumeControlUpdateDeadline_rest (world : World F R E C M D) (nowUs : Nat) :
    (world.consumeControlUpdateDeadline nowUs).companionPart = world.companionPart ∧
      (world.consumeControlUpdateDeadline nowUs).controlHz = world.controlHz := by
  obtain ⟨lastControlUpdateUs, moved⟩ := world.consumeControlUpdateDeadline_eq nowUs
  rw [moved]
  exact ⟨rfl, rfl⟩

/-- The control stage moves its deadline on exactly when it may run. -/
theorem runControlAndMixingStageIfControlDue_schedule (world : World F R E C M D) (nowUs : Nat) :
    (world.runControlAndMixingStageIfControlDue nowUs).1.companionPart = world.companionPart ∧
      (world.runControlAndMixingStageIfControlDue nowUs).1.schedule =
        if world.controlHz ≠ 0 ∧ world.controlUpdateCanRunAt nowUs = true then
          (world.consumeControlUpdateDeadline nowUs).schedule
        else world.schedule := by
  have moved := world.consumeControlUpdateDeadline_rest nowUs
  have averaged := (world.consumeControlUpdateDeadline nowUs
    ).unserved_runControlAndMixingStageWithAccumulatedImu
  have held := world.unserved_runControlAndMixingStageIfNewImu
  unfold runControlAndMixingStageIfControlDue
  by_cases paced : world.controlHz ≠ 0
  · by_cases ready : world.controlUpdateCanRunAt nowUs = true
    · simp only [paced, ready, Bool.not_true, Bool.false_eq_true, if_false, ne_eq, not_false_iff,
        if_true, and_self]
      exact ⟨averaged.companion.trans moved.1, averaged.schedule⟩
    · simp [paced, ready]
  · -- Without a rate control runs on every sample.
    simp only [paced, false_and, if_false]
    split
    · exact ⟨rfl, rfl⟩
    · exact ⟨held.companion, held.schedule⟩

omit [FlightFloat F] [FlightFloat R] [FloatCast F R] [Estimator F R S E] [Controller F R S O C]
  [Mixer F R O M] [PwmDriver R D] in
/-- Remembering when control last ran serves nobody. -/
theorem unserved_noteControl (ran : World F R E C M D × Bool) (finishedUs : Nat) :
    Unserved ran.1 (noteControl ran finishedUs) := by
  obtain ⟨lastRealtimeControlUs, noted⟩ := noteControl_eq ran finishedUs
  rw [noted]
  exact ⟨rfl, rfl⟩

end Control

section Telemetry

/-- The telemetry stage answers nobody. -/
theorem unserved_runTelemetryStage (world : World F R E C M D) (nowUs : Nat) :
    Unserved world (world.runTelemetryStage nowUs) := by
  -- The streams are no part of what the companion is served with.
  unfold runTelemetryStage
  split
  · exact .refl world
  · exact ⟨rfl, rfl⟩

end Telemetry

section Communication

variable [FlightFloat F]

/-- Opening the gyro window only queues news of changed parameters. -/
theorem unserved_requestGyroCalibrationIfNeeded (world : World F R E C M D) :
    Unserved world world.requestGyroCalibrationIfNeeded := by
  unfold requestGyroCalibrationIfNeeded
  -- Zeroing the three biases is all that a requested calibration does to parameters.
  split
  · have zeroed := ((world.unserved_setParam .PARAM_GYRO_X_BIAS (.float FlightFloat.zero)).trans
      (unserved_setParam _ .PARAM_GYRO_Y_BIAS (.float FlightFloat.zero))).trans
      (unserved_setParam _ .PARAM_GYRO_Z_BIAS (.float FlightFloat.zero))
    exact ⟨zeroed.companion, zeroed.schedule⟩
  · exact .refl world

/-- Reactions to changed parameters serve nobody. -/
theorem unserved_applyParamReactions [Estimator F R S E] [Controller F R S O C] [Mixer F R O M]
    (world : World F R E C M D) (nowUs : Nat) :
    Unserved world (world.applyParamReactions nowUs) :=
  ⟨rfl, rfl⟩

/-- After the requests have been served, the rest of the stage serves nobody. -/
theorem unserved_communication [ReflectionFormat F] [Estimator F R S E] [Controller F R S O C]
    [Mixer F R O M] (world : World F R E C M D) (input : CommStageInput F) :
    Unserved (world.serveReceived input)
      (world.runCommunicationAndParameterServiceStage input) := by
  have requested := (world.serveReceived input).unserved_requestGyroCalibrationIfNeeded
  unfold runCommunicationAndParameterServiceStage
  dsimp only
  -- Reactions to changed parameters follow only if there are any.
  split
  · exact requested.trans (unserved_applyParamReactions _ input.reactionUs)
  · exact requested

/-- Serving the requests keeps the schedule of control. -/
theorem serveReceived_schedule [ReflectionFormat F] [Controller F R S O C]
    (world : World F R E C M D) (input : CommStageInput F) :
    (world.serveReceived input).schedule = world.schedule := by
  have received : (world.processCommStage input).schedule = world.schedule := by
    simp only [processCommStage]
    split <;> rfl
  -- Each part of the service runs or is skipped.
  have companion (served : World F R E C M D) :
      (if served.hasPendingCompanionWork then served.applyCompanionEvents else served).schedule =
        served.schedule := by
    split
    · simp only [applyCompanionEvents, schedule]
    · rfl
  have commands (served : World F R E C M D) :
      (if !served.commandEvents.isEmpty then served.applyCommandEvents input.storage
        else served).schedule = served.schedule := by
    split
    · simp only [applyCommandEvents, schedule]
    · rfl
  have parameters (served : World F R E C M D) :
      (if served.hasPendingParamWork then served.serviceParamEvents else served).schedule =
        served.schedule := by
    split
    · simp only [serviceParamEvents, schedule]
    · rfl
  simp only [serveReceived, parameters, commands, companion, received]

end Communication

section Stages

variable [FlightFloat F] [FlightFloat R] [FloatCast F R] [ReflectionFormat F] [Estimator F R S E]
  [Controller F R S O C] [Mixer F R O M] [PwmDriver R D]

omit [ReflectionFormat F] [Controller F R S O C] [Mixer F R O M] [PwmDriver R D] in
/-- The world in which a stage asks for fixed-rate control, and the clock it asks at. -/
def paced (world : World F R E C M D) : Stage F R → Option (World F R E C M D × Nat)
  | .imuTick input =>
    some ((world.processImuSensorAfterUpdate
      input.raw).recordControlImuCandidate.updateSensorHealthAndCalibration input.nowUs,
      input.nowUs)
  | .controlUpdate nowUs _ => some (world, nowUs)
  | _ => none

omit [ReflectionFormat F] [Controller F R S O C] [Mixer F R O M] [PwmDriver R D] in
/-- The clock at which a stage consumes a fixed-rate control update, if it does. -/
def consumesControlAt (world : World F R E C M D) (stage : Stage F R) : Option Nat :=
  match world.paced stage with
  | some (ready, nowUs) =>
    if ready.controlHz ≠ 0 ∧ ready.controlUpdateCanRunAt nowUs = true then some nowUs else none
  | none => none

omit [ReflectionFormat F] [Controller F R S O C] [Mixer F R O M] [PwmDriver R D] in
/-- Before it asks for control a stage serves nobody. -/
theorem unserved_paced (world : World F R E C M D) {stage : Stage F R}
    {ready : World F R E C M D} {nowUs : Nat} (asks : world.paced stage = some (ready, nowUs)) :
    Unserved world ready := by
  -- An inertial tick senses first, and a control update asks at once.
  cases stage with
  | imuTick input =>
    obtain ⟨rfl, rfl⟩ := Prod.mk.inj (Option.some.inj asks)
    have sensed : Unserved world
        (world.processImuSensorAfterUpdate input.raw).recordControlImuCandidate :=
      unserved_sensed world (show world.sensed (.imuTick input) = some (_, input.nowUs) from rfl)
    exact sensed.trans (unserved_updateSensorHealthAndCalibration _ input.nowUs)
  | controlUpdate nowUs finishedUs =>
    obtain ⟨rfl, rfl⟩ := Prod.mk.inj (Option.some.inj asks)
    exact .refl world
  | _ => cases asks

end Stages

end World

end Veloxity
