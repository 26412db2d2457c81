import Veloxity.Mixer.Selection
import Veloxity.World.CalibrationLaws

/-! How long a vehicle that starts uncalibrated stays flagged as uncalibrated. -/

namespace Veloxity

open StateManager (Evolves ErrorEvent PilotEvent)

variable {F R S O E C M D : Type}

namespace World

section Sensing

variable [Estimator F R S E]

/-- Reacting to finished windows takes the flag back exactly when the accelerometer's succeeded. -/
theorem mem_getErrors_finishImuCalibration (world : World F R E C M D)
    (before : CalibrationFlags) :
    .uncalibratedImu ∈ (world.finishImuCalibration before).state.getErrors ↔
      .uncalibratedImu ∈ world.state.getErrors ∧
        windowFinished .accel .accelFailed before world.calFlags = false := by
  rw [finishImuCalibration_state]
  cases finished : windowFinished .accel .accelFailed before world.calFlags with
  | true =>
    -- Success has the flag cleared, whether it was held or not.
    have cleared := StateManager.mem_getErrors_setErrorFlag_self world.state .uncalibratedImu false
      world.params
    exact cleared.trans (by simp)
  | false => simp

/-- Reacting to finished windows keeps the calibrations' flags. -/
theorem calFlags_finishImuCalibration (world : World F R E C M D) (before : CalibrationFlags) :
    (world.finishImuCalibration before).calFlags = world.calFlags := by
  -- Only the state, the estimator and the pipeline's clock are replaced.
  obtain ⟨state, estimator, controlPipeline, finished⟩ := world.finishImuCalibration_eq before
  rw [finished]

variable [FlightFloat F] [FlightFloat R] [FloatCast F R]

/-- A stage sees an accelerometer window succeed: it was open and is closed without having
failed. -/
def finishesAccelWindow (world : World F R E C M D) (stage : Stage F R) : Bool :=
  match world.sensed stage with
  | some (ready, _) => windowFinished .accel .accelFailed world.calFlags ready.calFlags
  | none => false

/-- Processing a whole bus takes the flag back exactly when it sees a window succeed. -/
theorem mem_getErrors_processSensorBusAfterUpdate (world : World F R E C M D)
    (raw : SensorBus F R) (nowMs : Nat) :
    .uncalibratedImu ∈ (world.processSensorBusAfterUpdate raw nowMs).state.getErrors ↔
      .uncalibratedImu ∈ world.state.getErrors ∧
        windowFinished .accel .accelFailed world.calFlags
          (world.processSensorBusAfterUpdate raw nowMs).calFlags = false := by
  -- Publishing a barometer calibration only queues news.
  obtain ⟨paramEvents, published⟩ := publishBaroCalibration_eq
    (world.adoptIngestion (world.ingestion.processSensorBus raw nowMs)) world.calFlags world.params
  unfold processSensorBusAfterUpdate
  dsimp only
  rw [published, mem_getErrors_finishImuCalibration, calFlags_finishImuCalibration]
  rfl

/-- Processing an inertial report takes the flag back exactly when it sees a window succeed. -/
theorem mem_getErrors_processImuSensorAfterUpdate (world : World F R E C M D)
    (raw : RawPacket (ImuPacket F R)) :
    .uncalibratedImu ∈ (world.processImuSensorAfterUpdate raw).state.getErrors ↔
      .uncalibratedImu ∈ world.state.getErrors ∧
        windowFinished .accel .accelFailed world.calFlags
          (world.processImuSensorAfterUpdate raw).calFlags = false := by
  -- Nothing comes between the processing and the reaction.
  unfold processImuSensorAfterUpdate
  rw [mem_getErrors_finishImuCalibration, calFlags_finishImuCalibration]
  rfl

/-- While its reports are processed a stage takes the flag back exactly when it sees a window
succeed. -/
theorem mem_getErrors_sensed {world ready : World F R E C M D} {stage : Stage F R} {nowUs : Nat}
    (sensing : world.sensed stage = some (ready, nowUs)) :
    .uncalibratedImu ∈ ready.state.getErrors ↔
      .uncalibratedImu ∈ world.state.getErrors ∧ world.finishesAccelWindow stage = false := by
  have finishes : world.finishesAccelWindow stage =
      windowFinished .accel .accelFailed world.calFlags ready.calFlags := by
    rw [finishesAccelWindow, sensing]
  rw [finishes]
  -- A service poll and an inertial tick go on to touch only samples.
  cases stage with
  | sensors input log =>
    obtain ⟨rfl, rfl⟩ := Prod.mk.inj (Option.some.inj sensing)
    exact world.mem_getErrors_processSensorBusAfterUpdate input.raw input.nowMs
  | serviceSensors input =>
    obtain ⟨rfl, rfl⟩ := Prod.mk.inj (Option.some.inj sensing)
    exact world.mem_getErrors_processSensorBusAfterUpdate input.raw input.nowMs
  | imuTick input =>
    obtain ⟨rfl, rfl⟩ := Prod.mk.inj (Option.some.inj sensing)
    obtain ⟨controlImuAccumulator, recorded⟩ :=
      (world.processImuSensorAfterUpdate input.raw).recordControlImuCandidate_eq
    rw [recorded]
    exact world.mem_getErrors_processImuSensorAfterUpdate input.raw
  | _ => exact nomatch sensing

/-- A stage that senses nothing sees no window succeed. -/
theorem finishesAccelWindow_of_idle {world : World F R E C M D} {stage : Stage F R}
    (idle : world.sensed stage = none) : world.finishesAccelWindow stage = false := by
  rw [finishesAccelWindow, idle]

end Sensing

section Running

variable [FlightFloat F] [FlightFloat R] [FloatCast F R] [ReflectionFormat F] [Estimator F R S E]
  [Controller F R S O C] [Mixer F R O M] [PwmDriver R D]

/-- A stage takes the flag back exactly when it sees a window succeed, and then at once. -/
structure KeepsLatch (world : World F R E C M D) (stage : Stage F R) : Prop where
  sensing : ∀ ready nowUs, world.sensed stage = some (ready, nowUs) →
    (.uncalibratedImu ∈ ready.state.getErrors ↔
      .uncalibratedImu ∈ world.state.getErrors ∧ world.finishesAccelWindow stage = false)
  after : .uncalibratedImu ∈ (world.stage stage).state.getErrors ↔
    .uncalibratedImu ∈ world.state.getErrors ∧ world.finishesAccelWindow stage = false

/-- Along a run the flag is held until a stage sees a window succeed, which takes it back. -/
structure Latched (start : World F R E C M D) (stages : List (Stage F R)) : Prop where
  held : .uncalibratedImu ∈ (Library.run stage start stages).state.getErrors ↔
    Library.Along (fun world stage => world.finishesAccelWindow stage = false) stage start stages
  along : Library.Along KeepsLatch stage start stages

/-- Once only ignorable errors wait to arm, every stage keeps the latch. -/
theorem keepsLatch {world : World F R E C M D} (stage : Stage F R)
    (ignorable : world.state.machine.HoldsOnlyIgnorable) : world.KeepsLatch stage := by
  refine ⟨fun ready nowUs sensing => mem_getErrors_sensed sensing, ?_⟩
  rcases world.stageEffect stage with
    ⟨ready, nowUs, sensing, senses, _, rest⟩ | ⟨input, rfl⟩ | ⟨nowMs, freshRc, rfl⟩ |
      ⟨idle, _, rest⟩
  · have waits : (ready.noteSensorHealth nowUs).state.machine.HoldsOnlyIgnorable :=
      (evolves_noteSensorHealth ready nowUs).holdsOnlyIgnorable
        (senses.evolved.holdsOnlyIgnorable ignorable)
    have controlled : .uncalibratedImu ∈ (world.stage stage).state.getErrors ↔
        .uncalibratedImu ∈ (ready.noteSensorHealth nowUs).settleArmCalibration.state.getErrors :=
      rest.evolved.mem_getErrors (by decide)
    -- The check, the settling and the control part that follow are about other errors.
    rw [controlled, mem_getErrors_settleArmCalibration_of_ignorable (by decide) waits,
      (evolves_noteSensorHealth ready nowUs).mem_getErrors (by decide),
      mem_getErrors_sensed sensing]
  · -- Serving messages raises and clears other errors.
    have served : .uncalibratedImu ∈ (world.stage (.communication input)).state.getErrors ↔
        .uncalibratedImu ∈ world.state.getErrors :=
      (world.evolves_communication input).mem_getErrors (by decide)
    rw [served, finishesAccelWindow_of_idle rfl]
    simp
  · -- The pilot can arm only past errors that are ignorable, and this one is not.
    have piloted : .uncalibratedImu ∈ (world.stage (.rcCommand nowMs freshRc)).state.getErrors ↔
        .uncalibratedImu ∈ world.state.getErrors := by
      rw [stage, (world.runRcCommandStateStages_rest nowMs freshRc).1]
      exact (world.evolves_runRcCommandState nowMs freshRc).mem_getErrors_pilot_of_ignorable
        (by decide) (by decide) ignorable
    rw [piloted, finishesAccelWindow_of_idle rfl]
    simp
  · have controlled : .uncalibratedImu ∈ (world.stage stage).state.getErrors ↔
        .uncalibratedImu ∈ world.state.getErrors := rest.evolved.mem_getErrors (by decide)
    rw [controlled, finishesAccelWindow_of_idle idle]
    simp

/-- Once only ignorable errors wait to arm, the flag is held after a run exactly when it was held
before and no stage has seen a window succeed. -/
theorem mem_getErrors_run {world : World F R E C M D} (stages : List (Stage F R))
    (ignorable : world.state.machine.HoldsOnlyIgnorable) :
    .uncalibratedImu ∈ (Library.run stage world stages).state.getErrors ↔
      .uncalibratedImu ∈ world.state.getErrors ∧
        Library.Along (fun world stage => world.finishesAccelWindow stage = false) stage world
          stages := by
  -- The induction follows the stages while the start moves with them.
  induction stages generalizing world with
  | nil => simp [Library.Along]
  | cons next rest ih =>
    have waits := (world.evolves_stage next).holdsOnlyIgnorable ignorable
    rw [Library.run_cons, ih waits, (keepsLatch next ignorable).after, and_assoc]
    rfl

end Running

section Starting

variable [FlightFloat F] [FlightFloat R] [FloatCast F R] [ReflectionFormat F] [Estimator F R S E]
  [Controller F R S O C] [Mixer F R O M] [PwmDriver R D]

omit [FlightFloat R] [FloatCast F R] in
/-- Reflecting the canned mixers keeps the inertial biases. -/
theorem imuBiasParamsAreAllZero_initialParams (params : Params F) :
    imuBiasParamsAreAllZero (initialParams params) = imuBiasParamsAreAllZero params := by
  have kept (id : ParamId) (primary : reflectsPrimary id = false)
      (secondary : reflectsSecondary id = false) :
      (initialParams params).getById id = params.getById id := by
    rw [initialParams, syncReflectedMixerParams_getById _ _ primary secondary,
      syncReflectedMixerParams_getById _ _ primary secondary]
  -- None of the six biases reflects a mixer.
  simp only [imuBiasParamsAreAllZero, List.all_cons, List.all_nil,
    kept .PARAM_ACC_X_BIAS rfl rfl, kept .PARAM_ACC_Y_BIAS rfl rfl, kept .PARAM_ACC_Z_BIAS rfl rfl,
    kept .PARAM_GYRO_X_BIAS rfl rfl, kept .PARAM_GYRO_Y_BIAS rfl rfl,
    kept .PARAM_GYRO_Z_BIAS rfl rfl]

omit [Mixer F R O M] in
/-- Started with all biases at zero, a vehicle is flagged as uncalibrated. -/
theorem mem_getErrors_init {params : Params F} (zero : imuBiasParamsAreAllZero params = true)
    (estimator : E) (controller : C) (mixer : M) (pwm : D) (nowUs : Nat)
    (backup : Option RosflightHardErrorMsg) :
    .uncalibratedImu ∈ (init params .new estimator controller mixer pwm nowUs backup :
      World F R E C M D).state.getErrors := by
  have latched : .uncalibratedImu ∈ (interlockedState (initialParams params) .new).getErrors := by
    rw [interlockedState, initializeImuCalibrationError, imuBiasParamsAreAllZero_initialParams,
      zero]
    exact (StateManager.mem_getErrors_setErrorFlag_self _ .uncalibratedImu true _).mpr rfl
  have waits : (interlockedState (initialParams params) .new).machine.HoldsOnlyIgnorable := by
    -- Initialised without errors, the machine holds none until the flag is raised.
    have empty : (StateManager.new.update .INITIALIZED
        (initialParams params)).machine.HoldsOnlyIgnorable := Finset.empty_subset _
    exact (StateManager.evolves_setErrorFlag _ _ _ _).holdsOnlyIgnorable empty
  have configured := CommandManager.new.evolves_updateFailsafeConfig (initialParams params)
    (interlockedState (initialParams params) .new)
  have waiting := configured.holdsOnlyIgnorable waits
  have held : .uncalibratedImu ∈ (CommandManager.new.updateFailsafeConfig (initialParams params)
      (interlockedState (initialParams params) .new)).2.getErrors :=
    (configured.mem_getErrors (by decide)).mpr latched
  show .uncalibratedImu ∈ (rearmAfterHardfault backup (initialParams params)
    (CommandManager.new.updateFailsafeConfig (initialParams params)
      (interlockedState (initialParams params) .new)).2).getErrors
  -- A rearm after a hard fault is an ordinary event.
  unfold rearmAfterHardfault
  split
  · split
    · exact (StateManager.mem_getErrors_update_of_ignorable (by decide) waiting (by simp)
        (by simp)).mpr held
    · exact held
  · exact held

/-- From a start with all biases at zero, a vehicle stays flagged as uncalibrated until a stage
sees an accelerometer window succeed, which takes the flag back while it senses. -/
theorem uncalibratedImu_latched (params : Params F)
    (zero : imuBiasParamsAreAllZero params = true) (estimator : E) (controller : C) (mixer : M)
    (pwm : D) (nowUs : Nat) (backup : Option RosflightHardErrorMsg) (stages : List (Stage F R)) :
    Latched (init params .new estimator controller mixer pwm nowUs backup : World F R E C M D)
      stages := by
  -- A vehicle starts out waiting with errors it may ignore, and never leaves them for others.
  have waits : (init params .new estimator controller mixer pwm nowUs backup :
      World F R E C M D).state.machine.HoldsOnlyIgnorable :=
    (evolves_init params .new estimator controller mixer pwm nowUs backup).holdsOnlyIgnorable
      (Finset.empty_subset _)
  constructor
  · -- The flag is held at the start, so only a success counts.
    rw [mem_getErrors_run stages waits]
    exact and_iff_right (mem_getErrors_init zero estimator controller mixer pwm nowUs backup)
  · exact Library.along_of_invariant (fun world => world.state.machine.HoldsOnlyIgnorable)
      (fun world next waits => (world.evolves_stage next).holdsOnlyIgnorable waits)
      (fun _ next waits => keepsLatch next waits) waits stages

end Starting

end World

/-- The arming switch of a vehicle that has never been calibrated, and a tick after it. -/
theorem uncalibratedRun_latched :
    imuBiasParamsAreAllZero (Params.new : Params ℚ) = true ∧
      World.Latched (benchWorld Params.new 8) uncalibratedRun :=
  have zero : imuBiasParamsAreAllZero (Params.new : Params ℚ) = true := by decide +kernel
  ⟨zero, World.uncalibratedImu_latched Params.new zero IdleEstimator.mk IdleController.mk
    (MatrixMixer.new Params.new) (AcceptingDriver.new 8 fun _ => false) 0 none uncalibratedRun⟩

end Veloxity
