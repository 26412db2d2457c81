import Veloxity.Control.ImuAverage
import Veloxity.World.ControlSlots

/-! Fixed-rate control runs on the mean of the samples since its last update. -/

namespace Veloxity

open Library

namespace World

variable {F R S O E C M D : Type}

section Frames

/-- The telemetry stage leaves the summed samples alone. -/
theorem controlImuAccumulator_runTelemetryStage (world : World F R E C M D) (nowUs : Nat) :
    (world.runTelemetryStage nowUs).controlImuAccumulator = world.controlImuAccumulator := by
  unfold runTelemetryStage
  split <;> rfl

/-- Sending responses leaves the summed samples alone. -/
theorem controlImuAccumulator_drainLogsAndSendResponses (world : World F R E C M D)
    (log : Option StatustextMsg) :
    (world.drainLogsAndSendResponses log).controlImuAccumulator = world.controlImuAccumulator := by
  obtain ⟨commEvents, drained⟩ := world.drainLogs_eq log
  rw [drainLogsAndSendResponses, drained]

/-- Sending some responses leaves the summed samples alone. -/
theorem controlImuAccumulator_drainLogsAndSendResponsesLimited (world : World F R E C M D)
    (log : Option StatustextMsg) (maxResponses : Nat) :
    (world.drainLogsAndSendResponsesLimited log maxResponses).controlImuAccumulator =
      world.controlImuAccumulator := by
  obtain ⟨commEvents, drained⟩ := world.drainLogs_eq log
  rw [drainLogsAndSendResponsesLimited, drained]

/-- Judging the sensor's health leaves the summed samples alone. -/
theorem controlImuAccumulator_updateSensorHealthAndCalibration (world : World F R E C M D)
    (nowUs : Nat) :
    (world.updateSensorHealthAndCalibration nowUs).controlImuAccumulator =
      world.controlImuAccumulator := by
  obtain ⟨state, calFlags, settled⟩ := (world.noteSensorHealth nowUs).settleArmCalibration_eq
  rw [updateSensorHealthAndCalibration, settled]
  rfl

variable [FlightFloat F]

/-- A radio-control pass leaves the summed samples alone. -/
theorem controlImuAccumulator_runRcCommandStateStages [FlightFloat R] [PwmDriver R D]
    (world : World F R E C M D) (nowMs : Nat) (freshRc : Option (RcPacket F)) :
    (world.runRcCommandStateStages nowMs freshRc).controlImuAccumulator =
      world.controlImuAccumulator := by
  -- Whatever the pass resolves, it sums no sample.
  have kept (rc : Rc F) (command : CommandManager F) (params : Params F)
      (paramEvents : ParamEventQueues F) (state : StateManager) :
      ({ world with rc, command, params, paramEvents, state } :
        World F R E C M D).controlImuAccumulator = world.controlImuAccumulator := rfl
  have passed : (world.runRcCommandState nowMs freshRc).controlImuAccumulator =
      world.controlImuAccumulator := kept _ _ _ _ _
  obtain ⟨pwm, pwmOutput, synced⟩ := (world.runRcCommandState nowMs freshRc).runPwmOutputStage_eq
  rw [runRcCommandStateStages, synced]
  exact passed

/-- Serving the companion leaves the summed samples alone. -/
theorem controlImuAccumulator_serveReceived [ReflectionFormat F] [Controller F R S O C]
    (world : World F R E C M D) (input : CommStageInput F) :
    (world.serveReceived input).controlImuAccumulator = world.controlImuAccumulator := by
  have received :
      (world.processCommStage input).controlImuAccumulator = world.controlImuAccumulator := by
    simp only [processCommStage]
    split <;> rfl
  -- Each part of the service runs or is skipped.
  have companion (served : World F R E C M D) :
      (if served.hasPendingCompanionWork then served.applyCompanionEvents
        else served).controlImuAccumulator = served.controlImuAccumulator := by
    split
    · simp only [applyCompanionEvents]
    · rfl
  have commands (served : World F R E C M D) :
      (if !served.commandEvents.isEmpty then served.applyCommandEvents input.storage
        else served).controlImuAccumulator = served.controlImuAccumulator := by
    split
    · simp only [applyCommandEvents]
    · rfl
  have parameters (served : World F R E C M D) :
      (if served.hasPendingParamWork then served.serviceParamEvents
        else served).controlImuAccumulator = served.controlImuAccumulator := by
    split
    · simp only [serviceParamEvents]
    · rfl
  simp only [serveReceived, parameters, commands, companion, received]

/-- The communication stage leaves the summed samples alone. -/
theorem controlImuAccumulator_communication [ReflectionFormat F] [Estimator F R S E]
    [Controller F R S O C] [Mixer F R O M] (world : World F R E C M D) (input : CommStageInput F) :
    (world.runCommunicationAndParameterServiceStage input).controlImuAccumulator =
      world.controlImuAccumulator := by
  -- Asking for a gyro calibration sets flags only.
  have requested (served : World F R E C M D) :
      served.requestGyroCalibrationIfNeeded.controlImuAccumulator =
        served.controlImuAccumulator := by
    unfold requestGyroCalibrationIfNeeded
    split <;> rfl
  unfold runCommunicationAndParameterServiceStage
  dsimp only
  split
  · exact (requested _).trans (world.controlImuAccumulator_serveReceived input)
  · exact (requested _).trans (world.controlImuAccumulator_serveReceived input)

variable [FlightFloat R] [FloatCast F R] [Estimator F R S E]

/-- Processing a whole bus leaves the summed samples alone. -/
theorem controlImuAccumulator_processSensorBusAfterUpdate (world : World F R E C M D)
    (raw : SensorBus F R) (nowMs : Nat) :
    (world.processSensorBusAfterUpdate raw nowMs).controlImuAccumulator =
      world.controlImuAccumulator := by
  obtain ⟨paramEvents, published⟩ := publishBaroCalibration_eq
    (world.adoptIngestion (world.ingestion.processSensorBus raw nowMs)) world.calFlags world.params
  obtain ⟨state, estimator, controlPipeline, finished⟩ := finishImuCalibration_eq
    ((world.adoptIngestion (world.ingestion.processSensorBus raw nowMs)).publishBaroCalibration
      world.calFlags world.params) world.calFlags
  -- What the calibrations publish is named, so that nothing else is touched.
  unfold processSensorBusAfterUpdate
  dsimp only
  rw [finished, published]
  rfl

/-- Processing an inertial report leaves the summed samples alone. -/
theorem controlImuAccumulator_processImuSensorAfterUpdate (world : World F R E C M D)
    (raw : RawPacket (ImuPacket F R)) :
    (world.processImuSensorAfterUpdate raw).controlImuAccumulator =
      world.controlImuAccumulator := by
  -- Finishing a calibration changes the state, the estimator and the pipeline.
  obtain ⟨state, estimator, controlPipeline, finished⟩ := finishImuCalibration_eq
    (world.adoptIngestion (world.ingestion.processImuSensor raw)) world.calFlags
  unfold processImuSensorAfterUpdate
  rw [finished]
  rfl

end Frames

section Stages

variable [FlightFloat F] [FlightFloat R] [FloatCast F R] [ReflectionFormat F] [Estimator F R S E]
  [Controller F R S O C] [Mixer F R O M] [PwmDriver R D]

omit [ReflectionFormat F] [Controller F R S O C] [Mixer F R O M] [PwmDriver R D] in
/-- The sample a stage adds to the sums. -/
def sampled (world : World F R E C M D) : Stage F R → Option (ImuPacket F R)
  | .imuTick input => (world.processImuSensorAfterUpdate input.raw).processedSensors.imu
  | _ => none

omit [ReflectionFormat F] [Controller F R S O C] [Mixer F R O M] [PwmDriver R D] in
/-- The sums once a stage has added its sample. -/
def summed (world : World F R E C M D) (stage : Stage F R) : ImuSampleAccumulator F R :=
  match world.sampled stage with
  | some sample => world.controlImuAccumulator.push sample
  | none => world.controlImuAccumulator

omit [ReflectionFormat F] [Controller F R S O C] [Mixer F R O M] [PwmDriver R D] in
/-- A stage asks for control once it has added its sample. -/
theorem controlImuAccumulator_paced {world ready : World F R E C M D} {stage : Stage F R}
    {nowUs : Nat} (asks : world.paced stage = some (ready, nowUs)) :
    ready.controlImuAccumulator = world.summed stage := by
  -- Inertial ticks push their own sample first; a control update has none to add.
  cases stage with
  | imuTick input =>
    obtain ⟨rfl, rfl⟩ := Prod.mk.inj (Option.some.inj asks)
    rw [controlImuAccumulator_updateSensorHealthAndCalibration, recordControlImuCandidate, summed,
      sampled]
    have same := world.controlImuAccumulator_processImuSensorAfterUpdate input.raw
    cases (world.processImuSensorAfterUpdate input.raw).processedSensors.imu with
    | none => exact same
    | some sample => exact congrArg (·.push sample) same
  | controlUpdate nowUs finishedUs =>
    obtain ⟨rfl, rfl⟩ := Prod.mk.inj (Option.some.inj asks)
    rfl
  | _ => cases asks

omit [FlightFloat F] [FlightFloat R] [FloatCast F R] [ReflectionFormat F] [Estimator F R S E]
  [Controller F R S O C] [Mixer F R O M] [PwmDriver R D] in
/-- Fixed-rate control only runs on samples that have been summed. -/
theorem count_ne_zero_of_canRun {world : World F R E C M D} {nowUs : Nat}
    (may : world.controlUpdateCanRunAt nowUs = true) : world.controlImuAccumulator.count ≠ 0 := by
  simp only [controlUpdateCanRunAt, ImuSampleAccumulator.hasSamples, Bool.and_eq_true,
    bne_iff_ne] at may
  exact may.2

omit [ReflectionFormat F] [Controller F R S O C] [Mixer F R O M] [PwmDriver R D] in
/-- An update is consumed where the stage asks for it and it may run. -/
theorem canRun_of_consumesControlAt {world : World F R E C M D} {stage : Stage F R} {nowUs : Nat}
    (consumes : world.consumesControlAt stage = some nowUs) :
    ∃ ready, world.paced stage = some (ready, nowUs) ∧ ready.controlHz ≠ 0 ∧
      ready.controlUpdateCanRunAt nowUs = true := by
  unfold consumesControlAt at consumes
  -- Both tests must have passed for the update to be consumed.
  split at consumes
  · rename_i ready clock asks
    split at consumes
    · rename_i may
      cases consumes
      exact ⟨ready, asks, may⟩
    · cases consumes
  · cases consumes

omit [ReflectionFormat F] in
/-- Control on the averaged samples leaves what taking the average does. -/
theorem controlImuAccumulator_runControlAndMixingStageWithAccumulatedImu
    (world : World F R E C M D) :
    world.runControlAndMixingStageWithAccumulatedImu.1.controlImuAccumulator =
      world.controlImuAccumulator.takeAverage.1 := by
  unfold runControlAndMixingStageWithAccumulatedImu ImuSampleAccumulator.takeAverage
  -- Without a sample no control runs, and with one it runs on the average taken.
  by_cases none : world.controlImuAccumulator.count = 0
  · simp only [if_pos none]
  · simp only [if_neg none]
    rfl

omit [ReflectionFormat F] in
/-- A stage that asks for control empties the sums exactly when it consumes an update. -/
theorem controlImuAccumulator_ifControlDue {world ready : World F R E C M D} {stage : Stage F R}
    {nowUs : Nat} (asks : world.paced stage = some (ready, nowUs)) (finishedUs : Nat) :
    (noteControl (ready.runControlAndMixingStageIfControlDue nowUs)
      finishedUs).controlImuAccumulator =
      if (world.consumesControlAt stage).isSome then .new else world.summed stage := by
  obtain ⟨lastRealtimeControlUs, noted⟩ :=
    noteControl_eq (ready.runControlAndMixingStageIfControlDue nowUs) finishedUs
  obtain ⟨lastControlUpdateUs, moved⟩ := ready.consumeControlUpdateDeadline_eq nowUs
  have consumes : world.consumesControlAt stage =
      if ready.controlHz ≠ 0 ∧ ready.controlUpdateCanRunAt nowUs = true then some nowUs
      else none := by
    rw [consumesControlAt, asks]
  rw [noted, ← controlImuAccumulator_paced asks]
  unfold runControlAndMixingStageIfControlDue
  by_cases paced : ready.controlHz ≠ 0
  · by_cases may : ready.controlUpdateCanRunAt nowUs = true
    · -- There are samples to take the average of.
      have present := count_ne_zero_of_canRun may
      have taken := controlImuAccumulator_runControlAndMixingStageWithAccumulatedImu
        (ready.consumeControlUpdateDeadline nowUs)
      rw [moved, ImuSampleAccumulator.takeAverage, if_neg present] at taken
      rw [if_pos ⟨paced, may⟩] at consumes
      rw [consumes, may, moved, if_pos paced]
      exact taken
    · rw [if_neg fun both => may both.2] at consumes
      rw [consumes, Bool.eq_false_iff.mpr may, if_pos paced]
      rfl
  · rw [if_neg fun both => paced both.1] at consumes
    rw [consumes, if_neg paced]
    split <;> rfl

/-- A stage adds its sample to the sums, and empties them when it consumes an update. -/
theorem controlImuAccumulator_stage (world : World F R E C M D) (stage : Stage F R) :
    (world.stage stage).controlImuAccumulator =
      if (world.consumesControlAt stage).isSome then .new else world.summed stage := by
  -- Only the two stages that ask for control touch the sums.
  cases stage with
  | communication input => exact world.controlImuAccumulator_communication input
  | sensors input log =>
    have processed := world.controlImuAccumulator_processSensorBusAfterUpdate input.raw input.nowMs
    have settled := (world.processSensorBusAfterUpdate input.raw
      input.nowMs).controlImuAccumulator_updateSensorHealthAndCalibration input.nowUs
    exact (controlImuAccumulator_drainLogsAndSendResponses _ log).trans (settled.trans processed)
  | serviceSensors input =>
    have processed := world.controlImuAccumulator_processSensorBusAfterUpdate input.raw input.nowMs
    exact (controlImuAccumulator_updateSensorHealthAndCalibration _ input.nowUs).trans processed
  | imuTick input =>
    exact controlImuAccumulator_ifControlDue
      (show world.paced (.imuTick input) = some (_, input.nowUs) from rfl) input.finishedUs
  | controlUpdate nowUs finishedUs =>
    exact controlImuAccumulator_ifControlDue
      (show world.paced (.controlUpdate nowUs finishedUs) = some (world, nowUs) from rfl) finishedUs
  | rcCommand nowMs freshRc =>
    exact world.controlImuAccumulator_runRcCommandStateStages nowMs freshRc
  | control => rfl
  | telemetry nowUs => exact world.controlImuAccumulator_runTelemetryStage nowUs
  | realtimeTelemetry nowUs => rfl
  | responses log maxResponses =>
    exact world.controlImuAccumulator_drainLogsAndSendResponsesLimited log maxResponses
  | controlRate controlHz nowUs => rfl
  | serviceOpportunity nextUs => rfl

omit [ReflectionFormat F] in
/-- Fixed-rate control on a sample, which empties the sums and leaves the held samples alone. -/
def controlledOn (world : World F R E C M D) (sample : ImuPacket F R) : World F R E C M D × Bool :=
  let ran := { world with
      controlImuAccumulator := .new
      processedSensors := { world.processedSensors with imu := some sample }
    }.runControlAndMixingStageIfNewImu
  ({ ran.1 with processedSensors := world.processedSensors }, ran.2)

omit [ReflectionFormat F] in
/-- Control on the averaged samples is control on the average taken. -/
theorem runControlAndMixingStageWithAccumulatedImu_eq {world : World F R E C M D}
    {sample : ImuPacket F R}
    (taken : world.controlImuAccumulator.takeAverage = (.new, some sample)) :
    world.runControlAndMixingStageWithAccumulatedImu = world.controlledOn sample := by
  rw [runControlAndMixingStageWithAccumulatedImu, taken]
  rfl

omit [ReflectionFormat F] in
/-- Fixed-rate control that may run consumes its deadline and runs on the average taken. -/
theorem runControlAndMixingStageIfControlDue_eq {ready : World F R E C M D} {nowUs : Nat}
    (paced : ready.controlHz ≠ 0) (may : ready.controlUpdateCanRunAt nowUs = true)
    {sample : ImuPacket F R}
    (taken : ready.controlImuAccumulator.takeAverage = (.new, some sample)) :
    ready.runControlAndMixingStageIfControlDue nowUs =
      (ready.consumeControlUpdateDeadline nowUs).controlledOn sample := by
  obtain ⟨lastControlUpdateUs, moved⟩ := ready.consumeControlUpdateDeadline_eq nowUs
  -- Moving the deadline on leaves the sums for the average to take.
  unfold runControlAndMixingStageIfControlDue
  rw [if_pos paced, may, Bool.not_true, if_neg Bool.false_ne_true]
  apply runControlAndMixingStageWithAccumulatedImu_eq
  rw [moved]
  exact taken

/-- A stage that consumes an update runs control on the average it takes. -/
theorem stage_of_consumes {world ready : World F R E C M D} {stage : Stage F R} {nowUs : Nat}
    (asks : world.paced stage = some (ready, nowUs))
    (consumes : world.consumesControlAt stage = some nowUs) {sample : ImuPacket F R}
    (taken : ready.controlImuAccumulator.takeAverage = (.new, some sample)) :
    ∃ finishedUs, world.stage stage =
      noteControl ((ready.consumeControlUpdateDeadline nowUs).controlledOn sample) finishedUs := by
  obtain ⟨asked, same, paced, may⟩ := canRun_of_consumesControlAt consumes
  obtain ⟨rfl, -⟩ := Prod.mk.inj (Option.some.inj (asks.symm.trans same))
  -- Control runs alike on an inertial tick and on a control update.
  have ran := runControlAndMixingStageIfControlDue_eq paced may taken
  cases stage with
  | imuTick input =>
    obtain ⟨rfl, rfl⟩ := Prod.mk.inj (Option.some.inj asks)
    exact ⟨input.finishedUs, congrArg (noteControl · input.finishedUs) ran⟩
  | controlUpdate clock finishedUs =>
    obtain ⟨rfl, rfl⟩ := Prod.mk.inj (Option.some.inj asks)
    exact ⟨finishedUs, congrArg (noteControl · finishedUs) ran⟩
  | _ => cases asks

end Stages

end World

/-- The firmware beside the samples it has summed since the last average was taken. -/
structure ImuRun (E C M D : Type) where
  world : World ℚ ℚ E C M D
  samples : List (ImuPacket ℚ ℚ)

namespace ImuRun

variable {S O E C M D : Type} [Estimator ℚ ℚ S E] [Controller ℚ ℚ S O C] [Mixer ℚ ℚ O M]
  [PwmDriver ℚ D]

omit [Controller ℚ ℚ S O C] [Mixer ℚ ℚ O M] [PwmDriver ℚ D] in
/-- The samples summed once a stage has added its own. -/
def pending (run : ImuRun E C M D) (stage : Stage ℚ ℚ) : List (ImuPacket ℚ ℚ) :=
  run.samples ++ (run.world.sampled stage).toList

/-- Run one stage; an average that is taken is of all samples. -/
def step (run : ImuRun E C M D) (stage : Stage ℚ ℚ) : ImuRun E C M D :=
  { world := run.world.stage stage
    samples := if (run.world.consumesControlAt stage).isSome then [] else run.pending stage }

omit [Controller ℚ ℚ S O C] [Mixer ℚ ℚ O M] [PwmDriver ℚ D] in
/-- The sums are those of the samples. -/
def Accumulated (run : ImuRun E C M D) : Prop :=
  run.world.controlImuAccumulator = .accumulated run.samples

/-- Fixed-rate control that a stage runs takes the mean of all samples, leaving no sum behind, and
runs on it. -/
def AveragesTruly (run : ImuRun E C M D) (stage : Stage ℚ ℚ) : Prop :=
  ∀ ready nowUs, run.world.paced stage = some (ready, nowUs) →
    run.world.consumesControlAt stage = some nowUs →
    ready.controlImuAccumulator.takeAverage = (.new, meanSample (run.pending stage)) ∧
      (run.step stage).world.controlImuAccumulator = .new ∧
      ∃ sample ∈ meanSample (run.pending stage), ∃ finishedUs, (run.step stage).world =
        World.noteControl
          ((ready.consumeControlUpdateDeadline nowUs).controlledOn sample) finishedUs

omit [Controller ℚ ℚ S O C] [Mixer ℚ ℚ O M] [PwmDriver ℚ D] in
/-- The samples of which a stage takes the average are not too many to be counted, or add up to
zero. -/
def TakesCountable (run : ImuRun E C M D) (stage : Stage ℚ ℚ) : Prop :=
  (run.world.consumesControlAt stage).isSome → Countable (run.pending stage)

omit [Controller ℚ ℚ S O C] [Mixer ℚ ℚ O M] [PwmDriver ℚ D] in
/-- The stage's own sample is summed with the others. -/
theorem Accumulated.summed {run : ImuRun E C M D} (holds : run.Accumulated)
    (stage : Stage ℚ ℚ) : run.world.summed stage = .accumulated (run.pending stage) := by
  rw [World.summed, pending]
  -- A stage without a sample leaves both sides as they are.
  cases run.world.sampled stage with
  | none =>
    rw [Option.toList_none, List.append_nil]
    exact holds
  | some sample =>
    rw [Option.toList_some, ImuSampleAccumulator.accumulated_concat, ← holds]

/-- Every stage keeps the sums those of the samples. -/
theorem Accumulated.step {run : ImuRun E C M D} (holds : run.Accumulated) (stage : Stage ℚ ℚ) :
    (run.step stage).Accumulated := by
  have after := run.world.controlImuAccumulator_stage stage
  rw [holds.summed] at after
  rw [Accumulated, ImuRun.step]
  dsimp only
  rw [after]
  -- A consumed update leaves no sum and no sample; any other stage keeps both.
  split <;> rfl

/-- A stage takes the mean of all samples exactly when these are countable. -/
theorem averagesTruly_iff {run : ImuRun E C M D} (holds : run.Accumulated) (stage : Stage ℚ ℚ) :
    run.AveragesTruly stage ↔ run.TakesCountable stage := by
  have counted := ImuSampleAccumulator.takeAverage_accumulated_iff (run.pending stage)
  rw [← holds.summed] at counted
  constructor
  · -- The average that is taken tells whether the samples were countable.
    intro truly consumes
    obtain ⟨nowUs, consumed⟩ := Option.isSome_iff_exists.mp consumes
    obtain ⟨ready, asks, _⟩ := World.canRun_of_consumesControlAt consumed
    have taken := (truly ready nowUs asks consumed).1
    rw [World.controlImuAccumulator_paced asks] at taken
    exact counted.mp taken
  · intro countable ready nowUs asks consumes
    have consumed : (run.world.consumesControlAt stage).isSome := by
      rw [consumes]
      rfl
    have taken := counted.mpr (countable consumed)
    rw [← World.controlImuAccumulator_paced asks] at taken
    have emptied := run.world.controlImuAccumulator_stage stage
    rw [if_pos consumed] at emptied
    refine ⟨taken, emptied, ?_⟩
    cases averaged : meanSample (run.pending stage) with
    | none =>
      -- Control does not run without a sample.
      obtain ⟨asked, same, _, may⟩ := World.canRun_of_consumesControlAt consumes
      obtain ⟨rfl, -⟩ := Prod.mk.inj (Option.some.inj (asks.symm.trans same))
      rw [averaged, ImuSampleAccumulator.takeAverage,
        if_neg (World.count_ne_zero_of_canRun may)] at taken
      cases (Prod.mk.inj taken).2
    | some sample =>
      rw [averaged] at taken
      exact ⟨sample, rfl, World.stage_of_consumes asks consumes taken⟩

/-- Along every run of the firmware from its start, fixed-rate control runs on the mean of all
samples since the last average, if and only if the samples it averages are countable. -/
theorem averagesTruly_along_iff (params : Params ℚ) (state : StateManager) (estimator : E)
    (controller : C) (mixer : M) (pwm : D) (nowUs : Nat) (backup : Option RosflightHardErrorMsg)
    (stages : List (Stage ℚ ℚ)) :
    let start : ImuRun E C M D :=
      { world := World.init params state estimator controller mixer pwm nowUs backup
        samples := [] }
    Along AveragesTruly step start stages ↔ Along TakesCountable step start stages := by
  intro start
  -- The firmware starts without a sum.
  have fresh : start.Accumulated := rfl
  apply along_congr Accumulated ?_ ?_ fresh
  · intro run stage holds
    exact holds.step stage
  · intro run stage holds
    exact averagesTruly_iff holds stage

/-- A sample of a vehicle at rest at twenty degrees. -/
def warmSample (timestamp : Nat) : ImuPacket ℚ ℚ :=
  { (restingSample timestamp : ImuPacket ℚ ℚ) with temperature := 20 }

/-- An inertial tick every millisecond, with a warm sample. -/
def warmTick (index : Nat) : Stage ℚ ℚ :=
  .imuTick
    { nowUs := 1000 * index, nowMs := index
      raw := some (.ok (warmSample (1000 * index)))
      finishedUs := 1000 * index + 100 }

/-- Warm ticks, after which fixed-rate control is turned on and becomes due. -/
def warmFlight (count : Nat) : List (Stage ℚ ℚ) :=
  (List.range count).map warmTick ++
    [.controlRate 100 (1000 * count), .controlUpdate (1000 * count + 10000) (1000 * count + 10100)]

omit [Controller ℚ ℚ S O C] [Mixer ℚ ℚ O M] [PwmDriver ℚ D] in
/-- A warm tick adds a sample of its temperature. -/
theorem sampled_warmTick (world : World ℚ ℚ E C M D) (index : Nat) :
    ∃ sample, world.sampled (warmTick index) = some sample ∧ sample.temperature = 20 := by
  -- A finished calibration would not change the sample that was read.
  obtain ⟨state, estimator, controlPipeline, finished⟩ := World.finishImuCalibration_eq
    (world.adoptIngestion (world.ingestion.processImuSensor
      (some (.ok (warmSample (1000 * index)))))) world.calFlags
  rw [warmTick, World.sampled, World.processImuSensorAfterUpdate, finished]
  exact ⟨_, rfl, rfl⟩

/-- Some warm samples have been summed while control ran on every sample. -/
structure Warm (count : Nat) (run : ImuRun E C M D) : Prop where
  accumulated : run.Accumulated
  unpaced : run.world.controlHz = 0
  length : run.samples.length = count
  temperature : (run.samples.map (·.reading .temperature)).sum = 20 * count

/-- One more warm tick adds one more warm sample. -/
theorem Warm.step {count : Nat} {run : ImuRun E C M D} (warm : run.Warm count) (index : Nat) :
    (run.step (warmTick index)).Warm (count + 1) := by
  -- Without a rate no update is consumed.
  have idle : run.world.consumesControlAt (warmTick index) = none := by
    rw [← Option.not_isSome_iff_eq_none]
    intro consumes
    obtain ⟨nowUs, consumed⟩ := Option.isSome_iff_exists.mp consumes
    exact (World.due_of_consumesControlAt consumed).2.1 warm.unpaced
  have schedule : (run.world.stage (warmTick index)).schedule = run.world.schedule := by
    rw [World.schedule_stage _ _ (by intro controlHz nowUs; simp [warmTick]), World.scheduleAfter,
      idle]
  obtain ⟨sample, sampled, twenty⟩ := sampled_warmTick run.world index
  have samples : (run.step (warmTick index)).samples = run.samples ++ [sample] := by
    rw [ImuRun.step, idle, pending, sampled]
    rfl
  refine ⟨warm.accumulated.step _, ?_, ?_, ?_⟩
  · exact (Prod.mk.inj schedule).1.trans warm.unpaced
  · rw [samples, List.length_append, warm.length, List.length_singleton]
  · rw [samples, List.map_append, List.sum_append, warm.temperature, List.map_singleton,
      List.sum_singleton, ImuPacket.reading, twenty]
    push_cast
    ring

/-- Warm ticks add as many warm samples. -/
theorem Warm.run {run : ImuRun E C M D} (warm : run.Warm 0) (count : Nat) :
    (Library.run ImuRun.step run ((List.range count).map warmTick)).Warm count := by
  -- Each tick adds one warm sample to those of the ticks before it.
  induction count with
  | zero => exact warm
  | succ count ih =>
    rw [List.range_succ, List.map_append, run_append]
    exact ih.step count

/-- After more samples than can be counted control does not run on their mean. -/
theorem Warm.not_averagesTruly {run : ImuRun E C M D} (warm : run.Warm 0) {count : Nat}
    (many : 65535 < count) : ¬Along AveragesTruly ImuRun.step run (warmFlight count) := by
  rw [warmFlight, along_append]
  rintro ⟨_, _, truly, _⟩
  have ticked := warm.run count
  generalize Library.run ImuRun.step run ((List.range count).map warmTick) = ready at ticked truly
  -- The change of the rate leaves the samples alone.
  have rated := ticked.accumulated.step (.controlRate 100 (1000 * count))
  have samples : (ready.step (.controlRate 100 (1000 * count))).samples = ready.samples :=
    List.append_nil _
  have present : (ready.step (.controlRate 100 (1000 * count))).world.controlImuAccumulator.count =
      65535 := by
    rw [rated, (ImuSampleAccumulator.sums_accumulated _).count, samples, ticked.length]
    omega
  -- The update is due, and there are samples to run on.
  have may : (ready.step (.controlRate 100 (1000 * count))).world.controlUpdateCanRunAt
      (1000 * count + 10000) = true := by
    have due : (ready.step (.controlRate 100 (1000 * count))).world.controlUpdateDueAt
        (1000 * count + 10000) = true := by
      have rate : (ready.step (.controlRate 100 (1000 * count))).world.controlHz = 100 := rfl
      have last : (ready.step (.controlRate 100 (1000 * count))).world.lastControlUpdateUs =
          1000 * count := rfl
      rw [World.controlUpdateDueAt, World.controlIntervalUs, rate, last, Bool.and_eq_true,
        decide_eq_true_eq, decide_eq_true_eq]
      omega
    rw [World.controlUpdateCanRunAt, due, ImuSampleAccumulator.hasSamples, present]
    rfl
  have countable : Countable ready.samples := by
    have counted := (averagesTruly_iff rated _).mp truly ?_
    · rw [pending, samples] at counted
      exact (List.append_nil ready.samples) ▸ counted
    · rw [World.consumesControlAt]
      simp only [World.paced, may, and_true]
      rfl
  -- There are too many samples to be counted, and their temperatures do not cancel.
  rcases countable with few | cancels
  · rw [ticked.length] at few
    omega
  · have zero := cancels .temperature
    rw [ticked.temperature] at zero
    have none : count = 0 := by simpa using zero
    omega

/-- After sixty-six seconds of control on every sample, fixed-rate control is turned on and runs on
something else than the mean. -/
theorem warmFlight_averages_wrongly :
    ¬Along AveragesTruly ImuRun.step
      { world := (benchWorld switchParams 8 : BenchWorld ℚ ℚ), samples := [] }
      (warmFlight 65536) := by
  -- The bench starts without samples and is given one more than a count can hold.
  have fresh : Warm 0
      ({ world := benchWorld switchParams 8, samples := [] } : ImuRun (IdleEstimator ℚ ℚ)
        (IdleController ℚ ℚ) (MatrixMixer ℚ ℚ) (AcceptingDriver ℚ)) := by
    constructor
    · rfl
    · rfl
    · rfl
    · simp
  exact fresh.not_averagesTruly (by omega)

end ImuRun

end Veloxity
