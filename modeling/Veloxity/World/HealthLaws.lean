import Veloxity.World.CalibrationLaws
import Veloxity.World.RealtimeRuns

/-! When a silent inertial sensor is reported. -/

namespace Veloxity

open StateManager (Evolves ErrorEvent PilotEvent)

variable {F R S O E C M D : Type}

/-- A run with what its health checks have seen of the inertial sensor. -/
structure HealthWatch (F R E C M D : Type) where
  world : World F R E C M D
  held : Bool
  -- The check of the stage that last received a sample.
  receivedUs : Nat
  -- The last check since then of a service poll that kept the sample held so far.
  retainedUs : Option Nat
  -- The last check, whatever it saw.
  checkedUs : Nat

namespace HealthWatch

/-- When a health check last saw a sample, received or kept. -/
def seenUs (watch : HealthWatch F R E C M D) : Nat := watch.retainedUs.getD watch.receivedUs

section Definitions

variable [FlightFloat F] [FlightFloat R] [FloatCast F R] [ReflectionFormat F] [Estimator F R S E]
  [Controller F R S O C] [Mixer F R O M] [PwmDriver R D]

/-- Run a stage, and note what its health check sees. -/
def step (watch : HealthWatch F R E C M D) (stage : Stage F R) : HealthWatch F R E C M D :=
  match stage.healthCheckUs with
  | none => { watch with world := watch.world.stage stage }
  | some nowUs =>
    let ran := { watch with world := watch.world.stage stage, checkedUs := nowUs }
    if stage.receivesImu then { ran with held := true, receivedUs := nowUs, retainedUs := none }
    else if stage.holdsImu watch.held then { ran with held := true, retainedUs := some nowUs }
    else { ran with held := false }

/-- After a health check a sensor last heard of too long ago is reported, and the report is taken
back only by a stage that receives a sample. -/
def ReportsSilence (lastUs : HealthWatch F R E C M D → Nat) (watch : HealthWatch F R E C M D)
    (stage : Stage F R) : Prop :=
  (∀ nowUs checked, stage.healthCheckUs = some nowUs → watch.world.checked stage = some checked →
    lastUs (watch.step stage) + IMU_TIMEOUT_US < nowUs →
      .imuNotResponding ∈ checked.state.getErrors) ∧
  (.imuNotResponding ∈ watch.world.state.getErrors →
    .imuNotResponding ∉ (watch.world.stage stage).state.getErrors → stage.receivesImu = true)

/-- No check is made before the one before it. -/
def Clocked (watch : HealthWatch F R E C M D) (stage : Stage F R) : Prop :=
  ∀ nowUs ∈ stage.healthCheckUs, watch.checkedUs ≤ nowUs

/-- Whether a check is made out of order is decided from the times noted. -/
instance (watch : HealthWatch F R E C M D) (stage : Stage F R) : Decidable (watch.Clocked stage) :=
  inferInstanceAs (Decidable (∀ nowUs ∈ stage.healthCheckUs, _))

/-- No check that finds the last sample received too old comes soon after a service poll, its own
included, that has kept that sample for want of an inertial report. -/
def Unmasked (watch : HealthWatch F R E C M D) (stage : Stage F R) : Prop :=
  ∀ nowUs ∈ stage.healthCheckUs, (watch.step stage).receivedUs + IMU_TIMEOUT_US < nowUs →
    ∀ keptUs ∈ (watch.step stage).retainedUs, keptUs + IMU_TIMEOUT_US < nowUs

/-- Whether a check comes too soon is decided from the times noted. -/
instance (watch : HealthWatch F R E C M D) (stage : Stage F R) : Decidable (watch.Unmasked stage) :=
  inferInstanceAs (Decidable (∀ nowUs ∈ stage.healthCheckUs, _ → ∀ keptUs ∈ _, _))

/-- The notes are right, and the silence is reported only while no sample is held. -/
structure Invariant (watch : HealthWatch F R E C M D) : Prop where
  held : watch.world.processedSensors.imu.isSome = watch.held
  seen : watch.world.lastImuSeen = watch.seenUs
  silent : .imuNotResponding ∈ watch.world.state.getErrors → watch.held = false

/-- Beyond that, silence is reported only once a check has found the last sample seen too old. -/
structure Timely (watch : HealthWatch F R E C M D) : Prop extends watch.Invariant where
  late : .imuNotResponding ∈ watch.world.state.getErrors →
    watch.seenUs + IMU_TIMEOUT_US < watch.checkedUs

end Definitions

end HealthWatch

namespace Stage

/-- A stage that receives a sample holds it. -/
theorem holdsImu_of_receives {stage : Stage F R} (received : stage.receivesImu = true)
    (held : Bool) : stage.holdsImu held = true := by
  cases stage with
  | sensors input log => exact received
  | imuTick input => exact received
  | serviceSensors input =>
    -- What was received was reported.
    have reported : (Stage.serviceSensors input).imuReport.isSome = true := by
      cases report : (Stage.serviceSensors input).imuReport with
      | none => rw [receivesImu, report] at received; exact nomatch received
      | some packet => rfl
    simp only [holdsImu, reported, if_true]
    exact received
  | _ => exact nomatch received

/-- A stage that holds a sample where none was held has received it. -/
theorem receivesImu_of_holds {stage : Stage F R} (holds : stage.holdsImu false = true) :
    stage.receivesImu = true := by
  cases stage with
  | sensors input log => exact holds
  | imuTick input => exact holds
  | serviceSensors input =>
    -- Only a report can bring a sample.
    simp only [holdsImu] at holds
    split at holds
    · exact holds
    · exact nomatch holds
  | _ => exact nomatch holds

end Stage

namespace World

variable [FlightFloat F] [FlightFloat R] [FloatCast F R] [Estimator F R S E]

omit [FlightFloat F] [FlightFloat R] [FloatCast F R] [Estimator F R S E] in
/-- After a check the silence is reported if no sample is held and the last one is too old, and
not if one is held; else the report stands as it did. -/
theorem mem_getErrors_noteSensorHealth (world : World F R E C M D) (nowUs : Nat) :
    .imuNotResponding ∈ (world.noteSensorHealth nowUs).state.getErrors ↔
      world.processedSensors.imu.isSome = false ∧
        (world.lastImuSeen + IMU_TIMEOUT_US < nowUs ∨
          .imuNotResponding ∈ world.state.getErrors) := by
  -- A held sample clears the report, and without one only a long silence raises it.
  cases held : world.processedSensors.imu.isSome with
  | true =>
    rw [noteSensorHealth_of_held nowUs held]
    have cleared := StateManager.mem_getErrors_setErrorFlag_self world.state .imuNotResponding false
      world.params
    exact cleared.trans (by simp)
  | false =>
    by_cases late : world.lastImuSeen + IMU_TIMEOUT_US < nowUs
    · rw [noteSensorHealth_of_silent held late]
      have raised := StateManager.mem_getErrors_setErrorFlag_self world.state .imuNotResponding
        true world.params
      exact raised.trans (by simp [late])
    · rw [noteSensorHealth_of_recent held late]
      simp [late]

omit [FlightFloat F] [FlightFloat R] [FloatCast F R] [Estimator F R S E] in
/-- A check remembers its time if a sample is held. -/
theorem lastImuSeen_noteSensorHealth (world : World F R E C M D) (nowUs : Nat) :
    (world.noteSensorHealth nowUs).lastImuSeen =
      if world.processedSensors.imu.isSome then nowUs else world.lastImuSeen := by
  -- Only a held sample is remembered with the time of the check.
  cases held : world.processedSensors.imu.isSome with
  | true =>
    rw [noteSensorHealth_of_held nowUs held]
    rfl
  | false =>
    by_cases late : world.lastImuSeen + IMU_TIMEOUT_US < nowUs
    · rw [noteSensorHealth_of_silent held late]
      rfl
    · rw [noteSensorHealth_of_recent held late]
      rfl

end World

section Effects

variable [FlightFloat F] [FlightFloat R] [FloatCast F R] [ReflectionFormat F] [Estimator F R S E]
  [Controller F R S O C] [Mixer F R O M] [PwmDriver R D]

namespace World

/-- A stage checks the inertial sensor's health, or leaves all that the check is about alone. -/
inductive HealthEffect (world : World F R E C M D) (stage : Stage F R) : Prop
  | checked (nowUs : Nat) (checked : World F R E C M D)
      (time : stage.healthCheckUs = some nowUs) (made : world.checked stage = some checked)
      (held : (world.stage stage).processedSensors.imu.isSome =
        stage.holdsImu world.processedSensors.imu.isSome)
      (seen : (world.stage stage).lastImuSeen =
        if stage.holdsImu world.processedSensors.imu.isSome then nowUs else world.lastImuSeen)
      (reported : .imuNotResponding ∈ checked.state.getErrors ↔
        stage.holdsImu world.processedSensors.imu.isSome = false ∧
          (world.lastImuSeen + IMU_TIMEOUT_US < nowUs ∨
            .imuNotResponding ∈ world.state.getErrors))
      (kept : .imuNotResponding ∈ (world.stage stage).state.getErrors ↔
        .imuNotResponding ∈ checked.state.getErrors)
  | quiet (time : stage.healthCheckUs = none)
      (held : (world.stage stage).processedSensors = world.processedSensors)
      (seen : (world.stage stage).lastImuSeen = world.lastImuSeen)
      (kept : .imuNotResponding ∈ (world.stage stage).state.getErrors ↔
        .imuNotResponding ∈ world.state.getErrors)

/-- Every stage does one of the two. -/
theorem healthEffect (world : World F R E C M D) (stage : Stage F R) :
    world.HealthEffect stage := by
  rcases world.stageEffect stage with
    ⟨ready, nowUs, sensing, senses, held, rest⟩ | ⟨input, rfl⟩ | ⟨nowMs, freshRc, rfl⟩ |
      ⟨idle, _, rest⟩
  · -- A stage that senses checks what it has processed, before anything else of it runs.
    obtain ⟨made, time⟩ := checked_of_sensed sensing
    obtain ⟨state, calFlags, settled⟩ := (ready.noteSensorHealth nowUs).settleArmCalibration_eq
    have sensors := rest.sensors
    have seen := rest.lastImuSeen
    have reported := ready.mem_getErrors_noteSensorHealth nowUs
    -- The rest of the stage raises and takes back other errors only.
    have kept : .imuNotResponding ∈ (world.stage stage).state.getErrors ↔
        .imuNotResponding ∈ (ready.noteSensorHealth nowUs).settleArmCalibration.state.getErrors :=
      rest.evolved.mem_getErrors (by decide)
    rw [mem_getErrors_settleArmCalibration (by decide)] at kept
    rw [settled] at sensors seen
    rw [held, senses.lastImuSeen, senses.evolved.mem_getErrors (by decide)] at reported
    refine .checked nowUs _ time made ?_ ?_ reported kept
    · exact (congrArg (fun samples => samples.imu.isSome) sensors).trans held
    · rw [← held, ← senses.lastImuSeen]
      exact seen.trans (ready.lastImuSeen_noteSensorHealth nowUs)
  · obtain ⟨sensors, seen⟩ := world.communication_sensors input
    exact .quiet rfl sensors seen ((world.evolves_communication input).mem_getErrors (by decide))
  · -- Of the pilot's errors none is about the inertial sensor.
    obtain ⟨state, sensors, seen, _⟩ := world.runRcCommandStateStages_rest nowMs freshRc
    have kept : .imuNotResponding ∈ (world.runRcCommandStateStages nowMs freshRc).state.getErrors ↔
        .imuNotResponding ∈ world.state.getErrors := by
      rw [state]
      exact (world.evolves_runRcCommandState nowMs freshRc).mem_getErrors_pilot (by decide)
        (by decide)
    exact .quiet rfl sensors seen kept
  · exact .quiet (healthCheckUs_of_idle idle).2 rest.sensors rest.lastImuSeen
      (rest.evolved.mem_getErrors (by decide))

omit [Mixer F R O M] in
/-- A world that has just started reports no silence. -/
theorem imuNotResponding_not_mem_init (params : Params F) (estimator : E) (controller : C)
    (mixer : M) (pwm : D) (nowUs : Nat) (backup : Option RosflightHardErrorMsg) :
    .imuNotResponding ∉ (init params .new estimator controller mixer pwm nowUs backup :
      World F R E C M D).state.getErrors := by
  have initialised :
      .imuNotResponding ∉ (interlockedState (initialParams params) .new).getErrors := by
    have interlock := StateManager.evolves_setErrorFlag
      (StateManager.new.update .INITIALIZED (initialParams params)) ErrorFlag.UNCALIBRATED_IMU
      (imuBiasParamsAreAllZero (initialParams params)) (initialParams params)
    exact fun held => absurd ((interlock.mem_getErrors (by decide)).mp held) (Finset.notMem_empty _)
  have configured := CommandManager.new.evolves_updateFailsafeConfig (initialParams params)
    (interlockedState (initialParams params) .new)
  have absent : .imuNotResponding ∉ (CommandManager.new.updateFailsafeConfig
      (initialParams params) (interlockedState (initialParams params) .new)).2.getErrors :=
    fun held => initialised ((configured.mem_getErrors (by decide)).mp held)
  show .imuNotResponding ∉ (rearmAfterHardfault backup (initialParams params)
    (CommandManager.new.updateFailsafeConfig (initialParams params)
      (interlockedState (initialParams params) .new)).2).getErrors
  -- A rearm after a hard fault is an ordinary event.
  unfold rearmAfterHardfault
  split
  · split
    · rwa [StateManager.mem_getErrors_update_of_ordinary (by decide) (by simp) (by simp)]
    · exact absent
  · exact absent

end World

namespace HealthWatch

/-- A health check notes its time as the last one that saw a sample, if it saw one. -/
theorem step_of_checked (watch : HealthWatch F R E C M D) {stage : Stage F R} {nowUs : Nat}
    (time : stage.healthCheckUs = some nowUs) :
    (watch.step stage).held = stage.holdsImu watch.held ∧
      (watch.step stage).seenUs =
        (if stage.holdsImu watch.held then nowUs else watch.seenUs) ∧
      (watch.step stage).checkedUs = nowUs := by
  unfold step
  rw [time]
  -- A sample was received, kept or is missing.
  cases received : stage.receivesImu with
  | true => simp [Stage.holdsImu_of_receives received, seenUs]
  | false =>
    cases holds : stage.holdsImu watch.held with
    | true => simp [seenUs]
    | false => simp [seenUs]

/-- A stage without a health check notes nothing. -/
theorem step_of_quiet (watch : HealthWatch F R E C M D) {stage : Stage F R}
    (time : stage.healthCheckUs = none) :
    watch.step stage = { watch with world := watch.world.stage stage } := by
  -- The notes change only at a check.
  unfold step
  rw [time]

/-- A stage runs on the watched world. -/
theorem step_world (watch : HealthWatch F R E C M D) (stage : Stage F R) :
    (watch.step stage).world = watch.world.stage stage := by
  -- The notes are of no consequence to the world.
  unfold step
  cases stage.healthCheckUs with
  | none => rfl
  | some nowUs =>
    dsimp only
    split
    · rfl
    · split
      · rfl
      · rfl

/-- Every stage keeps the invariant. -/
theorem invariant_step (watch : HealthWatch F R E C M D) (stage : Stage F R)
    (before : watch.Invariant) : (watch.step stage).Invariant := by
  -- A stage that checks refreshes all three parts, and any other one touches none of them.
  rcases watch.world.healthEffect stage with
    ⟨nowUs, checked, time, _, held, seen, reported, kept⟩ | ⟨time, held, seen, kept⟩
  · obtain ⟨heldAfter, seenAfter, _⟩ := watch.step_of_checked time
    rw [before.held] at held seen reported
    refine ⟨?_, ?_, ?_⟩
    · rw [step_world, heldAfter, held]
    · rw [step_world, seenAfter, seen, before.seen]
    · rw [step_world, heldAfter, kept, reported]
      exact And.left
  · rw [watch.step_of_quiet time]
    exact ⟨by rw [held, before.held], seen.trans before.seen, fun flagged =>
      before.silent (kept.mp flagged)⟩

/-- While the invariant holds, a stage reports silence as it should. -/
theorem reportsSilence_of_invariant (watch : HealthWatch F R E C M D) (stage : Stage F R)
    (before : watch.Invariant) : ReportsSilence seenUs watch stage := by
  rcases watch.world.healthEffect stage with
    ⟨nowUs, checked, time, made, held, seen, reported, kept⟩ | ⟨time, held, seen, kept⟩
  · obtain ⟨_, seenAfter, _⟩ := watch.step_of_checked time
    rw [before.held, before.seen] at reported
    constructor
    · intro now found check makes late
      obtain rfl : nowUs = now := Option.some.inj (time.symm.trans check)
      obtain rfl : checked = found := Option.some.inj (made.symm.trans makes)
      rw [seenAfter] at late
      -- A sample seen at this check would not be old.
      cases holds : stage.holdsImu watch.held with
      | true => rw [holds, if_pos rfl] at late; omega
      | false =>
        rw [holds, if_neg Bool.false_ne_true] at late
        exact reported.mpr ⟨holds, Or.inl late⟩
    · intro flagged cleared
      rw [kept, reported] at cleared
      rw [before.silent flagged] at cleared
      by_contra unreceived
      -- Without a new sample none would be held, and the report would stand.
      cases holds : stage.holdsImu false with
      | true => exact unreceived (Stage.receivesImu_of_holds holds)
      | false => exact cleared ⟨holds, Or.inr flagged⟩
  · exact ⟨fun now _ check => (nomatch time.symm.trans check),
      fun flagged cleared => absurd (kept.mpr flagged) cleared⟩

/-- As long as the clock does not run backwards, no report comes before its time. -/
theorem timely_step (watch : HealthWatch F R E C M D) (stage : Stage F R)
    (before : watch.Timely) (clocked : watch.Clocked stage) : (watch.step stage).Timely := by
  refine ⟨watch.invariant_step stage before.toInvariant, ?_⟩
  rcases watch.world.healthEffect stage with
    ⟨nowUs, checked, time, _, held, seen, reported, kept⟩ | ⟨time, held, seen, kept⟩
  · obtain ⟨_, seenAfter, checkedAfter⟩ := watch.step_of_checked time
    rw [before.held, before.seen] at reported
    rw [step_world, kept, reported, checkedAfter, seenAfter]
    rintro ⟨missing, late⟩
    rw [missing, if_neg Bool.false_ne_true]
    -- An older report was in time at the check before this one.
    have ordered := clocked nowUs time
    rcases late with late | flagged
    · exact late
    · exact lt_of_lt_of_le (before.late flagged) ordered
  · rw [watch.step_of_quiet time]
    exact fun flagged => before.late (kept.mp flagged)

/-- While no report comes before its time, a stage reports the silence since the last sample
received exactly when no service poll masks it. -/
theorem reportsSilence_iff_unmasked (watch : HealthWatch F R E C M D) (stage : Stage F R)
    (before : watch.Timely) (clocked : watch.Clocked stage) :
    ReportsSilence receivedUs watch stage ↔ watch.Unmasked stage := by
  obtain ⟨found, takenBack⟩ := watch.reportsSilence_of_invariant stage before.toInvariant
  rcases watch.world.healthEffect stage with
    ⟨nowUs, checked, time, made, held, seen, reported, kept⟩ | ⟨time, held, seen, kept⟩
  · obtain ⟨_, seenAfter, _⟩ := watch.step_of_checked time
    rw [before.held, before.seen] at reported
    constructor
    · intro ⟨reports, _⟩ now check late keptUs polled
      obtain rfl : nowUs = now := Option.some.inj (time.symm.trans check)
      -- The check that reports has not kept the sample, and the last poll that did is old.
      have known : (watch.step stage).seenUs = keptUs := by
        rw [seenUs, Option.mem_def.mp polled, Option.getD_some]
      obtain ⟨missing, old | flagged⟩ := reported.mp (reports nowUs checked time made late)
      · rw [← known, seenAfter, missing, if_neg Bool.false_ne_true]
        exact old
      · rw [← known, seenAfter, missing, if_neg Bool.false_ne_true]
        exact lt_of_lt_of_le (before.late flagged) (clocked nowUs time)
    · intro unmasked
      refine ⟨fun now check counted makes late => ?_, takenBack⟩
      apply found now check counted makes
      -- What was last seen was received, or kept by a poll that is as old.
      cases polled : (watch.step stage).retainedUs with
      | none => rwa [seenUs, polled, Option.getD_none]
      | some keptUs =>
        rw [seenUs, polled, Option.getD_some]
        exact unmasked now counted late keptUs polled
  · refine iff_of_true ⟨fun now _ check => (nomatch time.symm.trans check), takenBack⟩ ?_
    intro now check
    exact nomatch time.symm.trans check

omit [FlightFloat F] [FlightFloat R] [FloatCast F R] [ReflectionFormat F] [Estimator F R S E]
  [Controller F R S O C] [Mixer F R O M] [PwmDriver R D] in
/-- A watch on a world that has just started. -/
def start (world : World F R E C M D) (nowUs : Nat) : HealthWatch F R E C M D :=
  { world, held := false, receivedUs := nowUs, retainedUs := none, checkedUs := nowUs }

omit [Mixer F R O M] in
/-- The invariant holds from the start. -/
theorem invariant_start (params : Params F) (estimator : E) (controller : C) (mixer : M) (pwm : D)
    (nowUs : Nat) (backup : Option RosflightHardErrorMsg) :
    (start (World.init params .new estimator controller mixer pwm nowUs backup) nowUs).Invariant :=
  -- No error is held, and the sensor counts as seen at the start.
  ⟨rfl, rfl, fun _ => rfl⟩

omit [Mixer F R O M] in
/-- At the start no report has come before its time. -/
theorem timely_start (params : Params F) (estimator : E) (controller : C) (mixer : M) (pwm : D)
    (nowUs : Nat) (backup : Option RosflightHardErrorMsg) :
    (start (World.init params .new estimator controller mixer pwm nowUs backup) nowUs).Timely where
  toInvariant := invariant_start params estimator controller mixer pwm nowUs backup
  late flagged := absurd flagged (World.imuNotResponding_not_mem_init params estimator controller
    mixer pwm nowUs backup)

/-- In every interleaving of stages on a clock that does not run backwards, the silence since the
last sample received is reported at every health check, and the report taken back only by a stage
that receives a sample, if and only if no service poll masks it by keeping the sample. -/
theorem reportsReceived_along_iff (params : Params F) (estimator : E) (controller : C) (mixer : M)
    (pwm : D) (nowUs : Nat) (backup : Option RosflightHardErrorMsg) {stages : List (Stage F R)}
    (clocked : Library.Along Clocked step
      (start (World.init params .new estimator controller mixer pwm nowUs backup) nowUs) stages) :
    Library.Along (ReportsSilence receivedUs) step
        (start (World.init params .new estimator controller mixer pwm nowUs backup) nowUs) stages ↔
      Library.Along Unmasked step
        (start (World.init params .new estimator controller mixer pwm nowUs backup) nowUs)
        stages :=
  Library.along_congr_given Timely (fun watch stage before clocked _ =>
      watch.timely_step stage before clocked)
    reportsSilence_iff_unmasked (timely_start params estimator controller mixer pwm nowUs backup)
    clocked

end HealthWatch

end Effects

/-- A tick with an inertial sample. -/
def lastTick : ImuTickInput ℚ ℚ :=
  { nowUs := 1000, nowMs := 1, raw := some (.ok (restingSample 1000)), finishedUs := 1000 }

/-- A service step long after, with no news of any sensor and no time but for its sensor stage. -/
def silentService : ServiceStepInput ℚ ℚ :=
  let cut : SlackReading := { imuPending := true, nowUs := 200000 }
  { telemetrySlack := cut, telemetry := []
    sensorSlack := { imuPending := false, nowUs := 200000 }
    sensors := { nowUs := 200000, nowMs := 200, raw := {} }
    inputSlack := cut, serialRxPending := false
    communication :=
      { incoming := [], clock := { timesyncUs := 200000, offboardUs := 200000 }
        storage :=
          { readParams := fun _ params => (params, false), writeParams := fun _ _ => false }
        reactionUs := 200000 }
    rcSlack := cut, rcMs := 200, responseSlack := cut, log := none }

/-- A sample is received, and the sensor is silent in the ticks and polls that follow. -/
def silentRun : List (Stage ℚ ℚ) :=
  [.imuTick lastTick,
    .imuTick { nowUs := 150000, nowMs := 150, raw := none, finishedUs := 150000 },
    .serviceSensors silentService.sensors]

/-- No poll keeps the sample once a tick without one has dropped it, and the silence is reported. -/
theorem silentRun_reported :
    Library.Along (HealthWatch.ReportsSilence HealthWatch.receivedUs) HealthWatch.step
        (HealthWatch.start (benchWorld switchParams 8) 0) silentRun ∧
      .imuNotResponding ∈
        (Library.run World.stage (benchWorld switchParams 8) silentRun).state.getErrors :=
  ⟨(HealthWatch.reportsReceived_along_iff _ _ _ _ _ _ _ (by decide +kernel)).mpr
    (by decide +kernel), by decide +kernel⟩

/-- A service opportunity of one step. -/
def pacedPolicy : RealtimeServicePolicy :=
  { minSpacingUs := 1000, telemetryStreamsPerPhase := 1, continueWhenIdle := false
    drainTelemetryWithAvailableSlack := false }

/-- Such a service step is its sensor stage alone while control runs on every sample. -/
theorem runPrioritizedServiceStep_silentService {world : BenchWorld ℚ ℚ}
    (unpaced : world.controlHz = 0) (policy : RealtimeServicePolicy) :
    (world.runPrioritizedServiceStep policy silentService).1 =
      world.runServiceSensorStage silentService.sensors := by
  have paused (before : BenchWorld ℚ ℚ) :
      before.realtimeServiceCanContinue { imuPending := true, nowUs := 200000 } = false := rfl
  have untold : world.serviceTelemetry policy silentService = (world, false) := rfl
  have sensing : world.serviceSenses policy silentService = true := by
    rw [World.serviceSenses, untold]
    simp [World.realtimeServiceCanContinue, World.controlUpdateCanRunAt,
      World.controlUpdateDueAt, World.realtimeServiceHasControlSlack, unpaced, silentService]
  -- Every later part finds a sample pending.
  have sensed : world.serviceSensed policy silentService =
      world.runServiceSensorStage silentService.sensors := by
    rw [World.serviceSensed, sensing, untold]
    rfl
  have served : world.serviceServed policy silentService =
      world.runServiceSensorStage silentService.sensors := by
    rw [World.serviceServed, sensed]
    exact if_neg (Bool.eq_false_iff.mp (paused _))
  have resolved : world.serviceResolved policy silentService =
      world.runServiceSensorStage silentService.sensors := by
    rw [World.serviceResolved, World.serviceResolves, served]
    exact if_neg (Bool.eq_false_iff.mp (paused _))
  rw [World.runPrioritizedServiceStep_eq, resolved]
  exact if_neg (Bool.eq_false_iff.mp (paused _))

/-- The service poll sees the sample of the tick again, so that the silence is not reported. -/
theorem silentService_unreported :
    Library.run World.realtimeStep (benchWorld switchParams 8)
        [.imuControl lastTick, .service pacedPolicy silentService] =
      Library.run World.stage (benchWorld switchParams 8)
        [.imuTick lastTick, .serviceSensors silentService.sensors] ∧
    ¬ Library.Along (HealthWatch.ReportsSilence HealthWatch.receivedUs) HealthWatch.step
      (HealthWatch.start (benchWorld switchParams 8) 0)
      [.imuTick lastTick, .serviceSensors silentService.sensors] := by
  constructor
  · have unpaced : ((benchWorld switchParams 8).runImuControlTick lastTick).controlHz = 0 := by
      decide +kernel
    exact runPrioritizedServiceStep_silentService unpaced pacedPolicy
  · rintro ⟨_, ⟨reports, _⟩, _⟩
    -- The sample was received a fifth of a second before the check.
    have unreported (watch : HealthWatch ℚ ℚ (IdleEstimator ℚ ℚ) (IdleController ℚ ℚ)
        (MatrixMixer ℚ ℚ) (AcceptingDriver ℚ)) (reached : (HealthWatch.start (benchWorld
          switchParams 8) 0).step (.imuTick lastTick) = watch) :
        (watch.step (.serviceSensors silentService.sensors)).receivedUs + IMU_TIMEOUT_US <
            200000 ∧
          ((watch.world.checked (.serviceSensors silentService.sensors)).map fun checked =>
            decide (.imuNotResponding ∈ checked.state.getErrors)) = some false := by
      rw [← reached]
      decide +kernel
    obtain ⟨late, found⟩ := unreported _ rfl
    obtain ⟨checked, made, missing⟩ := Option.map_eq_some_iff.mp found
    exact absurd (reports 200000 checked rfl made late) (decide_eq_false_iff_not.mp missing)

end Veloxity
