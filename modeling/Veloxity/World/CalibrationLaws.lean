import Veloxity.World.Bench
import Veloxity.World.StageEffects

/-! When the calibration before arming is declared complete. -/

namespace Veloxity

open StateManager (Evolves ErrorEvent)

variable {F R S O E C M D : Type}

/-- When a stage checks the inertial sensor's health. -/
def Stage.healthCheckUs : Stage F R → Option Nat
  | .sensors input _ | .serviceSensors input => some input.nowUs
  | .imuTick input => some input.nowUs
  | _ => none

section Definitions

variable [FlightFloat F] [FlightFloat R] [FloatCast F R] [Estimator F R S E]

namespace World

/-- A stage completes the calibration that arming waits for. -/
def completesCalibration (world : World F R E C M D) (stage : Stage F R) : Bool :=
  match world.checked stage with
  | some checked => checked.armCalibrationEvent = some .CALIBRATION_COMPLETE
  | none => false

/-- A gyro window that was open before a stage has succeeded by the time the stage settles. -/
def finishesGyroWindow (world : World F R E C M D) (stage : Stage F R) : Bool :=
  match world.checked stage with
  | some checked => windowFinished .gyro .gyroFailed world.calFlags checked.calFlags
  | none => false

/-- A sensor stage of a calibrating vehicle finds a gyro window open or failed, or reports
that no inertial sample has been held for too long. -/
def WindowKnown (world : World F R E C M D) (stage : Stage F R) : Prop :=
  ∀ nowUs, stage.healthCheckUs = some nowUs → world.state.isCalibrating = true →
    .gyro ∈ world.calFlags ∨ .gyroFailed ∈ world.calFlags ∨
      (stage.holdsImu world.processedSensors.imu.isSome = false ∧
        world.lastImuSeen + IMU_TIMEOUT_US < nowUs)

end World

end Definitions

/-- A run with a note whether a gyro window has succeeded since calibration was entered. -/
structure CalibrationWatch (F R E C M D : Type) where
  world : World F R E C M D
  finished : Bool

namespace CalibrationWatch

variable [FlightFloat F] [FlightFloat R] [FloatCast F R] [ReflectionFormat F] [Estimator F R S E]
  [Controller F R S O C] [Mixer F R O M] [PwmDriver R D]

omit [ReflectionFormat F] [Controller F R S O C] [Mixer F R O M] [PwmDriver R D] in
/-- A gyro window has succeeded by the time a stage settles the calibration. -/
def finishedBy (watch : CalibrationWatch F R E C M D) (stage : Stage F R) : Bool :=
  watch.finished || watch.world.finishesGyroWindow stage

/-- Run a stage, and forget earlier windows when it enters calibration. -/
def step (watch : CalibrationWatch F R E C M D) (stage : Stage F R) :
    CalibrationWatch F R E C M D :=
  let after := watch.world.stage stage
  { world := after
    finished :=
      if watch.world.state.isCalibrating = false ∧ after.state.isCalibrating = true then false
      else watch.finishedBy stage }

/-- A stage declares the calibration complete, and arms from it, only after a window's success. -/
def CompletesCalibrated (watch : CalibrationWatch F R E C M D) (stage : Stage F R) : Prop :=
  (watch.world.completesCalibration stage = true → watch.finishedBy stage = true) ∧
    (watch.world.state.isCalibrating = true → (watch.world.stage stage).state.isArmed = true →
      watch.finishedBy stage = true)

/-- No success is noted while calibration goes on, and blocking errors never wait to arm. -/
structure Invariant (watch : CalibrationWatch F R E C M D) : Prop where
  unfinished : watch.world.state.isCalibrating = true → watch.finished = false
  ignorable : watch.world.state.machine.HoldsOnlyIgnorable

end CalibrationWatch

/-- A window finishes when it was open, is closed and has not failed. -/
theorem windowFinished_iff {request failed : CalibrationFlag} {before after : CalibrationFlags} :
    windowFinished request failed before after = true ↔
      (request ∈ before ∧ request ∉ after) ∧ failed ∉ after := by
  simp only [windowFinished, Bool.and_eq_true, decide_eq_true_eq]

section Checked

variable [FlightFloat F] [FlightFloat R] [FloatCast F R] [Estimator F R S E]

namespace World

omit [Estimator F R S E] [FlightFloat F] [FlightFloat R] [FloatCast F R] in
/-- The check ends a calibration exactly when it reports the sensor's silence. -/
theorem isCalibrating_noteSensorHealth {world : World F R E C M D} (nowUs : Nat)
    (ignorable : world.state.machine.HoldsOnlyIgnorable) :
    (world.noteSensorHealth nowUs).state.isCalibrating = true ↔
      world.state.isCalibrating = true ∧
        ¬(world.processedSensors.imu.isSome = false ∧
          world.lastImuSeen + IMU_TIMEOUT_US < nowUs) := by
  cases held : world.processedSensors.imu.isSome with
  | true =>
    rw [noteSensorHealth_of_held nowUs held]
    simp [StateManager.isCalibrating_setErrorFlag_clear]
  | false =>
    by_cases late : world.lastImuSeen + IMU_TIMEOUT_US < nowUs
    · rw [noteSensorHealth_of_silent held late]
      -- The silence cannot have been reported before, since it would have blocked the entry.
      have unreported (calibrating : world.state.isCalibrating = true) :
          ¬ErrorFlag.IMU_NOT_RESPONDING ⊆ world.state.getErrors := by
        obtain ⟨errors, same⟩ := StateManager.isCalibrating_iff.mp calibrating
        rw [StateManager.getErrors, same]
        rw [same] at ignorable
        exact fun present => absurd (present.trans ignorable) (by decide)
      simp only [StateManager.isCalibrating_setErrorFlag_raise, Bool.and_eq_true,
        decide_eq_true_eq, late, and_self, not_true_eq_false, and_false, iff_false]
      exact fun both => unreported both.1 both.2
    · rw [noteSensorHealth_of_recent held late]
      simp [late]

omit [Estimator F R S E] [FlightFloat F] [FlightFloat R] [FloatCast F R] in
/-- The calibration is complete when it goes on with no window open or failed. -/
theorem armCalibrationEvent_eq_complete_iff {world : World F R E C M D} :
    world.armCalibrationEvent = some .CALIBRATION_COMPLETE ↔
      world.state.isCalibrating = true ∧ .gyro ∉ world.calFlags ∧
        .gyroFailed ∉ world.calFlags := by
  unfold armCalibrationEvent
  -- A failure is looked at first.
  by_cases calibrating : world.state.isCalibrating = true
  · by_cases failed : CalibrationFlag.gyroFailed ∈ world.calFlags
    · simp [calibrating, failed]
    · simp [calibrating, failed]
  · simp [calibrating]

omit [Estimator F R S E] [FlightFloat F] [FlightFloat R] [FloatCast F R] in
/-- Settling a calibration with no window open or failed ends it. -/
theorem isCalibrating_settleArmCalibration {world : World F R E C M D}
    (closed : .gyro ∉ world.calFlags) (sound : .gyroFailed ∉ world.calFlags) :
    world.settleArmCalibration.state.isCalibrating = false := by
  rw [settleArmCalibration_state]
  -- A calibration with nothing left to wait for is declared complete.
  cases calibrating : world.state.isCalibrating with
  | true =>
    rw [armCalibrationEvent_eq_complete_iff.mpr ⟨calibrating, closed, sound⟩]
    exact StateManager.isCalibrating_update_of_settled (Or.inl rfl) calibrating
  | false => simp [armCalibrationEvent, calibrating]

omit [Estimator F R S E] [FlightFloat F] [FlightFloat R] [FloatCast F R] in
/-- Settling arms a disarmed vehicle only by declaring the calibration complete. -/
theorem isArmed_settleArmCalibration {world : World F R E C M D}
    (disarmed : world.state.isArmed = false)
    (incomplete : world.armCalibrationEvent ≠ some .CALIBRATION_COMPLETE) :
    world.settleArmCalibration.state.isArmed = false := by
  rw [settleArmCalibration_state]
  unfold armCalibrationEvent at incomplete ⊢
  -- A failed calibration disarms, a complete one is excluded, and an open one changes nothing.
  split at incomplete
  · rename_i failed
    rw [if_pos failed]
    exact StateManager.isArmed_update_of_failed failed.1
  · rename_i unfailed
    rw [if_neg unfailed]
    split at incomplete
    · exact absurd rfl incomplete
    · rename_i open'
      rw [if_neg open']
      exact disarmed

/-- A sensor stage checks the world it has sensed, at the time of its health check. -/
theorem checked_of_sensed {world ready : World F R E C M D} {stage : Stage F R} {nowUs : Nat}
    (sensing : world.sensed stage = some (ready, nowUs)) :
    world.checked stage = some (ready.noteSensorHealth nowUs) ∧
      stage.healthCheckUs = some nowUs := by
  refine ⟨by rw [checked, sensing]; rfl, ?_⟩
  -- Each sensor stage reads its clock once.
  cases stage with
  | sensors input log =>
    obtain ⟨_, rfl⟩ := Prod.mk.inj (Option.some.inj sensing)
    rfl
  | serviceSensors input =>
    obtain ⟨_, rfl⟩ := Prod.mk.inj (Option.some.inj sensing)
    rfl
  | imuTick input =>
    obtain ⟨_, rfl⟩ := Prod.mk.inj (Option.some.inj sensing)
    rfl
  | _ => exact nomatch sensing

/-- A stage that senses nothing checks nothing. -/
theorem healthCheckUs_of_idle {world : World F R E C M D} {stage : Stage F R}
    (idle : world.sensed stage = none) :
    world.checked stage = none ∧ stage.healthCheckUs = none := by
  refine ⟨by rw [checked, idle]; rfl, ?_⟩
  -- The three stages that check also sense.
  cases stage with
  | sensors input log => exact nomatch idle
  | serviceSensors input => exact nomatch idle
  | imuTick input => exact nomatch idle
  | _ => rfl

end World

end Checked

section Watched

variable [FlightFloat F] [FlightFloat R] [FloatCast F R] [ReflectionFormat F] [Estimator F R S E]
  [Controller F R S O C] [Mixer F R O M] [PwmDriver R D]

/-- A stage arms a calibrating vehicle only by declaring the calibration complete. -/
theorem World.completesCalibration_of_arms {world : World F R E C M D} {stage : Stage F R}
    (calibrating : world.state.isCalibrating = true)
    (armed : (world.stage stage).state.isArmed = true) :
    world.completesCalibration stage = true := by
  have disarmed := StateManager.isArmed_of_calibrating calibrating
  have contradiction (still : (world.stage stage).state.isArmed = false) :
      world.completesCalibration stage = true := by rw [still] at armed; exact nomatch armed
  rcases world.stageEffect stage with
    ⟨ready, nowUs, sensing, senses, _, rest⟩ | ⟨input, rfl⟩ | ⟨nowMs, freshRc, rfl⟩ | ⟨_, _, rest⟩
  · -- Before and after settling only errors are raised or cleared.
    by_cases complete :
      (ready.noteSensorHealth nowUs).armCalibrationEvent = some .CALIBRATION_COMPLETE
    · rw [World.completesCalibration, (World.checked_of_sensed sensing).1]
      simpa using complete
    · have still := (World.evolves_noteSensorHealth ready nowUs).disarmed
        (senses.evolved.disarmed disarmed)
      exact contradiction
        (rest.evolved.disarmed (World.isArmed_settleArmCalibration still complete))
  · exact contradiction ((World.evolves_communication world input).disarmed disarmed)
  · exact contradiction (world.isArmed_runRcCommandState_of_calibrating nowMs freshRc calibrating)
  · exact contradiction (rest.evolved.disarmed disarmed)

namespace CalibrationWatch

/-- Every stage keeps the invariant. -/
theorem invariant_step (watch : CalibrationWatch F R E C M D) (stage : Stage F R)
    (held : watch.Invariant) : (watch.step stage).Invariant := by
  refine ⟨fun calibrating => ?_, (watch.world.evolves_stage stage).holdsOnlyIgnorable
    held.ignorable⟩
  change (watch.world.stage stage).state.isCalibrating = true at calibrating
  cases before : watch.world.state.isCalibrating with
  | false => simp [step, before, calibrating]
  | true =>
    -- A window that succeeds now would have ended the calibration.
    have unfinished : watch.world.finishesGyroWindow stage = false := by
      rcases watch.world.stageEffect stage with
        ⟨ready, nowUs, sensing, _, _, rest⟩ | ⟨input, rfl⟩ | ⟨nowMs, freshRc, rfl⟩ | ⟨idle, _, _⟩
      · rw [World.finishesGyroWindow, (World.checked_of_sensed sensing).1]
        by_contra succeeded
        have finished := windowFinished_iff.mp (by simpa using succeeded)
        have calm := rest.evolved.not_calibrating
          (World.isCalibrating_settleArmCalibration finished.1.2 finished.2)
        rw [show (watch.world.stage stage).state.isCalibrating = false from calm] at calibrating
        exact nomatch calibrating
      · rfl
      · rfl
      · rw [World.finishesGyroWindow, (World.healthCheckUs_of_idle idle).1]
    simp [step, before, finishedBy, held.unfinished before, unfinished]

/-- While the invariant holds, completion is sound exactly when the window's fate was known. -/
theorem completesCalibrated_iff (watch : CalibrationWatch F R E C M D) (stage : Stage F R)
    (held : watch.Invariant) :
    watch.CompletesCalibrated stage ↔ watch.world.WindowKnown stage := by
  -- Completing is the only way to arm out of a calibration.
  have arms : watch.CompletesCalibrated stage ↔
      (watch.world.completesCalibration stage = true → watch.finishedBy stage = true) := by
    refine ⟨And.left, fun sound => ⟨sound, fun calibrating armed => ?_⟩⟩
    exact sound (World.completesCalibration_of_arms calibrating armed)
  rw [arms]
  rcases watch.world.stageEffect stage with
    ⟨ready, nowUs, sensing, senses, holds, rest⟩ | ⟨input, rfl⟩ | ⟨nowMs, freshRc, rfl⟩ |
      ⟨idle, _, _⟩
  · have checked := World.checked_of_sensed sensing
    have going := World.isCalibrating_noteSensorHealth nowUs
      (senses.evolved.holdsOnlyIgnorable held.ignorable)
    rw [senses.calibrating, senses.lastImuSeen, holds] at going
    have completes : watch.world.completesCalibration stage = true ↔
        (ready.noteSensorHealth nowUs).state.isCalibrating = true ∧ .gyro ∉ ready.calFlags ∧
          .gyroFailed ∉ ready.calFlags := by
      rw [World.completesCalibration, checked.1]
      exact decide_eq_true_iff.trans World.armCalibrationEvent_eq_complete_iff
    have finishes : watch.world.finishesGyroWindow stage = true ↔
        (.gyro ∈ watch.world.calFlags ∧ .gyro ∉ ready.calFlags) ∧ .gyroFailed ∉ ready.calFlags := by
      rw [World.finishesGyroWindow, checked.1]
      exact windowFinished_iff
    -- A window that was not open is neither closed nor failed by the sample.
    have closed (shut : CalibrationFlag.gyro ∉ watch.world.calFlags) :
        CalibrationFlag.gyro ∉ ready.calFlags ∧
          (CalibrationFlag.gyroFailed ∈ ready.calFlags ↔
            CalibrationFlag.gyroFailed ∈ watch.world.calFlags) := by
      have effect := senses.effect otherWindows (Finset.Subset.refl _) fun opened =>
        absurd opened shut
      exact ⟨fun raised => shut ((effect.flags .gyro (by decide)).mp raised),
        effect.flags .gyroFailed (by decide)⟩
    constructor
    · intro sound now check calibrating
      obtain rfl : nowUs = now := Option.some.inj (checked.2.symm.trans check)
      by_contra unknown
      -- With nothing known the stage completes, although no window was ever open.
      simp only [not_or] at unknown
      obtain ⟨shut, sane, heard⟩ := unknown
      have finished := sound (completes.mpr ⟨going.mpr ⟨calibrating, heard⟩, (closed shut).1,
        fun failed => sane ((closed shut).2.mp failed)⟩)
      rw [finishedBy, held.unfinished calibrating, Bool.false_or, finishes] at finished
      exact shut finished.1.1
    · -- A completed calibration found no window, so one must have ended before.
      intro known complete
      obtain ⟨still, clear, sane⟩ := completes.mp complete
      obtain ⟨calibrating, heard⟩ := going.mp still
      rw [finishedBy, held.unfinished calibrating, Bool.false_or, finishes]
      refine ⟨⟨?_, clear⟩, sane⟩
      by_contra shut
      rcases known nowUs checked.2 calibrating with opened | failed | silent
      · exact shut opened
      · exact sane ((closed shut).2.mpr failed)
      · exact heard silent
  · exact ⟨fun _ _ check => (nomatch check), fun _ complete => nomatch complete⟩
  · exact ⟨fun _ _ check => (nomatch check), fun _ complete => nomatch complete⟩
  · rw [World.completesCalibration, (World.healthCheckUs_of_idle idle).1, World.WindowKnown,
      (World.healthCheckUs_of_idle idle).2]
    exact ⟨fun _ _ check => (nomatch check), fun _ complete => nomatch complete⟩

omit [FlightFloat F] [FlightFloat R] [FloatCast F R] [ReflectionFormat F] [Estimator F R S E]
  [Controller F R S O C] [Mixer F R O M] [PwmDriver R D] in
/-- A watch on a world that has just started. -/
def start (world : World F R E C M D) : CalibrationWatch F R E C M D :=
  { world, finished := false }

omit [Mixer F R O M] in
/-- The invariant holds from the start. -/
theorem invariant_start (params : Params F) (estimator : E) (controller : C) (mixer : M) (pwm : D)
    (nowUs : Nat) (backup : Option RosflightHardErrorMsg) :
    (start (World.init params .new estimator controller mixer pwm nowUs backup)).Invariant := by
  refine ⟨fun _ => rfl, (World.evolves_init params .new estimator controller mixer pwm nowUs
    backup).holdsOnlyIgnorable ?_⟩
  -- Initialised without errors, the machine holds none.
  exact Finset.empty_subset _

/-- In every interleaving of stages, calibration is declared complete only after the success of
a window if and only if every sensor stage of a calibrating vehicle knows of its window. -/
theorem completesCalibrated_along_iff (params : Params F) (estimator : E) (controller : C)
    (mixer : M) (pwm : D) (nowUs : Nat) (backup : Option RosflightHardErrorMsg)
    (stages : List (Stage F R)) :
    Library.Along CompletesCalibrated step
        (start (World.init params .new estimator controller mixer pwm nowUs backup)) stages ↔
      Library.Along (fun watch stage => watch.world.WindowKnown stage) step
        (start (World.init params .new estimator controller mixer pwm nowUs backup)) stages :=
  Library.along_congr Invariant invariant_step completesCalibrated_iff
    (invariant_start params estimator controller mixer pwm nowUs backup) stages

end CalibrationWatch

end Watched

/-- Parameters under which arming waits for a gyro calibration. -/
def gyroOnArmParams : Params ℚ := switchParams.setById .PARAM_CALIBRATE_GYRO_ON_ARM (.int 1)

/-- The arming switch is heard, and the next inertial tick comes before the next communication. -/
def uncalibratedRun : List (Stage ℚ ℚ) :=
  let tick : ImuTickInput ℚ ℚ :=
    { nowUs := 2000, nowMs := 2, finishedUs := 2000, raw := some (.ok (restingSample 2000)) }
  [.rcCommand 1 (some (switchSample 1000 true)), .imuTick tick]

/-- The inertial tick declares a calibration complete that no stage has opened a window for. -/
theorem uncalibratedRun_completes :
    ¬ Library.Along CalibrationWatch.CompletesCalibrated CalibrationWatch.step
      (CalibrationWatch.start (benchWorld gyroOnArmParams 8)) uncalibratedRun := by
  -- The whole run is evaluated.
  simp only [uncalibratedRun, Library.Along, CalibrationWatch.CompletesCalibrated]
  decide +kernel

end Veloxity
