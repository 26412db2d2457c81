import Veloxity.Library.Run
import Veloxity.State.MachineLaws

/-! Which runs of the state manager arm only without blocking errors and behind the interlock. -/

namespace Veloxity

open Library

variable {F : Type}

/-- A call of the state manager's interface, hardfault rearming excluded. -/
inductive ManagerCall where
  | updateArmingSafety (rcThrottleLow rcThrottleOverrideSwitchOn : Bool)
  | update (event : Event) (ordinary : event ≠ .HARDFAULT_REARM_REQUESTED)
  | setErrorFlag (flag : ErrorFlag) (isPresent : Bool)
  | run

/-- Asking to arm is an ordinary event. -/
theorem requestArm_ordinary : Event.REQUEST_ARM ≠ .HARDFAULT_REARM_REQUESTED := by decide

/-- The end of a calibration is an ordinary event. -/
theorem calibrationComplete_ordinary :
    Event.CALIBRATION_COMPLETE ≠ .HARDFAULT_REARM_REQUESTED := by decide

/-- A call together with the parameters in force when it is made. -/
structure ManagerInput (F : Type) where
  call : ManagerCall
  params : Params F

namespace StateManager

/-- Perform one call. -/
def apply (manager : StateManager) (input : ManagerInput F) : StateManager :=
  match input.call with
  | .updateArmingSafety low override => manager.updateArmingSafety low override
  | .update event _ => manager.update event input.params
  | .setErrorFlag flag isPresent => manager.setErrorFlag flag isPresent input.params
  | .run => manager.run input.params

/-- A new manager after its initialisation event. -/
def initialised (params : Params F) : StateManager := new.update .INITIALIZED params

/-- The manager reached from initialisation by a sequence of calls. -/
def after (params : Params F) (inputs : List (ManagerInput F)) : StateManager :=
  Library.run apply (initialised params) inputs

/-- The interlock inputs given by the last call that gave any. -/
def latestArmingSafety (inputs : List (ManagerInput F)) : ArmingSafety :=
  inputs.foldl (fun safety input =>
    match input.call with
    | .updateArmingSafety low override =>
      { rcThrottleLow := low, rcThrottleOverrideSwitchOn := override }
    | _ => safety) {}

/-- The call turns a disarmed manager into an armed one. -/
def ArmsAt (manager : StateManager) (input : ManagerInput F) : Prop :=
  manager.isArmed = false ∧ (manager.apply input).isArmed = true

/-- The call is the end of a calibration the manager is waiting for. -/
def CompletesCalibration (manager : StateManager) (input : ManagerInput F) : Prop :=
  manager.isCalibrating = true ∧
    ∃ ordinary, input.call = .update .CALIBRATION_COMPLETE ordinary

/-- The call is an accepted arm request in the error-free state, with no calibration asked for. -/
def RequestsDirectArm (manager : StateManager) (input : ManagerInput F) : Prop :=
  (∃ errorFlags, manager.machine = .preflight errorFlags) ∧
    (∃ ordinary, input.call = .update .REQUEST_ARM ordinary) ∧
    manager.armingSafetyAllowsArm input.params = true ∧
    input.params.isNonzeroInt .PARAM_CALIBRATE_GYRO_ON_ARM = false

/-- Arming at this call leaves no error that blocks arming under the call's parameters. -/
def ArmsUnblocked (manager : StateManager) (input : ManagerInput F) : Prop :=
  manager.ArmsAt input → armingBlockingErrors (manager.apply input).getErrors input.params = ∅

/-- An unhealthy estimator held where arming is not checked again is bypassed by the parameters. -/
def BypassCoversHeldErrors (manager : StateManager) (input : ManagerInput F) : Prop :=
  manager.CompletesCalibration input ∨ manager.RequestsDirectArm input →
    .unhealthyEstimator ∈ manager.getErrors →
      input.params.isNonzeroInt .PARAM_ALLOW_UNHEALTHY_ESTIMATOR = true

/-- A calibration ends only while the interlock inputs still allow arming. -/
def CompletesInterlocked (manager : StateManager) (input : ManagerInput F) : Prop :=
  manager.CompletesCalibration input → manager.armingSafetyAllowsArm input.params = true

/-- Every call that arms finds the interlock inputs given last allowing it. -/
def ArmsOnlyInterlocked (params : Params F) (inputs : List (ManagerInput F)) : Prop :=
  ∀ before input rest, inputs = before ++ input :: rest → (after params before).ArmsAt input →
    (latestArmingSafety (before ++ [input])).allowsArm input.params = true

/-- Every call keeps the disarmed, error-free states free of blocking errors. -/
theorem apply_holdsOnlyIgnorable (manager : StateManager) (input : ManagerInput F)
    (held : manager.machine.HoldsOnlyIgnorable) :
    (manager.apply input).machine.HoldsOnlyIgnorable := by
  -- Every call is at most one event.
  obtain ⟨call, params⟩ := input
  cases call with
  | updateArmingSafety low override => exact held
  | update event ordinary => exact update_holdsOnlyIgnorable held event params
  | setErrorFlag flag isPresent =>
    simp only [apply]
    rcases manager.setErrorFlag_cases flag isPresent params with same | raised | cleared
    · rwa [same]
    · rw [raised]; exact update_holdsOnlyIgnorable held _ params
    · rw [cleared]; exact update_holdsOnlyIgnorable held _ params
  | run =>
    simp only [apply]
    rcases manager.run_cases params with cleared | raised
    · rw [cleared]; exact update_holdsOnlyIgnorable held _ params
    · rw [raised]; exact update_holdsOnlyIgnorable held _ params

/-- A call that arms is an update with an event that arms in a known way. -/
theorem armsAt_cases {manager : StateManager} {input : ManagerInput F}
    (arms : manager.ArmsAt input) :
    ∃ event ordinary, input.call = .update event ordinary ∧
      StateMachine.Arms input.params manager.machine event (manager.apply input).machine ∧
      (event = .REQUEST_ARM → manager.armingSafetyAllowsArm input.params = true) := by
  -- Error events never arm, so neither do the calls made of them.
  obtain ⟨call, params⟩ := input
  obtain ⟨disarmed, armed⟩ := arms
  cases call with
  | updateArmingSafety low override =>
    simp only [apply, isArmed, updateArmingSafety] at armed disarmed
    rw [disarmed] at armed
    cases armed
  | update event ordinary =>
    obtain ⟨known, accepted⟩ := update_arms ordinary disarmed armed
    exact ⟨event, ordinary, rfl, known, accepted⟩
  | setErrorFlag flag isPresent =>
    simp only [apply] at armed
    rcases manager.setErrorFlag_cases flag isPresent params with same | raised | cleared
    · rw [same, disarmed] at armed; cases armed
    · rw [raised, isArmed_update_of_error (Or.inl ⟨flag, rfl⟩) disarmed] at armed; cases armed
    · rw [cleared, isArmed_update_of_error (Or.inr ⟨flag, rfl⟩) disarmed] at armed; cases armed
  | run =>
    simp only [apply] at armed
    rcases manager.run_cases params with cleared | raised
    · rw [cleared, isArmed_update_of_error (Or.inr ⟨_, rfl⟩) disarmed] at armed; cases armed
    · rw [raised, isArmed_update_of_error (Or.inl ⟨_, rfl⟩) disarmed] at armed; cases armed

/-- The end of an awaited calibration arms with all errors but the calibration one. -/
theorem completesCalibration_arms {manager : StateManager} {input : ManagerInput F}
    (completes : manager.CompletesCalibration input) :
    manager.ArmsAt input ∧
      (manager.apply input).getErrors = manager.getErrors \ ErrorFlag.UNCALIBRATED_IMU := by
  -- The calibrating state has one handler branch for this event.
  obtain ⟨calibrating, ordinary, called⟩ := completes
  obtain ⟨machine, safety⟩ := manager
  obtain ⟨call, params⟩ := input
  simp only at called
  subst called
  cases machine with
  | calibrating errorFlags => exact ⟨⟨rfl, rfl⟩, rfl⟩
  | _ => simp [isCalibrating] at calibrating

/-- An accepted direct arm request arms with the errors held before it. -/
theorem requestsDirectArm_arms {manager : StateManager} {input : ManagerInput F}
    (requests : manager.RequestsDirectArm input) :
    manager.ArmsAt input ∧ (manager.apply input).getErrors = manager.getErrors := by
  -- The interlock lets the request through and no calibration intervenes.
  obtain ⟨⟨errorFlags, preflight⟩, ⟨ordinary, called⟩, allowed, immediate⟩ := requests
  obtain ⟨machine, safety⟩ := manager
  obtain ⟨call, params⟩ := input
  simp only at called preflight allowed immediate
  subst called preflight
  have reached : apply { machine := .preflight errorFlags, armingSafety := safety }
      (⟨.update .REQUEST_ARM ordinary, params⟩ : ManagerInput F) =
      { machine := .armed errorFlags, armingSafety := safety } := by
    simp [apply, update, allowed, StateMachine.update, StateMachine.recordErrors,
      StateMachine.transition, StateMachine.onEventPreflight, armFromPreflight, immediate]
  rw [ArmsAt, reached]
  exact ⟨⟨rfl, rfl⟩, rfl⟩

/-- While held errors are ignorable, arming unblocked is the same as the bypass covering them. -/
theorem armsUnblocked_iff {manager : StateManager} {input : ManagerInput F}
    (held : manager.machine.HoldsOnlyIgnorable) :
    manager.ArmsUnblocked input ↔ manager.BypassCoversHeldErrors input := by
  constructor
  · -- Both watched calls arm, so the unblocked error set constrains the bypass parameter.
    intro unblocked watched flagged
    rcases watched with completes | requests
    · obtain ⟨arms, errors⟩ := completesCalibration_arms completes
      have clear := unblocked arms
      rw [errors, armingBlockingErrors_eq_empty_iff] at clear
      exact clear.2 (by simp [flagged, ErrorFlag.UNCALIBRATED_IMU])
    · obtain ⟨arms, errors⟩ := requestsDirectArm_arms requests
      have clear := unblocked arms
      rw [errors, armingBlockingErrors_eq_empty_iff] at clear
      exact clear.2 flagged
  · -- The path through the error state is the only one that checks the errors itself.
    intro covers arms
    obtain ⟨event, ordinary, called, known, accepted⟩ := armsAt_cases arms
    simp only [getErrors]
    generalize reached : (manager.apply input).machine = machine at known
    generalize started : manager.machine = start at known
    cases known with
    | direct immediate =>
      rename_i errorFlags
      rw [started] at held
      refine armingBlockingErrors_eq_empty_iff.mpr ⟨held, fun flagged => covers ?_ ?_⟩
      · exact Or.inr ⟨⟨errorFlags, started⟩, ⟨ordinary, called⟩, accepted rfl, immediate⟩
      · rw [getErrors, started]; exact flagged
    | bypassed immediate ignorable => exact ignorable
    | calibrated =>
      rename_i errorFlags
      rw [started] at held
      refine armingBlockingErrors_eq_empty_iff.mpr
        ⟨Finset.sdiff_subset.trans held, fun flagged => covers ?_ ?_⟩
      · exact Or.inl ⟨by rw [isCalibrating, started], ordinary, called⟩
      · rw [getErrors, started]; exact (Finset.mem_sdiff.mp flagged).1

/-- In every run, arming never leaves a blocking error exactly when, at the end of every awaited
calibration and at every direct arm request, a held unhealthy estimator is bypassed. -/
theorem armsUnblocked_along_iff (params : Params F) (inputs : List (ManagerInput F)) :
    Along ArmsUnblocked apply (initialised params) inputs ↔
      Along BypassCoversHeldErrors apply (initialised params) inputs := by
  -- The ignorable-errors invariant makes the two laws agree step by step.
  refine along_congr (fun manager => manager.machine.HoldsOnlyIgnorable)
    (fun manager input => apply_holdsOnlyIgnorable manager input)
    (fun manager input held => armsUnblocked_iff held) ?_ inputs
  exact Finset.empty_subset _

/-- Parameters that calibrate the gyro on arming and bypass an unhealthy estimator. -/
def calibrateAndBypass : Params ℚ := Params.new.setById .PARAM_CALIBRATE_GYRO_ON_ARM (.int 1)

/-- A run that loses the bypass between the arm request and the end of its calibration. -/
def bypassWithdrawnRun : List (ManagerInput ℚ) :=
  [⟨.updateArmingSafety true true, calibrateAndBypass⟩,
    ⟨.setErrorFlag ErrorFlag.UNHEALTHY_ESTIMATOR true, calibrateAndBypass⟩,
    ⟨.update .REQUEST_ARM requestArm_ordinary, calibrateAndBypass⟩,
    ⟨.update .CALIBRATION_COMPLETE calibrationComplete_ordinary,
      calibrateAndBypass.setById .PARAM_ALLOW_UNHEALTHY_ESTIMATOR (.int 0)⟩]

/-- Calibration can end in an armed state whose unhealthy estimator blocks arming. -/
theorem bypassWithdrawnRun_arms_blocked :
    ¬ Along ArmsUnblocked apply (initialised calibrateAndBypass) bypassWithdrawnRun := by
  -- The last call arms from the calibrating state with the flag still held.
  rw [along_iff_split]
  intro unblocked
  have clear := unblocked (bypassWithdrawnRun.take 3) _ [] rfl ⟨by decide, by decide⟩
  revert clear
  decide

/-- A call changes the interlock inputs only by giving new ones. -/
theorem armingSafety_apply (manager : StateManager) (input : ManagerInput F) :
    (manager.apply input).armingSafety =
      match input.call with
      | .updateArmingSafety low override =>
        { rcThrottleLow := low, rcThrottleOverrideSwitchOn := override }
      | _ => manager.armingSafety := by
  -- Events keep the inputs, and the other calls are made of events.
  obtain ⟨call, params⟩ := input
  cases call with
  | updateArmingSafety low override => rfl
  | update event ordinary => exact armingSafety_update manager event params
  | setErrorFlag flag isPresent =>
    simp only [apply]
    rcases manager.setErrorFlag_cases flag isPresent params with same | raised | cleared
    · rw [same]
    · rw [raised, armingSafety_update]
    · rw [cleared, armingSafety_update]
  | run =>
    simp only [apply]
    rcases manager.run_cases params with cleared | raised
    · rw [cleared, armingSafety_update]
    · rw [raised, armingSafety_update]

/-- A manager holds exactly the interlock inputs given to it last. -/
theorem armingSafety_after (params : Params F) (inputs : List (ManagerInput F)) :
    (after params inputs).armingSafety = latestArmingSafety inputs := by
  -- The induction adds one call at the end of the run.
  induction inputs using List.reverseRecOn with
  | nil => rfl
  | append_singleton inputs input ih =>
    rw [after, run_concat, armingSafety_apply, latestArmingSafety, List.foldl_append,
      List.foldl_cons, List.foldl_nil]
    obtain ⟨call, inForce⟩ := input
    cases call with
    | updateArmingSafety low override => rfl
    | _ => exact ih

/-- In every run, arming happens only behind the interlock exactly when every awaited
calibration ends while the interlock inputs still allow arming. -/
theorem armsOnlyInterlocked_iff (params : Params F) (inputs : List (ManagerInput F)) :
    ArmsOnlyInterlocked params inputs ↔
      Along CompletesInterlocked apply (initialised params) inputs := by
  rw [along_iff_split]
  constructor
  · -- The end of an awaited calibration arms, so the interlock must allow it there.
    intro interlocked before input rest split completes
    have allowed := interlocked before input rest split (completesCalibration_arms completes).1
    obtain ⟨calibrating, ordinary, called⟩ := completes
    rw [← armingSafety_after params, after, run_concat, armingSafety_apply, called] at allowed
    exact allowed
  · -- Every other way to arm is an arm request that the interlock has just let through.
    intro complete before input rest split arms
    obtain ⟨event, ordinary, called, known, accepted⟩ := armsAt_cases arms
    rw [← armingSafety_after params, after, run_concat, armingSafety_apply, called]
    rcases known.event_eq with rfl | rfl
    · exact accepted rfl
    · refine complete before input rest split ⟨?_, ordinary, called⟩
      obtain ⟨errorFlags, calibrating⟩ := known.calibrating
      change (after params before).isCalibrating = true
      rw [isCalibrating, calibrating]

/-- A run that raises the throttle while the gyro calibrates. -/
def throttleRaisedRun : List (ManagerInput ℚ) :=
  [⟨.updateArmingSafety true true, calibrateAndBypass⟩,
    ⟨.update .REQUEST_ARM requestArm_ordinary, calibrateAndBypass⟩,
    ⟨.updateArmingSafety false true, calibrateAndBypass⟩,
    ⟨.update .CALIBRATION_COMPLETE calibrationComplete_ordinary, calibrateAndBypass⟩]

/-- Calibration can end in an armed state while the throttle is no longer low. -/
theorem throttleRaisedRun_arms : ¬ ArmsOnlyInterlocked calibrateAndBypass throttleRaisedRun := by
  -- The last call arms without asking the interlock again.
  intro interlocked
  have allowed := interlocked (throttleRaisedRun.take 3) _ [] rfl ⟨by decide, by decide⟩
  revert allowed
  decide

end StateManager

end Veloxity
