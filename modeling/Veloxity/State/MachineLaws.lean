import Veloxity.State.Machine

/-! What one event can do to the arming state. -/

namespace Veloxity

variable {F : Type}

/-- Without the unhealthy-estimator flag no other error is left in an ignorable set. -/
theorem armingBlockingErrors_eq_empty_iff {errorFlags : ErrorFlag} {params : Params F} :
    armingBlockingErrors errorFlags params = ∅ ↔
      errorFlags ⊆ ErrorFlag.UNHEALTHY_ESTIMATOR ∧
        (.unhealthyEstimator ∈ errorFlags →
          params.isNonzeroInt .PARAM_ALLOW_UNHEALTHY_ESTIMATOR = true) := by
  -- The bypass removes exactly the one flag it is about.
  unfold armingBlockingErrors ErrorFlag.UNHEALTHY_ESTIMATOR
  split
  · rename_i bypass
    simp [Finset.sdiff_eq_empty_iff_subset, bypass]
  · rename_i strict
    constructor
    · rintro rfl
      simp
    · rintro ⟨only, bypassed⟩
      rcases Finset.subset_singleton_iff.mp only with empty | flagged
      · exact empty
      · exact absurd (bypassed (by simp [flagged])) strict

namespace StateMachine

/-- The errors recorded with an event other than an error event are the ones already held. -/
theorem recordErrors_of_ordinary {machine : StateMachine} {event : Event}
    (raised : ∀ flag, event ≠ .ERROR_OCCURRED flag)
    (cleared : ∀ flag, event ≠ .ERROR_CLEARED flag) :
    machine.recordErrors event = machine := by
  -- Only the two error events change the flags.
  cases event with
  | ERROR_OCCURRED flag => exact absurd rfl (raised flag)
  | ERROR_CLEARED flag => exact absurd rfl (cleared flag)
  | _ => rfl

/-- Replacing the errors does not change whether the machine is armed. -/
@[simp] theorem isArmed_withErrors (machine : StateMachine) (errorFlags : ErrorFlag) :
    (machine.withErrors errorFlags).isArmed = machine.isArmed := by
  -- The state's constructor is kept.
  cases machine <;> rfl

@[simp] theorem getErrors_withErrors (machine : StateMachine) (errorFlags : ErrorFlag) :
    (machine.withErrors errorFlags).getErrors = errorFlags := by
  -- Every state carries the errors it is given.
  cases machine <;> rfl

/-- Recording errors does not change whether the machine is armed. -/
@[simp] theorem isArmed_recordErrors (machine : StateMachine) (event : Event) :
    (machine.recordErrors event).isArmed = machine.isArmed := by
  -- Error events only replace the carried errors.
  cases event with
  | ERROR_OCCURRED flag => exact isArmed_withErrors machine _
  | ERROR_CLEARED flag => exact isArmed_withErrors machine _
  | _ => rfl

/-- Ways in which one event can arm a disarmed machine without a hardfault rearm. -/
inductive Arms (params : Params F) : StateMachine → Event → StateMachine → Prop where
  | direct {errorFlags} (immediate : params.isNonzeroInt .PARAM_CALIBRATE_GYRO_ON_ARM = false) :
    Arms params (.preflight errorFlags) .REQUEST_ARM (.armed errorFlags)
  | bypassed {errorFlags} (immediate : params.isNonzeroInt .PARAM_CALIBRATE_GYRO_ON_ARM = false)
    (ignorable : armingBlockingErrors errorFlags params = ∅) :
    Arms params (.errorPresent errorFlags) .REQUEST_ARM (.armed errorFlags)
  | calibrated {errorFlags} :
    Arms params (.calibrating errorFlags) .CALIBRATION_COMPLETE
      (.armed (errorFlags \ ErrorFlag.UNCALIBRATED_IMU))

/-- Only an arm request or a finished calibration arms. -/
theorem Arms.event_eq {params : Params F} {machine reached : StateMachine} {event : Event}
    (arms : Arms params machine event reached) :
    event = .REQUEST_ARM ∨ event = .CALIBRATION_COMPLETE := by
  -- The event is fixed by the way of arming.
  cases arms with
  | direct => exact Or.inl rfl
  | bypassed => exact Or.inl rfl
  | calibrated => exact Or.inr rfl

/-- A finished calibration arms only out of the calibrating state. -/
theorem Arms.calibrating {params : Params F} {machine reached : StateMachine}
    (arms : Arms params machine .CALIBRATION_COMPLETE reached) :
    ∃ errorFlags, machine = .calibrating errorFlags := by
  -- The other ways of arming answer an arm request.
  cases arms with
  | calibrated => exact ⟨_, rfl⟩

/-- Arming from the disarmed state happens at once only when no calibration is asked for. -/
theorem isArmed_armFromPreflight {errorFlags : ErrorFlag} {params : Params F}
    (armed : (armFromPreflight errorFlags params).isArmed = true) :
    params.isNonzeroInt .PARAM_CALIBRATE_GYRO_ON_ARM = false ∧
      armFromPreflight errorFlags params = .armed errorFlags := by
  -- The calibrating branch is not armed.
  unfold armFromPreflight at armed ⊢
  split at armed
  · simp [isArmed] at armed
  · rename_i immediate
    have immediate : params.isNonzeroInt .PARAM_CALIBRATE_GYRO_ON_ARM = false := by
      simpa using immediate
    exact ⟨immediate, by simp [immediate]⟩

/-- An event other than a hardfault rearm arms a machine only in one of the known ways. -/
theorem update_arms {machine : StateMachine} {event : Event} {params : Params F}
    (ordinary : event ≠ .HARDFAULT_REARM_REQUESTED) (disarmed : machine.isArmed = false)
    (armed : (machine.update event params).isArmed = true) :
    Arms params machine event (machine.update event params) := by
  -- Each disarmed state is left for an armed one by at most one event.
  cases machine with
  | init errorFlags =>
    cases event <;>
      simp [update, recordErrors, withErrors, transition, onEventInit, isArmed] at armed
  | preflight errorFlags =>
    cases event with
    | REQUEST_ARM =>
      obtain ⟨immediate, reached⟩ := isArmed_armFromPreflight armed
      simp only [update, recordErrors, transition, onEventPreflight, reached]
      exact .direct immediate
    | HARDFAULT_REARM_REQUESTED => exact absurd rfl ordinary
    | _ => simp [update, recordErrors, withErrors, transition, onEventPreflight, isArmed] at armed
  | calibrating errorFlags =>
    cases event with
    | CALIBRATION_COMPLETE => exact .calibrated
    | HARDFAULT_REARM_REQUESTED => exact absurd rfl ordinary
    | _ => simp [update, recordErrors, withErrors, transition, onEventCalibrating, isArmed] at armed
  | armed errorFlags => simp [isArmed] at disarmed
  | failsafe errorFlags => simp [isArmed] at disarmed
  -- With errors present a request arms only if all of them are bypassed.
  | errorPresent errorFlags =>
    cases event with
    | REQUEST_ARM =>
      simp only [update, recordErrors, transition, onEventErrorPresent] at armed ⊢
      split at armed
      · rename_i ignorable
        obtain ⟨immediate, reached⟩ := isArmed_armFromPreflight armed
        rw [if_pos ignorable, reached]
        exact .bypassed immediate ignorable
      · simp [isArmed] at armed
    | HARDFAULT_REARM_REQUESTED => exact absurd rfl ordinary
    | ERROR_CLEARED flag =>
      simp only [update, recordErrors, withErrors, transition, onEventErrorPresent] at armed
      split at armed <;> simp [isArmed] at armed
    | _ =>
      simp [update, recordErrors, withErrors, transition, onEventErrorPresent, isArmed] at armed
  -- Failsafe with errors is left for a disarmed state or for failsafe itself.
  | errorFailsafe errorFlags =>
    cases event with
    | HARDFAULT_REARM_REQUESTED => exact absurd rfl ordinary
    | ERROR_CLEARED flag =>
      simp only [update, recordErrors, withErrors, transition, onEventErrorFailsafe] at armed
      split at armed
      · simp [isArmed] at armed
      · split at armed <;> simp [isArmed] at armed
    | _ =>
      simp [update, recordErrors, withErrors, transition, onEventErrorFailsafe, isArmed] at armed

/-- Before and during calibration no error other than an unhealthy estimator is held. -/
def HoldsOnlyIgnorable : StateMachine → Prop
  | .init _ => False
  | .preflight errorFlags | .calibrating errorFlags =>
    errorFlags ⊆ ErrorFlag.UNHEALTHY_ESTIMATOR
  | _ => True

/-- Arming or calibrating from ignorable errors holds only ignorable errors. -/
theorem holdsOnlyIgnorable_armFromPreflight {errorFlags : ErrorFlag} {params : Params F}
    (only : errorFlags ⊆ ErrorFlag.UNHEALTHY_ESTIMATOR) :
    (armFromPreflight errorFlags params).HoldsOnlyIgnorable := by
  -- Calibration starts with a subset of the errors.
  unfold armFromPreflight
  split
  · exact Finset.sdiff_subset.trans only
  · trivial

/-- Every event keeps the disarmed, error-free states free of blocking errors. -/
theorem update_holdsOnlyIgnorable {machine : StateMachine} (held : machine.HoldsOnlyIgnorable)
    (event : Event) (params : Params F) : (machine.update event params).HoldsOnlyIgnorable := by
  -- The cases follow the state's handler; raised errors always lead to the error states.
  cases machine with
  | init errorFlags => exact held.elim
  | preflight errorFlags =>
    cases event with
    | REQUEST_ARM => exact holdsOnlyIgnorable_armFromPreflight held
    | ERROR_CLEARED flag => exact Finset.sdiff_subset.trans held
    | HARDFAULT_REARM_REQUESTED => trivial
    | ERROR_OCCURRED flag => trivial
    | _ => exact held
  | calibrating errorFlags =>
    cases event with
    | ERROR_CLEARED flag => exact Finset.sdiff_subset.trans held
    | CALIBRATION_COMPLETE => trivial
    | HARDFAULT_REARM_REQUESTED => trivial
    | ERROR_OCCURRED flag => trivial
    | _ => exact held
  -- Disarming keeps errors apart from the state that waits to arm.
  | armed errorFlags =>
    cases event with
    | REQUEST_DISARM =>
      simp only [update, recordErrors, transition, onEventArmed]
      split
      · trivial
      · rename_i clear
        have clear : errorFlags = ∅ := by simpa using clear
        subst clear
        exact Finset.empty_subset _
    | ERROR_OCCURRED flag =>
      simp only [update, recordErrors, withErrors, transition, onEventArmed]
      split <;> trivial
    | _ => trivial
  | failsafe errorFlags =>
    cases event with
    | ERROR_CLEARED flag =>
      simp only [update, recordErrors, withErrors, transition, onEventFailsafe]
      split <;> trivial
    | _ => trivial
  -- Errors are left behind once they are all cleared or all ignorable.
  | errorPresent errorFlags =>
    cases event with
    | REQUEST_ARM =>
      simp only [update, recordErrors, transition, onEventErrorPresent]
      split
      · rename_i ignorable
        exact holdsOnlyIgnorable_armFromPreflight
          (armingBlockingErrors_eq_empty_iff.mp ignorable).1
      · trivial
    | ERROR_CLEARED flag =>
      simp only [update, recordErrors, withErrors, transition, onEventErrorPresent]
      split
      · rename_i clear
        rw [clear]
        exact Finset.empty_subset _
      · trivial
    | _ => trivial
  | errorFailsafe errorFlags =>
    cases event with
    | ERROR_CLEARED flag =>
      simp only [update, recordErrors, withErrors, transition, onEventErrorFailsafe]
      split
      · rename_i clear
        rw [clear]
        exact Finset.empty_subset _
      · split <;> trivial
    | _ => trivial

/-- Ordinary transitions keep the errors, apart from the calibration error on arming. -/
theorem getErrors_transition_of_error {machine : StateMachine} {event : Event}
    {params : Params F}
    (error : (∃ flag, event = .ERROR_OCCURRED flag) ∨ ∃ flag, event = .ERROR_CLEARED flag) :
    (machine.transition event params).getErrors = machine.getErrors := by
  -- The handlers of error events move between states without touching the flags.
  rcases error with ⟨flag, rfl⟩ | ⟨flag, rfl⟩
  · cases machine with
    | armed errorFlags => simp only [transition, onEventArmed]; split <;> rfl
    | _ => rfl
  · cases machine with
    | failsafe errorFlags => simp only [transition, onEventFailsafe]; split <;> rfl
    | errorPresent errorFlags => simp only [transition, onEventErrorPresent]; split <;> rfl
    | errorFailsafe errorFlags =>
      simp only [transition, onEventErrorFailsafe]
      split
      · rfl
      · split <;> rfl
    | _ => rfl

end StateMachine

namespace StateManager

/-- Raising errors adds them to the ones held. -/
theorem getErrors_raise (manager : StateManager) (flag : ErrorFlag) (params : Params F) :
    (manager.update (.ERROR_OCCURRED flag) params).getErrors = manager.getErrors ∪ flag := by
  -- The flags are recorded before the transition, which keeps them.
  simp [update, getErrors, StateMachine.update, StateMachine.getErrors_transition_of_error,
    StateMachine.recordErrors]

/-- Clearing errors removes them from the ones held. -/
theorem getErrors_clear (manager : StateManager) (flag : ErrorFlag) (params : Params F) :
    (manager.update (.ERROR_CLEARED flag) params).getErrors = manager.getErrors \ flag := by
  -- The flags are recorded before the transition, which keeps them.
  simp [update, getErrors, StateMachine.update, StateMachine.getErrors_transition_of_error,
    StateMachine.recordErrors]

/-- Raising errors keeps the ones held. -/
theorem getErrors_subset_raise (manager : StateManager) (flag : ErrorFlag) (params : Params F) :
    manager.getErrors ⊆ (manager.update (.ERROR_OCCURRED flag) params).getErrors := by
  -- The new set is a union with the old one.
  rw [getErrors_raise]
  exact Finset.subset_union_left

/-- An event never touches the interlock inputs. -/
@[simp] theorem armingSafety_update (manager : StateManager) (event : Event) (params : Params F) :
    (manager.update event params).armingSafety = manager.armingSafety := by
  -- Both branches keep the inputs.
  unfold update
  split <;> rfl

/-- The guard changes nothing for events other than an arm request. -/
theorem machine_update_of_ne {manager : StateManager} {event : Event} {params : Params F}
    (other : event ≠ .REQUEST_ARM) :
    (manager.update event params).machine = manager.machine.update event params := by
  -- Only arm requests are ever refused.
  simp [update, other]

/-- Raising or clearing a flag is at most one error event. -/
theorem setErrorFlag_cases (manager : StateManager) (flag : ErrorFlag) (isPresent : Bool)
    (params : Params F) :
    manager.setErrorFlag flag isPresent params = manager ∨
      manager.setErrorFlag flag isPresent params = manager.update (.ERROR_OCCURRED flag) params ∨
      manager.setErrorFlag flag isPresent params = manager.update (.ERROR_CLEARED flag) params := by
  -- The four branches are the request crossed with whether the flag is already present.
  unfold setErrorFlag
  by_cases present : flag ⊆ manager.getErrors <;> cases isPresent <;> simp [present]

/-- A pass of the manager is exactly one error event. -/
theorem run_cases (manager : StateManager) (params : Params F) :
    manager.run params = manager.update (.ERROR_CLEARED ∅) params ∨
      manager.run params = manager.update (.ERROR_OCCURRED manager.getErrors) params := by
  -- The event depends on whether errors are held.
  unfold run
  split
  · exact Or.inl rfl
  · exact Or.inr rfl

/-- An event arms a manager only in a known way, and a request only past the interlock. -/
theorem update_arms {manager : StateManager} {event : Event} {params : Params F}
    (ordinary : event ≠ .HARDFAULT_REARM_REQUESTED) (disarmed : manager.isArmed = false)
    (armed : (manager.update event params).isArmed = true) :
    StateMachine.Arms params manager.machine event (manager.update event params).machine ∧
      (event = .REQUEST_ARM → manager.armingSafetyAllowsArm params = true) := by
  -- A refused request leaves the manager disarmed.
  unfold update at armed ⊢
  split at armed
  · rw [disarmed] at armed
    cases armed
  · rename_i accepted
    have arms := StateMachine.update_arms ordinary disarmed armed
    rw [if_neg accepted]
    refine ⟨arms, fun requested => ?_⟩
    subst requested
    by_contra refused
    refine accepted ⟨rfl, ?_, by simpa using refused⟩
    revert arms
    generalize (manager.machine.update Event.REQUEST_ARM params) = reached
    intro arms
    unfold armingAttemptCanTransition
    cases machine : manager.machine with
    | preflight errorFlags => rfl
    | errorPresent errorFlags =>
      rw [machine] at arms
      cases arms with
      | bypassed _ ignorable => simp [ignorable]
    | _ => rw [machine] at arms; cases arms

/-- An error event never arms. -/
theorem isArmed_update_of_error {manager : StateManager} {event : Event} {params : Params F}
    (error : (∃ flag, event = .ERROR_OCCURRED flag) ∨ ∃ flag, event = .ERROR_CLEARED flag)
    (disarmed : manager.isArmed = false) : (manager.update event params).isArmed = false := by
  -- None of the known ways to arm is an error event.
  by_contra armed
  have ordinary : event ≠ .HARDFAULT_REARM_REQUESTED := by
    rcases error with ⟨flag, rfl⟩ | ⟨flag, rfl⟩ <;> simp
  have arms := (update_arms ordinary disarmed (by simpa using armed)).1
  rcases error with ⟨flag, rfl⟩ | ⟨flag, rfl⟩ <;> simpa using arms.event_eq

/-- An error event never disarms. -/
theorem isArmed_update_of_error_of_armed {manager : StateManager} {event : Event}
    {params : Params F}
    (error : (∃ flag, event = .ERROR_OCCURRED flag) ∨ ∃ flag, event = .ERROR_CLEARED flag)
    (armed : manager.isArmed = true) : (manager.update event params).isArmed = true := by
  have either {asked : Prop} [Decidable asked] {yes no : StateMachine}
      (first : yes.isArmed = true) (second : no.isArmed = true) :
      (if asked then yes else no).isArmed = true := by
    split
    · exact first
    · exact second
  -- Both armed states answer an error with one of them.
  unfold isArmed at armed ⊢
  rcases error with ⟨flag, rfl⟩ | ⟨flag, rfl⟩
  · rw [machine_update_of_ne (by simp)]
    cases state : manager.machine with
    | armed errors => exact either rfl rfl
    | failsafe errors => rfl
    | _ => exact nomatch state ▸ armed
  · rw [machine_update_of_ne (by simp)]
    cases state : manager.machine with
    | armed errors => rfl
    | failsafe errors => exact either rfl rfl
    | _ => exact nomatch state ▸ armed

/-- Every event keeps the disarmed, error-free states free of blocking errors. -/
theorem update_holdsOnlyIgnorable {manager : StateManager}
    (held : manager.machine.HoldsOnlyIgnorable) (event : Event) (params : Params F) :
    (manager.update event params).machine.HoldsOnlyIgnorable := by
  -- A refused request keeps the machine as it is.
  unfold update
  split
  · exact held
  · exact StateMachine.update_holdsOnlyIgnorable held event params

end StateManager

end Veloxity
