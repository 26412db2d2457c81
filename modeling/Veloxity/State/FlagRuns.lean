import Veloxity.State.ArmingRuns
import Veloxity.State.Evolution

/-! What callers' flags, raised, cleared or repeated, do to failsafe and to calibration. -/

namespace Veloxity

open Library

variable {F : Type}

/-- The call raises or clears one flag at a time. -/
def ManagerCall.SingleFlag : ManagerCall → Prop
  | .update (.ERROR_OCCURRED flag) _ | .update (.ERROR_CLEARED flag) _
  | .setErrorFlag flag _ => ∃ kind, flag = {kind}
  | _ => True

namespace StateMachine

/-- Failsafe holds the loss of the link, and normal flight does not. -/
def FailsafeMatchesLink : StateMachine → Prop
  | .failsafe errorFlags | .errorFailsafe errorFlags => .rcLost ∈ errorFlags
  | .armed errorFlags => .rcLost ∉ errorFlags
  | _ => True

/-- The event raises the link's loss alone, or where it is held, and clears it alone. -/
structure LinkEvent (machine : StateMachine) (event : Event) : Prop where
  ordinary : event ≠ .HARDFAULT_REARM_REQUESTED
  raised : ∀ flag, event = .ERROR_OCCURRED flag → .rcLost ∈ flag →
    flag = ErrorFlag.RC_LOST ∨ .rcLost ∈ machine.getErrors
  cleared : ∀ flag, event = .ERROR_CLEARED flag → .rcLost ∈ flag → flag = ErrorFlag.RC_LOST

/-- Arming or calibrating without the link's loss matches the link. -/
theorem failsafeMatchesLink_armFromPreflight {errorFlags : ErrorFlag} (params : Params F)
    (linked : .rcLost ∉ errorFlags) : (armFromPreflight errorFlags params).FailsafeMatchesLink := by
  -- Only the armed outcome says anything about the link.
  unfold armFromPreflight
  split
  · trivial
  · exact linked

/-- Ignorable errors do not include the loss of the link. -/
theorem rcLost_notMem_of_ignorable {errorFlags : ErrorFlag}
    (only : errorFlags ⊆ ErrorFlag.UNHEALTHY_ESTIMATOR) : .rcLost ∉ errorFlags := by
  -- They are of one other kind.
  intro lost
  exact absurd (only lost) (by decide)

/-- Every such event keeps failsafe matched to the link. -/
theorem update_failsafeMatchesLink {machine : StateMachine} {event : Event} (params : Params F)
    (matched : machine.FailsafeMatchesLink) (ignorable : machine.HoldsOnlyIgnorable)
    (link : machine.LinkEvent event) : (machine.update event params).FailsafeMatchesLink := by
  obtain ⟨ordinary, raised, cleared⟩ := link
  cases machine with
  | init errorFlags => exact ignorable.elim
  | preflight errorFlags =>
    cases event with
    | REQUEST_ARM =>
      exact failsafeMatchesLink_armFromPreflight params (rcLost_notMem_of_ignorable ignorable)
    | HARDFAULT_REARM_REQUESTED => exact absurd rfl ordinary
    | _ => trivial
  | calibrating errorFlags =>
    cases event with
    | CALIBRATION_COMPLETE =>
      exact fun lost => rcLost_notMem_of_ignorable ignorable (Finset.mem_sdiff.mp lost).1
    | HARDFAULT_REARM_REQUESTED => exact absurd rfl ordinary
    | _ => trivial
  | armed errorFlags =>
    cases event with
    | REQUEST_DISARM =>
      show FailsafeMatchesLink (if errorFlags ≠ ∅ then _ else _)
      split
      · trivial
      · trivial
    | ERROR_OCCURRED flag =>
      -- Only the exact flag leads to failsafe, and no other event carries the link's loss.
      show FailsafeMatchesLink (if flag = ErrorFlag.RC_LOST then _ else _)
      split
      · rename_i same
        subst same
        exact Finset.mem_union_right _ (by decide)
      · rename_i other
        intro lost
        rcases Finset.mem_union.mp lost with held | fresh
        · exact matched held
        · exact (raised flag rfl fresh).elim other matched
    | ERROR_CLEARED flag => exact fun lost => matched (Finset.mem_sdiff.mp lost).1
    | HARDFAULT_REARM_REQUESTED => exact absurd rfl ordinary
    | _ => exact matched
  -- Failsafe is left by the exact flag alone, which takes the loss along.
  | failsafe errorFlags =>
    cases event with
    | ERROR_CLEARED flag =>
      show FailsafeMatchesLink (if flag = ErrorFlag.RC_LOST then _ else _)
      split
      · rename_i same
        subst same
        exact fun lost => (Finset.mem_sdiff.mp lost).2 (by decide)
      · rename_i other
        exact Finset.mem_sdiff.mpr ⟨matched, fun gone => other (cleared flag rfl gone)⟩
    | ERROR_OCCURRED flag => exact Finset.mem_union_left _ matched
    | HARDFAULT_REARM_REQUESTED => exact absurd rfl ordinary
    | _ => exact matched
  -- Without failsafe nothing is asked of a disarmed machine.
  | errorPresent errorFlags =>
    cases event with
    | REQUEST_ARM =>
      show FailsafeMatchesLink (if armingBlockingErrors errorFlags params = ∅ then _ else _)
      split
      · rename_i unblocked
        exact failsafeMatchesLink_armFromPreflight params
          (rcLost_notMem_of_ignorable (armingBlockingErrors_eq_empty_iff.mp unblocked).1)
      · trivial
    | ERROR_CLEARED flag =>
      show FailsafeMatchesLink (if errorFlags \ flag = ∅ then _ else _)
      split
      · trivial
      · trivial
    | HARDFAULT_REARM_REQUESTED => exact absurd rfl ordinary
    | _ => trivial
  -- The same holds where other errors were raised in failsafe.
  | errorFailsafe errorFlags =>
    cases event with
    | ERROR_CLEARED flag =>
      show FailsafeMatchesLink (if errorFlags \ flag = ∅ then _ else if _ then _ else _)
      split
      · trivial
      · split
        · trivial
        · rename_i other
          exact Finset.mem_sdiff.mpr ⟨matched, fun gone => other (cleared flag rfl gone)⟩
    | ERROR_OCCURRED flag => exact Finset.mem_union_left _ matched
    | HARDFAULT_REARM_REQUESTED => exact absurd rfl ordinary
    | _ => exact matched

end StateMachine

namespace StateManager

section Failsafe

/-- Errors stay ignorable where they must be, and failsafe stays matched to the link. -/
structure LinkInvariant (manager : StateManager) : Prop where
  ignorable : manager.machine.HoldsOnlyIgnorable
  matched : manager.machine.FailsafeMatchesLink

/-- An event about the link keeps the invariant, whether or not the guard refuses it. -/
theorem LinkInvariant.update {manager : StateManager} {event : Event} (params : Params F)
    (invariant : manager.LinkInvariant) (link : manager.machine.LinkEvent event) :
    (manager.update event params).LinkInvariant := by
  refine ⟨update_holdsOnlyIgnorable invariant.ignorable event params, ?_⟩
  unfold StateManager.update
  -- A refused event changes nothing.
  split
  · exact invariant.matched
  · exact StateMachine.update_failsafeMatchesLink params invariant.matched invariant.ignorable link

/-- A single flag with the link's loss is that flag. -/
theorem single_eq_rcLost {flag : ErrorFlag} (single : ∃ kind, flag = {kind})
    (lost : .rcLost ∈ flag) : flag = ErrorFlag.RC_LOST := by
  -- The only member is the loss.
  obtain ⟨kind, rfl⟩ := single
  rw [← Finset.mem_singleton.mp lost]
  rfl

/-- Raising or clearing a single flag is an event about the link. -/
theorem linkEvent_of_single {machine : StateMachine} {flag : ErrorFlag}
    (single : ∃ kind, flag = {kind}) :
    machine.LinkEvent (.ERROR_OCCURRED flag) ∧ machine.LinkEvent (.ERROR_CLEARED flag) := by
  constructor
  · exact ⟨by simp, fun _ same lost => by cases same; exact Or.inl (single_eq_rcLost single lost),
      by simp⟩
  · exact ⟨by simp, by simp, fun _ same lost => by cases same; exact single_eq_rcLost single lost⟩

/-- Every call that raises or clears single flags keeps the invariant. -/
theorem LinkInvariant.apply {manager : StateManager} {input : ManagerInput F}
    (invariant : manager.LinkInvariant) (single : input.call.SingleFlag) :
    (manager.apply input).LinkInvariant := by
  obtain ⟨call, params⟩ := input
  cases call with
  | updateArmingSafety low override => exact ⟨invariant.ignorable, invariant.matched⟩
  | update event ordinary =>
    refine invariant.update params ?_
    cases event with
    | ERROR_OCCURRED flag => exact (linkEvent_of_single single).1
    | ERROR_CLEARED flag => exact (linkEvent_of_single single).2
    | _ => exact ⟨ordinary, by simp, by simp⟩
  | setErrorFlag flag isPresent =>
    show (manager.setErrorFlag flag isPresent params).LinkInvariant
    rcases manager.setErrorFlag_cases flag isPresent params with same | raised | cleared
    · rw [same]
      exact invariant
    · rw [raised]
      exact invariant.update params (linkEvent_of_single single).1
    · rw [cleared]
      exact invariant.update params (linkEvent_of_single single).2
  | run =>
    -- A pass clears nothing, or raises what is held already.
    show (manager.run params).LinkInvariant
    rcases manager.run_cases params with cleared | raised
    · rw [cleared]
      exact invariant.update params ⟨by simp, by simp, fun _ same lost => by
        cases same; exact absurd lost (Finset.notMem_empty _)⟩
    · rw [raised]
      exact invariant.update params
        ⟨by simp, fun _ same lost => by cases same; exact Or.inr lost, by simp⟩

/-- In every run whose callers raise and clear single flags, failsafe implies that the link is
lost, and an armed vehicle that has lost the link is in failsafe. -/
theorem failsafe_matches_rcLost (params : Params F) (inputs : List (ManagerInput F))
    (single : ∀ input ∈ inputs, input.call.SingleFlag) :
    ((after params inputs).isInFailsafe = true → .rcLost ∈ (after params inputs).getErrors) ∧
      ((after params inputs).isArmed = true → .rcLost ∈ (after params inputs).getErrors →
        (after params inputs).isInFailsafe = true) := by
  have lawful : Along (fun (_ : StateManager) (input : ManagerInput F) => input.call.SingleFlag)
      apply (initialised params) inputs := by
    rw [along_iff_split]
    rintro before input rest rfl
    exact single input (by simp)
  have started : (initialised params).LinkInvariant := ⟨Finset.empty_subset _, trivial⟩
  have invariant : (after params inputs).LinkInvariant :=
    run_invariant_along (fun _ _ held allowed => LinkInvariant.apply held allowed) started lawful
  -- The invariant answers both questions in each state.
  have matched := invariant.matched
  unfold isInFailsafe isArmed getErrors
  cases reached : (after params inputs).machine with
  | armed errorFlags =>
    rw [reached] at matched
    exact ⟨fun failsafe => (nomatch failsafe), fun _ lost => absurd lost matched⟩
  | failsafe errorFlags =>
    rw [reached] at matched
    exact ⟨fun _ => matched, fun _ _ => rfl⟩
  | errorFailsafe errorFlags =>
    rw [reached] at matched
    exact ⟨fun _ => matched, fun _ _ => rfl⟩
  | _ => exact ⟨fun failsafe => (nomatch failsafe), fun armed => nomatch armed⟩

/-- An armed vehicle that has lost the link is in failsafe. -/
theorem failsafe_matches_rcLost_after_loss :
    let lost : ManagerInput ℚ := ⟨.setErrorFlag ErrorFlag.RC_LOST true, Params.new⟩
    let inputs : List (ManagerInput ℚ) :=
      [⟨.updateArmingSafety true true, Params.new⟩, ⟨.update .REQUEST_ARM (by decide), Params.new⟩,
        lost, ⟨.run, Params.new⟩]
    (after Params.new inputs).isInFailsafe = true ∧
      .rcLost ∈ (after Params.new inputs).getErrors :=
  ⟨by decide, (failsafe_matches_rcLost Params.new _ (by
    intro input member
    simp only [List.mem_cons, List.not_mem_nil, or_false] at member
    -- Only the loss sets a flag, and it sets the one it should.
    rcases member with rfl | rfl | rfl | rfl
    · trivial
    · trivial
    · exact ⟨.rcLost, rfl⟩
    · trivial)).1 (by decide)⟩

end Failsafe

section Rechecks

/-- A call repeats what is held: a pass, or a present flag raised again. -/
def Rechecks (manager : StateManager) : ManagerCall → Prop
  | .run => True
  | .setErrorFlag flag isPresent => flag ⊆ manager.getErrors ∧ isPresent = true
  | _ => False

/-- The manager after calls that are all made under the same parameters. -/
def afterCalls (manager : StateManager) (params : Params F) (calls : List ManagerCall) :
    StateManager :=
  Library.run apply manager (calls.map fun call => ⟨call, params⟩)

/-- Parameters under which an arm request arms at once. -/
def withoutCalibration (params : Params F) : Params F :=
  params.setById .PARAM_CALIBRATE_GYRO_ON_ARM (.int 0)

/-- Calibration goes on after some calls, and its end arms as a direct request would have. -/
def ArmsAfter (manager : StateManager) (params : Params F) (calls : List ManagerCall) : Prop :=
  (manager.afterCalls params calls).isCalibrating = true ∧
    ((manager.afterCalls params calls).update .CALIBRATION_COMPLETE params).machine =
      (StateMachine.errorPresent manager.getErrors).update .REQUEST_ARM (withoutCalibration params)

/-- A present flag raised again changes nothing. -/
theorem setErrorFlag_of_present {manager : StateManager} {flag : ErrorFlag}
    (present : flag ⊆ manager.getErrors) (params : Params F) :
    manager.setErrorFlag flag true params = manager := by
  -- The flag is raised only where it is missing.
  simp [setErrorFlag, present]

/-- Without errors a pass keeps a calibrating manager as it is. -/
theorem run_of_clear {manager : StateManager} (calibrating : manager.isCalibrating = true)
    (clear : manager.getErrors = ∅) (params : Params F) : manager.run params = manager := by
  -- Clearing nothing has no transition out of the calibrating state.
  obtain ⟨machine, safety⟩ := manager
  obtain ⟨errors, same⟩ := isCalibrating_iff.mp calibrating
  cases same
  cases clear
  rfl

/-- A pass with errors ends a calibration. -/
theorem isCalibrating_run_of_errors {manager : StateManager} (held : manager.getErrors ≠ ∅)
    (params : Params F) : (manager.run params).isCalibrating = false := by
  -- The held errors are raised again.
  rw [run, if_neg held]
  exact isCalibrating_raise manager _ params

/-- Calls that repeat what is held never start a calibration. -/
theorem isCalibrating_apply_of_idle {manager held : StateManager} {call : ManagerCall}
    (rechecks : held.Rechecks call) (params : Params F) (idle : manager.isCalibrating = false) :
    (manager.apply ⟨call, params⟩).isCalibrating = false := by
  -- Both kinds of call apply error events alone.
  cases call with
  | run => exact (manager.evolves_run params).not_calibrating idle
  | setErrorFlag flag isPresent =>
    exact (manager.evolves_setErrorFlag flag isPresent params).not_calibrating idle
  | updateArmingSafety low override => exact rechecks.elim
  | update event ordinary => exact rechecks.elim

/-- Without a pass over held errors, repeating what is held changes nothing. -/
theorem afterCalls_eq {manager : StateManager} (params : Params F)
    (calibrating : manager.isCalibrating = true) {calls : List ManagerCall}
    (rechecks : ∀ call ∈ calls, manager.Rechecks call)
    (undisturbed : manager.getErrors = ∅ ∨ .run ∉ calls) :
    manager.afterCalls params calls = manager := by
  -- Each call leaves the manager to the next one as it found it.
  induction calls with
  | nil => rfl
  | cons call rest ih =>
    have same : manager.apply ⟨call, params⟩ = manager := by
      have recheck := rechecks call List.mem_cons_self
      cases call with
      | run =>
        exact run_of_clear calibrating (undisturbed.resolve_right fun absent =>
          absent List.mem_cons_self) params
      | setErrorFlag flag isPresent =>
        obtain ⟨present, rfl⟩ := recheck
        exact setErrorFlag_of_present present params
      | updateArmingSafety low override => exact recheck.elim
      | update event ordinary => exact recheck.elim
    show Library.run apply (manager.apply ⟨call, params⟩) _ = manager
    rw [same]
    exact ih (fun other member => rechecks other (List.mem_cons_of_mem _ member))
      (undisturbed.imp id fun absent member => absent (List.mem_cons_of_mem _ member))

/-- A pass over held errors ends the calibration for good. -/
theorem isCalibrating_afterCalls {manager : StateManager} (params : Params F)
    (held : manager.getErrors ≠ ∅) {calls : List ManagerCall}
    (rechecks : ∀ call ∈ calls, manager.Rechecks call)
    (disturbed : .run ∈ calls) : (manager.afterCalls params calls).isCalibrating = false := by
  induction calls with
  | nil => exact absurd disturbed List.not_mem_nil
  | cons call rest ih =>
    have later : ∀ other ∈ rest, manager.Rechecks other := fun other member =>
      rechecks other (List.mem_cons_of_mem _ member)
    cases call with
    | run =>
      -- After the pass nothing starts the calibration again.
      have lawful : Along (fun (_ : StateManager) (input : ManagerInput F) =>
          manager.Rechecks input.call) apply (manager.run params)
          (rest.map fun call => ⟨call, params⟩) := by
        rw [along_iff_split]
        intro before input after split
        obtain ⟨call, member, rfl⟩ := List.mem_map.mp (split ▸
          List.mem_append_right before List.mem_cons_self)
        exact later call member
      have kept : ∀ (state : StateManager) (input : ManagerInput F), state.isCalibrating = false →
          manager.Rechecks input.call → (state.apply input).isCalibrating = false :=
        fun _ input idle recheck => isCalibrating_apply_of_idle recheck input.params idle
      exact run_invariant_along kept (isCalibrating_run_of_errors held params) lawful
    | setErrorFlag flag isPresent =>
      obtain ⟨present, rfl⟩ := rechecks _ List.mem_cons_self
      have same : manager.apply ⟨.setErrorFlag flag true, params⟩ = manager :=
        setErrorFlag_of_present present params
      show (Library.run apply (manager.apply ⟨_, params⟩) _).isCalibrating = false
      rw [same]
      exact ih later ((List.mem_cons.mp disturbed).resolve_left (by simp))
    | updateArmingSafety low override => exact (rechecks _ List.mem_cons_self).elim
    | update event ordinary => exact (rechecks _ List.mem_cons_self).elim

/-- The end of a calibration with ignorable errors arms as a direct request would have. -/
theorem complete_eq_direct {manager : StateManager} (params : Params F)
    (calibrating : manager.isCalibrating = true)
    (ignorable : armingBlockingErrors manager.getErrors params = ∅) :
    (manager.update .CALIBRATION_COMPLETE params).machine =
      (StateMachine.errorPresent manager.getErrors).update .REQUEST_ARM
        (withoutCalibration params) := by
  obtain ⟨errors, same⟩ := isCalibrating_iff.mp calibrating
  rw [getErrors, same] at ignorable
  have only := (armingBlockingErrors_eq_empty_iff.mp ignorable).1
  have kept : errors \ ErrorFlag.UNCALIBRATED_IMU = errors := by
    refine Finset.sdiff_eq_self_of_disjoint (Finset.disjoint_right.mpr fun kind uncalibrated => ?_)
    rw [Finset.mem_singleton.mp uncalibrated]
    exact fun errored => absurd (only errored) (by decide)
  have unblocked : armingBlockingErrors errors (withoutCalibration params) = ∅ := by
    rw [← ignorable]
    rfl
  have direct : (withoutCalibration params).isNonzeroInt .PARAM_CALIBRATE_GYRO_ON_ARM = false := by
    simp [withoutCalibration, Params.isNonzeroInt]
  -- Both ways end armed with the same errors.
  rw [machine_update_of_ne (by simp), getErrors, same]
  show StateMachine.armed (errors \ ErrorFlag.UNCALIBRATED_IMU) =
    if armingBlockingErrors errors (withoutCalibration params) = ∅ then
      armFromPreflight errors (withoutCalibration params) else _
  rw [kept, if_pos unblocked, armFromPreflight, direct]
  rfl

/-- In every reachable calibrating state with ignorable errors, repeating what is held lets the
calibration go on to arm exactly when there are no errors or no pass is among the calls. -/
theorem armsAfter_iff (start : Params F) (inputs : List (ManagerInput F)) (params : Params F)
    (calls : List ManagerCall) (calibrating : (after start inputs).isCalibrating = true)
    (ignorable : armingBlockingErrors (after start inputs).getErrors params = ∅)
    (rechecks : ∀ call ∈ calls, (after start inputs).Rechecks call) :
    (after start inputs).ArmsAfter params calls ↔
      (after start inputs).getErrors = ∅ ∨ .run ∉ calls := by
  constructor
  · -- A pass with an error, even an ignorable one, ends the calibration.
    rintro ⟨going, -⟩
    by_contra disturbed
    rw [not_or, not_not] at disturbed
    rw [isCalibrating_afterCalls params disturbed.1 rechecks disturbed.2] at going
    exact nomatch going
  · intro undisturbed
    rw [ArmsAfter, afterCalls_eq params calibrating rechecks undisturbed]
    exact ⟨calibrating, complete_eq_direct params calibrating ignorable⟩

/-- A run that starts a calibration with the bypassed error held. -/
def bypassedRun : List (ManagerInput ℚ) :=
  [⟨.updateArmingSafety true true, calibrateAndBypass⟩,
    ⟨.setErrorFlag ErrorFlag.UNHEALTHY_ESTIMATOR true, calibrateAndBypass⟩,
    ⟨.update .REQUEST_ARM requestArm_ordinary, calibrateAndBypass⟩]

/-- Raising the bypassed error again lets the calibration go on. -/
theorem armsAfter_iff_raised :
    (after calibrateAndBypass bypassedRun).ArmsAfter calibrateAndBypass
      [.setErrorFlag ErrorFlag.UNHEALTHY_ESTIMATOR true] :=
  -- The run reaches a calibration with an error that the parameters ignore.
  (armsAfter_iff calibrateAndBypass bypassedRun calibrateAndBypass _ (by decide) (by decide)
    (by
      intro call member
      rw [List.mem_singleton.mp member]
      exact ⟨by decide, rfl⟩)).mpr (Or.inr (by simp))

/-- One pass with the bypassed error held ends the calibration. -/
theorem bypassedRun_pass_aborts :
    ¬ (after calibrateAndBypass bypassedRun).ArmsAfter calibrateAndBypass [.run] := by
  -- The manager is no longer calibrating after the pass.
  intro arms
  have going := arms.1
  revert going
  decide

end Rechecks

end StateManager

end Veloxity
