import Veloxity.Command.LockoutLaws
import Veloxity.Library.Run

/-! The override mask names the source of every axis, except for a yaw the lockout forgets. -/

namespace Veloxity

namespace CommandManager

variable {F : Type}

/-- Bits of the mask under which a stick's commands come from the radio control. -/
def overrideBits : Stick → BitVec 16
  | .X => OVERRIDE_ATT_SWITCH ||| OVERRIDE_X ||| OVERRIDE_OFFBOARD_X_INACTIVE
  | .Y => OVERRIDE_ATT_SWITCH ||| OVERRIDE_Y ||| OVERRIDE_OFFBOARD_Y_INACTIVE
  | .Z => OVERRIDE_ATT_SWITCH ||| OVERRIDE_Z ||| OVERRIDE_OFFBOARD_Z_INACTIVE
  | .F => OVERRIDE_THR_SWITCH ||| OVERRIDE_T ||| OVERRIDE_OFFBOARD_T_INACTIVE

/-- What the reported mask selects from an offboard value and a radio-control one. -/
def reported {α : Type} (manager : CommandManager F) (stick : Stick)
    (source : CombinedControl F → α) : α :=
  if manager.getRcOverride &&& overrideBits stick = 0#16 then source manager.offboardCommand
  else source manager.rcCommand

/-- Every axis and the forces come from the source that the mask reports. -/
structure ReportsSources (manager : CommandManager F) : Prop where
  qx : manager.combinedControl.qx = manager.reported .X (·.qx)
  qy : manager.combinedControl.qy = manager.reported .Y (·.qy)
  qz : manager.combinedControl.qz = manager.reported .Z (·.qz)
  fx : manager.combinedControl.fx = manager.reported .F (·.fx)
  fy : manager.combinedControl.fy = manager.reported .F (·.fy)
  fz : manager.combinedControl.fz = manager.reported .F (·.fz)

/-- A reason shows in a selection of bits exactly when it holds and its bit is selected. -/
theorem maskWhen_and_eq_zero_iff (holds : Bool) (bit bits : BitVec 16) :
    maskWhen holds bit &&& bits = 0#16 ↔ holds = false ∨ bit &&& bits = 0#16 := by
  -- Without the reason the mask is empty.
  cases holds with
  | true => simp [maskWhen]
  | false => simp [maskWhen, OVERRIDE_NO_OVERRIDE]

/-- A mask is clear exactly when its reason does not hold, if its bit is no empty one. -/
theorem maskWhen_eq_zero_iff (holds : Bool) {bit : BitVec 16} (nonzero : bit ≠ 0#16) :
    maskWhen holds bit = 0#16 ↔ holds = false := by
  cases holds with
  | true => exact ⟨fun clear => absurd clear nonzero, fun absent => Bool.noConfusion absent⟩
  | false => simp [maskWhen, OVERRIDE_NO_OVERRIDE]

section Masks

variable (switch stickX offX stickY offY stickZ offZ throttle low offT : Bool)

/-- The attitude reasons of one pass in one mask. -/
def attitudeMask : BitVec 16 :=
  maskWhen switch OVERRIDE_ATT_SWITCH ||| maskWhen stickX OVERRIDE_X |||
    maskWhen offX OVERRIDE_OFFBOARD_X_INACTIVE ||| maskWhen stickY OVERRIDE_Y |||
    maskWhen offY OVERRIDE_OFFBOARD_Y_INACTIVE ||| maskWhen stickZ OVERRIDE_Z |||
    maskWhen offZ OVERRIDE_OFFBOARD_Z_INACTIVE

/-- The throttle reasons of one pass in one mask. -/
def throttleMask : BitVec 16 :=
  maskWhen throttle OVERRIDE_THR_SWITCH ||| maskWhen low OVERRIDE_T |||
    maskWhen offT OVERRIDE_OFFBOARD_T_INACTIVE

/-- The combined mask is clear at an axis exactly when none of the reasons of the axis holds. -/
theorem attitude_clear_iff :
    let mask := attitudeMask switch stickX offX stickY offY stickZ offZ |||
      throttleMask throttle low offT
    (mask &&& overrideBits .X = 0#16 ↔ switch = false ∧ stickX = false ∧ offX = false) ∧
      (mask &&& overrideBits .Y = 0#16 ↔ switch = false ∧ stickY = false ∧ offY = false) ∧
      (mask &&& overrideBits .Z = 0#16 ↔ switch = false ∧ stickZ = false ∧ offZ = false) := by
  -- The bits of the other axes and of the throttle are not among those of an axis.
  simp only [attitudeMask, throttleMask, BitVec.and_or_distrib_right, BitVec.or_eq_zero_iff,
    maskWhen_and_eq_zero_iff]
  refine ⟨?_, ?_, ?_⟩
  · simp +decide [and_assoc]
  · simp +decide [and_assoc]
  · simp +decide [and_assoc]

/-- The combined mask is clear at the throttle exactly when no throttle reason holds. -/
theorem throttle_clear_iff :
    (attitudeMask switch stickX offX stickY offY stickZ offZ ||| throttleMask throttle low offT) &&&
        overrideBits .F = 0#16 ↔
      throttleMask throttle low offT = OVERRIDE_NO_OVERRIDE := by
  have alone : throttleMask throttle low offT = 0#16 ↔
      throttle = false ∧ low = false ∧ offT = false := by
    rw [throttleMask, BitVec.or_eq_zero_iff, BitVec.or_eq_zero_iff,
      maskWhen_eq_zero_iff _ (by decide), maskWhen_eq_zero_iff _ (by decide),
      maskWhen_eq_zero_iff _ (by decide), and_assoc]
  rw [show OVERRIDE_NO_OVERRIDE = 0#16 from rfl, alone]
  -- The attitude bits are not among those of the throttle.
  simp only [attitudeMask, throttleMask, BitVec.and_or_distrib_right, BitVec.or_eq_zero_iff,
    maskWhen_and_eq_zero_iff]
  simp +decide [and_assoc]

end Masks

/-- A selection between two values is the one its two conditions agree on. -/
theorem select_congr {α : Type} {clear : Prop} [Decidable clear] {reasons : Bool}
    (agree : clear ↔ reasons = false) (offboard fromRc : α) :
    (if reasons then fromRc else offboard) = if clear then offboard else fromRc := by
  -- Either a reason holds and the mask shows it, or neither.
  cases reasons with
  | true =>
    have set : ¬ clear := fun clear => Bool.noConfusion (agree.mp clear)
    simp [set]
  | false => simp [agree.mpr rfl]

/-- What one pass of muxing takes and reports for the given reasons. -/
structure MuxedBy (before after : CommandManager F) (forced switch : Bool)
    (deviated : Stick → Bool) (throttle low offT : Bool) : Prop where
  offboard : after.offboardCommand = before.offboardCommand
  fromRc : after.rcCommand = before.rcCommand
  mask : after.getRcOverride =
    attitudeMask (switch || forced) (deviated .X) (!before.offboardCommand.qx.active)
        (deviated .Y) (!before.offboardCommand.qy.active) (deviated .Z)
        (!before.offboardCommand.qz.active) |||
      throttleMask throttle low offT
  qx : after.combinedControl.qx =
    if forced || switch || deviated .X || !before.offboardCommand.qx.active then
      before.rcCommand.qx else before.offboardCommand.qx
  qy : after.combinedControl.qy =
    if forced || switch || deviated .Y || !before.offboardCommand.qy.active then
      before.rcCommand.qy else before.offboardCommand.qy
  qz : after.combinedControl.qz =
    if switch || deviated .Z || !before.offboardCommand.qz.active then before.rcCommand.qz
    else before.offboardCommand.qz
  force : ∀ axis ∈ [CombinedControl.fx, CombinedControl.fy, CombinedControl.fz],
    axis after.combinedControl =
      if throttleMask throttle low offT = OVERRIDE_NO_OVERRIDE then axis before.offboardCommand
      else axis before.rcCommand

section Reports

variable {before after : CommandManager F} {forced switch : Bool} {deviated : Stick → Bool}
  {throttle low offT : Bool}

/-- The reported source of an axis whose reasons show in the mask is the one they select. -/
theorem MuxedBy.reported {stick : Stick} {reasons : Bool}
    (muxed : MuxedBy before after forced switch deviated throttle low offT)
    (agree : after.getRcOverride &&& overrideBits stick = 0#16 ↔ reasons = false)
    (source : CombinedControl F → ControlChannel F) :
    after.reported stick source =
      if reasons then source before.rcCommand else source before.offboardCommand := by
  rw [CommandManager.reported, muxed.offboard, muxed.fromRc, select_congr agree]

/-- Roll and pitch come from the reported source, and so do the forces. -/
theorem MuxedBy.reports (muxed : MuxedBy before after forced switch deviated throttle low offT)
    (yaw : after.combinedControl.qz = after.reported .Z (·.qz)) : after.ReportsSources := by
  -- The bits of an axis are clear exactly when its command comes from the offboard source.
  obtain ⟨clearX, clearY, -⟩ := attitude_clear_iff (switch || forced) (deviated .X)
    (!before.offboardCommand.qx.active) (deviated .Y) (!before.offboardCommand.qy.active)
    (deviated .Z) (!before.offboardCommand.qz.active) throttle low offT
  have clearF := throttle_clear_iff (switch || forced) (deviated .X)
    (!before.offboardCommand.qx.active) (deviated .Y) (!before.offboardCommand.qy.active)
    (deviated .Z) (!before.offboardCommand.qz.active) throttle low offT
  rw [← muxed.mask] at clearX clearY clearF
  have roll : after.getRcOverride &&& overrideBits .X = 0#16 ↔
      (forced || switch || deviated .X || !before.offboardCommand.qx.active) = false := by
    rw [clearX]
    cases forced <;> simp [and_assoc]
  have pitch : after.getRcOverride &&& overrideBits .Y = 0#16 ↔
      (forced || switch || deviated .Y || !before.offboardCommand.qy.active) = false := by
    rw [clearY]
    cases forced <;> simp [and_assoc]
  -- All three forces are muxed by the bits of the throttle.
  have force {axis : CombinedControl F → ControlChannel F}
      (member : axis ∈ [CombinedControl.fx, CombinedControl.fy, CombinedControl.fz]) :
      axis after.combinedControl = after.reported .F axis := by
    rw [muxed.force axis member, CommandManager.reported, muxed.offboard, muxed.fromRc]
    simp only [clearF]
  exact ⟨muxed.qx.trans (muxed.reported roll _).symm, muxed.qy.trans (muxed.reported pitch _).symm,
    yaw, force (by simp), force (by simp), force (by simp)⟩

/-- Yaw comes from the reported source too, unless a forced attitude source leaves the offboard
yaw in place. -/
theorem MuxedBy.reports_iff
    (muxed : MuxedBy before after forced switch deviated throttle low offT) :
    after.ReportsSources ↔
      (forced = true → switch = false → deviated .Z = false →
        before.offboardCommand.qz.active = true →
          before.offboardCommand.qz = before.rcCommand.qz) := by
  obtain ⟨-, -, clearZ⟩ := attitude_clear_iff (switch || forced) (deviated .X)
    (!before.offboardCommand.qx.active) (deviated .Y) (!before.offboardCommand.qy.active)
    (deviated .Z) (!before.offboardCommand.qz.active) throttle low offT
  rw [← muxed.mask] at clearZ
  have agree : after.getRcOverride &&& overrideBits .Z = 0#16 ↔
      (forced || switch || deviated .Z || !before.offboardCommand.qz.active) = false := by
    rw [clearZ]
    cases forced <;> simp [and_assoc]
  have told := muxed.reported agree (·.qz)
  have whole : after.ReportsSources ↔ after.combinedControl.qz = after.reported .Z (·.qz) :=
    ⟨fun reports => reports.qz, muxed.reports⟩
  rw [whole, told, muxed.qz]
  -- The two selections differ in the forced source alone.
  cases forced with
  | false => simp
  | true =>
    cases switch with
    | true => simp
    | false =>
      cases deviated .Z with
      | true => simp
      | false => cases before.offboardCommand.qz.active <;> simp

end Reports

section Muxing

variable [FlightFloat F] {manager : CommandManager F} {params : Params F} {rc : Rc F} {nowMs : Nat}

/-- Noting a deflected stick keeps both commands. -/
theorem noteStickOverride_commands (manager : CommandManager F) (rc : Rc F) (stick : Stick)
    (deviationParam : F) (lagTimeMs nowMs : Nat) :
    (manager.noteStickOverride rc stick deviationParam lagTimeMs nowMs).offboardCommand =
        manager.offboardCommand ∧
      (manager.noteStickOverride rc stick deviationParam lagTimeMs nowMs).rcCommand =
        manager.rcCommand := by
  -- Only the time of the override is noted.
  unfold noteStickOverride
  split
  · exact ⟨rfl, rfl⟩
  · split
    · exact ⟨rfl, rfl⟩
    · exact ⟨rfl, rfl⟩

/-- Muxing the attitude keeps both commands. -/
theorem doAttitudeMuxing_commands (manager : CommandManager F) (params : Params F) (rc : Rc F)
    (nowMs : Nat) (forceRcAttitude : Bool) :
    (manager.doAttitudeMuxing params rc nowMs forceRcAttitude).1.offboardCommand =
        manager.offboardCommand ∧
      (manager.doAttitudeMuxing params rc nowMs forceRcAttitude).1.rcCommand =
        manager.rcCommand := by
  -- The sticks are noted one after another.
  simp only [doAttitudeMuxing, List.foldl_cons, List.foldl_nil, noteStickOverride_commands,
    and_self]

/-- The throttle mask is made of throttle reasons, and decides where all forces come from. -/
theorem doThrottleMuxing_selects (manager : CommandManager F) (params : Params F) (rc : Rc F) :
    ∃ throttle low offT,
      (manager.doThrottleMuxing params rc).2 = throttleMask throttle low offT ∧
        let source := if throttleMask throttle low offT = OVERRIDE_NO_OVERRIDE then
          manager.offboardCommand else manager.rcCommand
        let combined := (manager.doThrottleMuxing params rc).1.combinedCommand
        combined.fx = source.fx ∧ combined.fy = source.fy ∧ combined.fz = source.fz := by
  refine ⟨_, _, _, rfl, ?_⟩
  intro source combined
  -- The source taken when the mask is not empty is that left when it is.
  have taken : (if (manager.doThrottleMuxing params rc).2 ≠ OVERRIDE_NO_OVERRIDE then
      manager.rcCommand else manager.offboardCommand) = source := ite_not _ _ _
  rw [← taken]
  exact ⟨rfl, rfl, rfl⟩

/-- Muxing takes and reports by the reasons it finds. -/
theorem doMuxing_muxedBy (manager : CommandManager F) (params : Params F) (rc : Rc F)
    (nowMs : Nat) (forceRcAttitude : Bool) :
    ∃ throttle low offT,
      MuxedBy manager (manager.doMuxing params rc nowMs forceRcAttitude) forceRcAttitude
        rc.attitudeOverrideOn
        (fun stick => manager.attitudeStickDeviated rc stick (overrideDeviation params)
          (overrideLagTimeMs params) nowMs) throttle low offT := by
  obtain ⟨offboard, fromRc⟩ := doAttitudeMuxing_commands manager params rc nowMs forceRcAttitude
  obtain ⟨throttle, low, offT, mask, forceX, forceY, forceZ⟩ := doThrottleMuxing_selects
    (manager.doAttitudeMuxing params rc nowMs forceRcAttitude).1 params rc
  rw [offboard, fromRc] at forceX forceY forceZ
  refine ⟨throttle, low, offT, offboard, fromRc, ?_, rfl, rfl, rfl, ?_⟩
  · -- The attitude half of the mask is written as it is computed.
    rw [← mask]
    rfl
  · intro axis member
    simp only [List.mem_cons, List.not_mem_nil, or_false] at member
    -- All forces follow the throttle mask.
    rcases member with same | same | same
    · subst same
      exact forceX.trans (apply_ite CombinedControl.fx _ _ _)
    · subst same
      exact forceY.trans (apply_ite CombinedControl.fy _ _ _)
    · subst same
      exact forceZ.trans (apply_ite CombinedControl.fz _ _ _)

omit [FlightFloat F] in
/-- The lockout forces the attitude source exactly where it applies and sees an unhealthy
estimator under an offboard angle. -/
theorem forceRcAttitude_iff (manager : CommandManager F) (params : Params F) (rc : Rc F)
    (state : StateManager) :
    (manager.estimatorModeSafety params rc state).2.forceRcAttitude = true ↔
      estimatorAngleLockoutEnabled params = true ∧
        params.isNonzeroInt .PARAM_FIXED_WING = false ∧
          ErrorFlag.UNHEALTHY_ESTIMATOR ⊆ state.getErrors ∧
            manager.offboardAngleRequested = true := by
  unfold estimatorModeSafety
  by_cases applies : (params.isNonzeroInt .PARAM_FIXED_WING ||
      !estimatorAngleLockoutEnabled params) = true
  · -- Where the lockout does not apply, it forces nothing.
    rw [if_pos applies]
    simp only [Bool.or_eq_true, Bool.not_eq_true'] at applies
    constructor
    · intro forced
      exact Bool.noConfusion forced
    · intro ⟨enabled, rotary, _⟩
      rcases applies with wing | off
      · exact Bool.noConfusion (wing.symm.trans rotary)
      · exact Bool.noConfusion (off.symm.trans enabled)
  · rw [if_neg applies]
    simp only [Bool.or_eq_true, Bool.not_eq_true', not_or, Bool.not_eq_true,
      Bool.not_eq_false] at applies
    obtain ⟨rotary, enabled⟩ := applies
    simp only [RcAngleModeLockoutMachine.step, Bool.false_eq_true, ↓reduceIte, lockoutInput,
      Bool.and_eq_true, decide_eq_true_eq, enabled, rotary, true_and]

omit [FlightFloat F] in
/-- A forced attitude source comes with a forced rate. -/
theorem forceRcRate_of_forceRcAttitude {state : StateManager}
    (forced : (manager.estimatorModeSafety params rc state).2.forceRcAttitude = true) :
    (manager.estimatorModeSafety params rc state).2.forceRcRate = true := by
  obtain ⟨enabled, rotary, unhealthy, asked⟩ :=
    (forceRcAttitude_iff manager params rc state).mp forced
  -- An offboard angle under an unhealthy estimator is an unsafe request.
  simp [estimatorModeSafety, rotary, enabled, RcAngleModeLockoutMachine.step,
    RcAngleModeLockoutInput.unsafeAngleRequested, lockoutInput, unhealthy, asked]

/-- What the yaw stick of a multirotor commands. -/
def yawStickCommand (params : Params F) (rc : Rc F) : ControlChannel F :=
  { active := true, controlType := .rate
    value := rc.stick .Z * params.floatOr .PARAM_RC_MAX_YAWRATE (FlightFloat.lit 1) }

/-- Milliseconds after which an offboard command is too old. -/
def offboardTimeoutMs (params : Params F) : Nat := asU32 (params.intOr .PARAM_OFFBOARD_TIMEOUT 100)

/-- The offboard command is not too old in a pass. -/
def OffboardCurrent (manager : CommandManager F) (nowMs : Nat) (params : Params F) : Prop :=
  nowMs * 1000 ≤ manager.lastOffboardCommandUs + offboardTimeoutMs params * 1000

/-- The lockout forces the sticks as attitude source, while an offboard yaw that no reason of its
own overrides commands something else than the yaw stick. -/
def LeavesYawOffboard (manager : CommandManager F) (nowMs : Nat) (params : Params F) (rc : Rc F)
    (state : StateManager) : Prop :=
  (estimatorAngleLockoutEnabled params = true ∧ params.isNonzeroInt .PARAM_FIXED_WING = false ∧
      ErrorFlag.UNHEALTHY_ESTIMATOR ⊆ state.getErrors ∧
        manager.OffboardCurrent nowMs params ∧ manager.offboardAngleRequested = true) ∧
    ¬ manager.FollowsRc nowMs params rc .Z manager.offboardCommand.qz ∧
      manager.offboardCommand.qz ≠ yawStickCommand params rc

omit [FlightFloat F] in
/-- A current offboard command survives the timeout check. -/
theorem updateOffboardTimeout_of_current (current : manager.OffboardCurrent nowMs params) :
    manager.updateOffboardTimeout (nowMs * 1000) params = manager := if_pos current

omit [FlightFloat F] in
/-- A stale offboard command requests no angle. -/
theorem offboardAngleRequested_of_stale (stale : ¬ manager.OffboardCurrent nowMs params) :
    (manager.updateOffboardTimeout (nowMs * 1000) params).offboardAngleRequested = false := by
  -- Every channel has been deactivated.
  have timed : manager.updateOffboardTimeout (nowMs * 1000) params =
      { manager with offboardCommand := deactivate manager.offboardCommand } := if_neg stale
  rw [timed]
  rfl

/-- A forced rate has the yaw stick of a multirotor interpreted afresh. -/
theorem interpretWhen_yaw (hasNewRc : Bool)
    (rotary : params.isNonzeroInt .PARAM_FIXED_WING = false) :
    (manager.interpretWhen hasNewRc true rc params).rcCommand.qz = yawStickCommand params rc := by
  simp [interpretWhen, interpretRc, rotary, yawStickCommand]

/-- A resolved pass reports its sources unless a forced attitude source leaves an offboard yaw in
place that differs from the yaw stick's. -/
theorem resolve_reports_forced_iff (state : StateManager) :
    let timed := manager.updateOffboardTimeout (nowMs * 1000) params
    (manager.resolve nowMs params rc state).manager.ReportsSources ↔
      ((timed.estimatorModeSafety params rc state).2.forceRcAttitude = true →
        rc.attitudeOverrideOn = false →
          timed.attitudeStickDeviated rc .Z (overrideDeviation params) (overrideLagTimeMs params)
            nowMs = false →
              timed.offboardCommand.qz.active = true →
                timed.offboardCommand.qz = yawStickCommand params rc) := by
  intro timed
  let safety := (timed.estimatorModeSafety params rc state).2
  let interpreted := (timed.estimatorModeSafety params rc state).1.interpretWhen rc.newCommand
    safety.forceRcRate rc.takeNewCommand.2 params
  -- The lockout and the interpretation leave the offboard command and the lags to the muxer.
  obtain ⟨-, keptOffboard, keptTimes⟩ := estimatorModeSafety_keeps timed params rc state
  obtain ⟨sameOffboard, sameTimes⟩ :=
    interpretWhen_keeps (timed.estimatorModeSafety params rc state).1
    rc.newCommand safety.forceRcRate rc.takeNewCommand.2 params
  have offboard : interpreted.offboardCommand = timed.offboardCommand :=
    sameOffboard.trans keptOffboard
  have times : interpreted.lastStickOverrideTime = timed.lastStickOverrideTime :=
    sameTimes.trans keptTimes
  obtain ⟨throttle, low, offT, muxed⟩ :=
    doMuxing_muxedBy interpreted params rc.takeNewCommand.2 nowMs
    safety.forceRcAttitude
  have reports : (manager.resolve nowMs params rc state).manager.ReportsSources ↔ _ :=
    muxed.reports_iff
  have lags (deviation : F) (lag : Nat) : interpreted.attitudeStickDeviated rc.takeNewCommand.2 .Z
      deviation lag nowMs = timed.attitudeStickDeviated rc .Z deviation lag nowMs := by
    unfold attitudeStickDeviated
    rw [times]
    rfl
  -- A forced source has the yaw stick interpreted in the same pass.
  have yaw (forced : safety.forceRcAttitude = true) :
      interpreted.rcCommand.qz = yawStickCommand params rc := by
    have rate : safety.forceRcRate = true := forceRcRate_of_forceRcAttitude forced
    have rotary := ((forceRcAttitude_iff timed params rc state).mp forced).2.1
    have fresh : (interpreted.rcCommand).qz = yawStickCommand params rc.takeNewCommand.2 := by
      simp only [interpreted, rate]
      exact interpretWhen_yaw rc.newCommand rotary
    exact fresh
  rw [reports, offboard]
  simp only [lags]
  refine forall_congr' fun forced => ?_
  rw [yaw forced]
  exact Iff.rfl

/-- A resolved pass reports its sources unless the lockout leaves the offboard yaw in place. -/
theorem resolve_reports_iff (state : StateManager) :
    (manager.resolve nowMs params rc state).manager.ReportsSources ↔
      ¬ manager.LeavesYawOffboard nowMs params rc state := by
  refine (resolve_reports_forced_iff state).trans ?_
  rw [forceRcAttitude_iff]
  by_cases current : manager.OffboardCurrent nowMs params
  · -- A current command is muxed as it was received.
    rw [updateOffboardTimeout_of_current current]
    constructor
    · intro agrees ⟨⟨enabled, rotary, unhealthy, _, asked⟩, free, differs⟩
      simp only [FollowsRc, not_or, Bool.not_eq_true, Bool.not_eq_false] at free
      exact differs (agrees ⟨enabled, rotary, unhealthy, asked⟩ free.1 free.2.2 free.2.1)
    · intro lawful ⟨enabled, rotary, unhealthy, asked⟩ off still active
      by_contra differs
      refine lawful ⟨⟨enabled, rotary, unhealthy, current, asked⟩, ?_, differs⟩
      simp only [FollowsRc, not_or, Bool.not_eq_true, Bool.not_eq_false]
      exact ⟨off, active, still⟩
  · -- A stale command forces nothing.
    rw [offboardAngleRequested_of_stale current]
    constructor
    · intro _ ⟨⟨_, _, _, fresh, _⟩, _⟩
      exact current fresh
    · intro _ ⟨_, _, _, asked⟩
      cases asked

/-- Noting a lost link neither finds nor loses an unhealthy estimator. -/
theorem unhealthy_noteRcLoss_iff (state : StateManager) :
    ErrorFlag.UNHEALTHY_ESTIMATOR ⊆ (noteRcLoss nowMs params rc state).getErrors ↔
      ErrorFlag.UNHEALTHY_ESTIMATOR ⊆ state.getErrors := by
  unfold noteRcLoss
  split
  · -- The flag of the link is another one.
    rw [StateManager.getErrors_raise]
    constructor
    · intro held kind member
      rcases Finset.mem_union.mp (held member) with before | lost
      · exact before
      · have other : kind ∉ ErrorFlag.RC_LOST := by
          revert member
          cases kind <;> decide
        exact absurd lost other
    · intro held
      exact held.trans Finset.subset_union_left
  · exact Iff.rfl

/-- A pass outside failsafe reports its sources unless the lockout leaves the offboard yaw in
place. -/
theorem run_reports_iff (state : StateManager)
    (flying : (noteRcLoss nowMs params rc state).isInFailsafe = false) :
    (manager.run nowMs params rc state).manager.ReportsSources ↔
      ¬ manager.LeavesYawOffboard nowMs params rc state := by
  have resolved : manager.run nowMs params rc state =
      manager.resolve nowMs params rc (noteRcLoss nowMs params rc state) := by
    simp only [run, flying, Bool.false_eq_true, ↓reduceIte]
  rw [resolved, resolve_reports_iff, LeavesYawOffboard, LeavesYawOffboard, unhealthy_noteRcLoss_iff]

/-- What happens to a command manager. -/
inductive Happening (F : Type) where
  | setNewOffboardCommand (nowUs : Nat) (msg : OffboardControlMsg F)
  | updateFailsafeConfig (params : Params F) (state : StateManager)
  | run (nowMs : Nat) (params : Params F) (rc : Rc F) (state : StateManager)

/-- The manager after something has happened to it. -/
def after (manager : CommandManager F) : Happening F → CommandManager F
  | .setNewOffboardCommand nowUs msg => manager.setNewOffboardCommand nowUs msg
  | .updateFailsafeConfig params state => (manager.updateFailsafeConfig params state).1
  | .run nowMs params rc state => (manager.run nowMs params rc state).manager

/-- A pass leaves the manager that its run leaves. -/
theorem after_run (nowMs : Nat) (params : Params F) (rc : Rc F) (state : StateManager) :
    manager.after (.run nowMs params rc state) = (manager.run nowMs params rc state).manager := by
  -- The run is left abstract, as it is not looked into here.
  have general (passes : Nat → Params F → Rc F → StateManager → Pass F) :
      (match Happening.run nowMs params rc state with
        | .setNewOffboardCommand nowUs msg => manager.setNewOffboardCommand nowUs msg
        | .updateFailsafeConfig params state => (manager.updateFailsafeConfig params state).1
        | .run nowMs params rc state => (passes nowMs params rc state).manager) =
      (passes nowMs params rc state).manager := rfl
  exact (after.eq_def manager _).trans (general manager.run)

/-- If this is a pass outside failsafe, it satisfies the law. -/
def PassLaw (law : CommandManager F → Nat → Params F → Rc F → StateManager → Prop)
    (manager : CommandManager F) : Happening F → Prop
  | .run nowMs params rc state =>
    (noteRcLoss nowMs params rc state).isInFailsafe = false → law manager nowMs params rc state
  | _ => True

/-- Along every run of a command manager from the start, each pass outside failsafe reports the
source of every axis and of the forces if and only if no such pass leaves the offboard yaw in place
under a forced attitude source. -/
theorem reportsSources_along_iff (happenings : List (Happening F)) :
    Library.Along (PassLaw fun manager nowMs params rc state =>
        (manager.run nowMs params rc state).manager.ReportsSources) after new happenings ↔
      Library.Along (PassLaw fun manager nowMs params rc state =>
        ¬ manager.LeavesYawOffboard nowMs params rc state) after new happenings := by
  apply Library.along_congr (fun _ => True) (fun _ _ _ => trivial) ?_ trivial
  intro manager happening _
  -- Only passes are judged; other happenings promise nothing.
  cases happening with
  | setNewOffboardCommand nowUs msg => exact Iff.rfl
  | updateFailsafeConfig params state => exact Iff.rfl
  | run nowMs params rc state => exact forall_congr' (run_reports_iff state)

end Muxing

section ForcedYaw

/-- A sample with every stick at rest. -/
def sticksAtRest : RcPacket ℚ where
  header := { timestamp := 2000000 }
  nChan := 8
  chan := fun channel => if channel.val < 4 then 1 / 2 else 0
  lol := false

/-- An offboard command that holds roll and pitch level and turns. -/
def levelTurn : OffboardControlMsg ℚ where
  mode := .modeRollPitchYawrateThrottle
  ignore := ∅
  qx := 0
  qy := 0
  qz := 1
  fx := 0
  fy := 0
  fz := 0
  passthrough := fun _ => 0

/-- The handler and state after the sample at rest has been received. -/
def restedRc : Rc ℚ × StateManager :=
  ((Rc.new.init lockoutParams).receive sticksAtRest).run 2000 lockoutParams unhealthyState

/-- With an unhealthy estimator the pass reports the attitude switch and still turns by the
offboard command. -/
theorem levelTurn_unreported :
    ¬ Library.Along (PassLaw fun manager nowMs params rc state =>
        (manager.run nowMs params rc state).manager.ReportsSources) after new
      [.setNewOffboardCommand 2000000 levelTurn,
        .run 2000 lockoutParams restedRc.1 restedRc.2] := by
  intro lawful
  have reports := lawful.2.1 (by decide +kernel)
  -- The reported source of the yaw is the stick, which is at rest.
  exact absurd (congrArg ControlChannel.value reports.qz) (by decide +kernel)

end ForcedYaw

end CommandManager

end Veloxity
