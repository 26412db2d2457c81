import Veloxity.Command.Manager
import Veloxity.State.MachineLaws

/-! When the angle lockout keeps roll and pitch out of angle mode. -/

namespace Veloxity

variable {F : Type}

namespace CommandManager

/-- The lockout still holds from an earlier denial, its release condition being unmet. -/
def LockoutHolds (lockout : RcAngleModeLockoutMachine) (rc : Rc F) : Prop :=
  match lockout.state with
  | .inactive => False
  | .switchResetRequired estimatorRecovered _ =>
    ¬ (estimatorRecovered = true ∧ rc.switchOn .AttType = false)
  | .paramRateUntilExplicitAngle => True

/-- The radio-control command offers an angle, freshly interpreted or left from an earlier pass. -/
def OffersAngle (params : Params F) (rc : Rc F) (retained : ControlChannel F) : Prop :=
  if rc.newCommand then rcAngleModeSelected params rc = true else retained.controlType = .angle

/-- The type interpreted from the sticks is an angle exactly when angle mode is selected. -/
theorem rcRollPitchType_angle_iff (params : Params F) (rc : Rc F) :
    rcRollPitchType params rc = .angle ↔ rcAngleModeSelected params rc = true := by
  -- Both read the mapped switch first and the parameter otherwise.
  unfold rcRollPitchType rcAngleModeSelected paramRcAttitudeModeIsRate Params.intOr
  split
  · split <;> simp_all
  · cases mode : params.getById .PARAM_RC_ATTITUDE_MODE <;> simp [attitudeRateMode]

/-- With an unhealthy estimator the lockout stays active exactly while its release is unmet. -/
theorem advance_ne_inactive_iff (lockout : RcAngleModeLockoutMachine)
    (input : RcAngleModeLockoutInput) (rc : Rc F) (unhealthy : input.estimatorUnhealthy = true)
    (rate : input.attTypeSwitchRate = !rc.switchOn .AttType) :
    (lockout.advance input).state ≠ .inactive ↔ LockoutHolds lockout rc := by
  -- Recovery cannot be noticed in an unhealthy pass, and the parameter lockout needs health.
  obtain ⟨state, denial⟩ := lockout
  cases state with
  | inactive => simp [RcAngleModeLockoutMachine.advance, LockoutHolds]
  | switchResetRequired recovered logged =>
    cases recovered <;> cases on : rc.switchOn .AttType <;>
      simp [RcAngleModeLockoutMachine.advance, LockoutHolds, unhealthy, rate, on]
  | paramRateUntilExplicitAngle =>
    simp [RcAngleModeLockoutMachine.advance, LockoutHolds, unhealthy]

/-- The timeout only ever touches the offboard command. -/
theorem updateOffboardTimeout_eq (manager : CommandManager F) (nowUs : Nat) (params : Params F) :
    ∃ offboard, manager.updateOffboardTimeout nowUs params =
      { manager with offboardCommand := offboard } := by
  -- Either nothing changes, or the offboard channels are deactivated.
  simp only [updateOffboardTimeout]
  split
  · exact ⟨manager.offboardCommand, rfl⟩
  · exact ⟨_, rfl⟩

/-- An offboard command that requests no angle has no active roll or pitch angle. -/
theorem offboard_not_angle {manager : CommandManager F}
    (quiet : manager.offboardAngleRequested = false) :
    (manager.offboardCommand.qx.active = true →
        manager.offboardCommand.qx.controlType ≠ .angle) ∧
      (manager.offboardCommand.qy.active = true →
        manager.offboardCommand.qy.controlType ≠ .angle) := by
  -- The request is the disjunction of the two axes.
  simpa [offboardAngleRequested] using quiet

/-- One muxed axis is an angle exactly when the sticks steer it and offer an angle. -/
theorem muxed_angle_iff {override deviated : Bool} {fromRc offboard : ControlChannel F}
    (quiet : offboard.active = true → offboard.controlType ≠ .angle) :
    (if false || override || deviated || !offboard.active then fromRc else offboard).controlType =
        .angle ↔
      (override = true ∨ offboard.active = false ∨ deviated = true) ∧
        fromRc.controlType = .angle := by
  -- An active offboard axis that is not overridden is no angle.
  cases override <;> cases deviated <;> cases active : offboard.active <;> simp_all

/-- The lockout forces rate mode: it still holds, or it sees an unsafe angle request. -/
def RateForced (manager : CommandManager F) (nowMs : Nat) (params : Params F) (rc : Rc F) : Prop :=
  let timed := manager.updateOffboardTimeout (nowMs * 1000) params
  LockoutHolds manager.rcAngleModeLockout rc ∨ timed.offboardAngleRequested = true ∨
    (timed.rcAttitudeSourceRequested rc = true ∧ rcAngleModeSelected params rc = true)

/-- Running the lockout keeps the commands and the override times. -/
theorem estimatorModeSafety_keeps (manager : CommandManager F) (params : Params F) (rc : Rc F)
    (state : StateManager) :
    (manager.estimatorModeSafety params rc state).1.rcCommand = manager.rcCommand ∧
      (manager.estimatorModeSafety params rc state).1.offboardCommand =
        manager.offboardCommand ∧
      (manager.estimatorModeSafety params rc state).1.lastStickOverrideTime =
        manager.lastStickOverrideTime := by
  -- Both branches only replace the lockout's memory.
  unfold estimatorModeSafety
  split
  · exact ⟨rfl, rfl, rfl⟩
  · exact ⟨rfl, rfl, rfl⟩

/-- Where the lockout applies and sees an unhealthy estimator, it forces rate as defined above. -/
theorem estimatorModeSafety_forces (manager : CommandManager F) (nowMs : Nat) (rc : Rc F)
    {params : Params F} {state : StateManager}
    (enabled : estimatorAngleLockoutEnabled params = true)
    (rotary : params.isNonzeroInt .PARAM_FIXED_WING = false)
    (unhealthy : ErrorFlag.UNHEALTHY_ESTIMATOR ⊆ state.getErrors) :
    let timed := manager.updateOffboardTimeout (nowMs * 1000) params
    let safety := (timed.estimatorModeSafety params rc state).2
    (safety.forceRcRate = true ↔ manager.RateForced nowMs params rc) ∧
      safety.forceRcAttitude = timed.offboardAngleRequested := by
  -- The lockout's step reports its state after releasing and the request it has just seen.
  intro timed safety
  have lockout : timed.rcAngleModeLockout = manager.rcAngleModeLockout := by
    obtain ⟨offboard, same⟩ := updateOffboardTimeout_eq manager (nowMs * 1000) params
    simp only [timed, same]
  have active := advance_ne_inactive_iff manager.rcAngleModeLockout
    (timed.lockoutInput params rc state) rc (by simp [lockoutInput, unhealthy]) (by rfl)
  have stepped :
      safety = (timed.rcAngleModeLockout.step (timed.lockoutInput params rc state)).2 := by
    simp only [safety, estimatorModeSafety, rotary, enabled]
    rfl
  have rotaryInput : (timed.lockoutInput params rc state).fixedWing = false := rotary
  rw [stepped, lockout, RcAngleModeLockoutMachine.step, rotaryInput]
  constructor
  · simp only [Bool.false_eq_true, ↓reduceIte, Bool.or_eq_true, decide_eq_true_eq, active]
    simp only [RcAngleModeLockoutInput.unsafeAngleRequested, lockoutInput, unhealthy, decide_true,
      Bool.true_and, Bool.or_eq_true, Bool.and_eq_true, RateForced, timed]
  · simp [lockoutInput, unhealthy]

variable [FlightFloat F]

/-- An attitude axis follows the sticks, whatever the lockout saw. -/
def FollowsRc (manager : CommandManager F) (nowMs : Nat) (params : Params F) (rc : Rc F)
    (stick : Stick) (offboard : ControlChannel F) : Prop :=
  rc.attitudeOverrideOn = true ∨ offboard.active = false ∨
    manager.attitudeStickDeviated rc stick (overrideDeviation params) (overrideLagTimeMs params)
      nowMs = true

/-- The sticks steer roll or pitch with an angle command. -/
def SteersByAngle (manager : CommandManager F) (nowMs : Nat) (params : Params F) (rc : Rc F) :
    Prop :=
  let timed := manager.updateOffboardTimeout (nowMs * 1000) params
  (timed.FollowsRc nowMs params rc .X timed.offboardCommand.qx ∧
      OffersAngle params rc manager.rcCommand.qx) ∨
    (timed.FollowsRc nowMs params rc .Y timed.offboardCommand.qy ∧
      OffersAngle params rc manager.rcCommand.qy)

/-- Interpreting the sticks gives roll and pitch one type and leaves the offboard command alone. -/
theorem interpretRc_types (manager : CommandManager F) (rc : Rc F) (params : Params F)
    (forced : Option ControlType) (rotary : params.isNonzeroInt .PARAM_FIXED_WING = false) :
    (manager.interpretRc rc params forced).rcCommand.qx.controlType =
        forced.getD (rcRollPitchType params rc) ∧
      (manager.interpretRc rc params forced).rcCommand.qy.controlType =
        forced.getD (rcRollPitchType params rc) := by
  -- Only fixed-wing vehicles pass the sticks through.
  simp [interpretRc, rotary]

/-- Interpretation keeps the offboard command and the override times. -/
theorem interpretWhen_keeps (manager : CommandManager F) (hasNewRc forceRcRate : Bool) (rc : Rc F)
    (params : Params F) :
    (manager.interpretWhen hasNewRc forceRcRate rc params).offboardCommand =
        manager.offboardCommand ∧
      (manager.interpretWhen hasNewRc forceRcRate rc params).lastStickOverrideTime =
        manager.lastStickOverrideTime := by
  -- Only the radio-control command is replaced.
  unfold interpretWhen
  split
  · exact ⟨rfl, rfl⟩
  · exact ⟨rfl, rfl⟩

/-- What interpretation makes of the sticks depends on the retained command alone. -/
theorem interpretWhen_rcCommand {manager other : CommandManager F}
    (same : manager.rcCommand = other.rcCommand) (hasNewRc forceRcRate : Bool) (rc : Rc F)
    (params : Params F) :
    (manager.interpretWhen hasNewRc forceRcRate rc params).rcCommand =
      (other.interpretWhen hasNewRc forceRcRate rc params).rcCommand := by
  -- The interpreted command keeps only the stamp and passthrough of the retained one.
  unfold interpretWhen
  split
  · simp only [interpretRc, same]
  · exact same

/-- Muxing takes roll and pitch from the sticks for a forced source or an override reason. -/
theorem doMuxing_attitude (manager : CommandManager F) (params : Params F) (rc : Rc F)
    (nowMs : Nat) (forceRcAttitude : Bool) :
    let deviated stick := manager.attitudeStickDeviated rc stick (overrideDeviation params)
      (overrideLagTimeMs params) nowMs
    let muxed := (manager.doMuxing params rc nowMs forceRcAttitude).combinedCommand
    muxed.qx =
        (if forceRcAttitude || rc.attitudeOverrideOn || deviated .X ||
            !manager.offboardCommand.qx.active then manager.rcCommand.qx
          else manager.offboardCommand.qx) ∧
      muxed.qy =
        (if forceRcAttitude || rc.attitudeOverrideOn || deviated .Y ||
            !manager.offboardCommand.qy.active then manager.rcCommand.qy
          else manager.offboardCommand.qy) := by
  -- The throttle muxing that follows keeps the attitude channels.
  exact ⟨rfl, rfl⟩

/-- The radio-control command a pass muxes: interpreted when fresh or forced, else retained. -/
def rcCommandOf (manager : CommandManager F) (params : Params F) (rc : Rc F)
    (forceRcRate : Bool) : CombinedControl F :=
  (manager.interpretWhen rc.newCommand forceRcRate rc.takeNewCommand.2 params).rcCommand

/-- A resolved attitude axis comes from the sticks for a forced source or an override reason. -/
theorem resolve_attitude (manager : CommandManager F) (nowMs : Nat) (params : Params F)
    (rc : Rc F) (state : StateManager) :
    let timed := manager.updateOffboardTimeout (nowMs * 1000) params
    let safety := (timed.estimatorModeSafety params rc state).2
    let deviated stick := timed.attitudeStickDeviated rc stick (overrideDeviation params)
      (overrideLagTimeMs params) nowMs
    let fromRc := timed.rcCommandOf params rc safety.forceRcRate
    let combined := (manager.resolve nowMs params rc state).manager.combinedCommand
    combined.qx =
        (if safety.forceRcAttitude || rc.attitudeOverrideOn || deviated .X ||
            !timed.offboardCommand.qx.active then fromRc.qx else timed.offboardCommand.qx) ∧
      combined.qy =
        (if safety.forceRcAttitude || rc.attitudeOverrideOn || deviated .Y ||
            !timed.offboardCommand.qy.active then fromRc.qy else timed.offboardCommand.qy) := by
  -- The lockout and the interpretation leave the offboard command and the lags to the muxer.
  intro timed safety deviated fromRc combined
  obtain ⟨keptRc, keptOffboard, keptTimes⟩ := estimatorModeSafety_keeps timed params rc state
  have command := interpretWhen_rcCommand keptRc rc.newCommand safety.forceRcRate
    rc.takeNewCommand.2 params
  obtain ⟨sameOffboard, sameTimes⟩ := interpretWhen_keeps
    (timed.estimatorModeSafety params rc state).1 rc.newCommand safety.forceRcRate
    rc.takeNewCommand.2 params
  have muxed := doMuxing_attitude
    ((timed.estimatorModeSafety params rc state).1.interpretWhen rc.newCommand safety.forceRcRate
      rc.takeNewCommand.2 params) params rc.takeNewCommand.2 nowMs safety.forceRcAttitude
  simp only [attitudeStickDeviated, sameTimes, keptTimes, sameOffboard, keptOffboard,
    command] at muxed
  exact muxed

/-- Noting a lost link only adds errors. -/
theorem getErrors_subset_noteRcLoss (nowMs : Nat) (params : Params F) (rc : Rc F)
    (state : StateManager) : state.getErrors ⊆ (noteRcLoss nowMs params rc state).getErrors := by
  -- Raising an error keeps the ones already held.
  unfold noteRcLoss
  split
  · exact StateManager.getErrors_subset_raise state ErrorFlag.RC_LOST params
  · exact Finset.Subset.refl _

section Pass

variable {manager : CommandManager F} {nowMs : Nat} {params : Params F} {rc : Rc F}
  {state : StateManager}

/-- A pass outside failsafe leaves the state with which it resolved the commands. -/
theorem run_state (manager : CommandManager F) (nowMs : Nat) (params : Params F) (rc : Rc F)
    (state : StateManager) :
    (manager.run nowMs params rc state).state = noteRcLoss nowMs params rc state := by
  -- Both branches return the state after the link check.
  simp only [run]
  split <;> rfl

/-- A forced rate gives the sticks' roll and pitch the rate type. -/
theorem rcCommandOf_forced (manager : CommandManager F) (rc : Rc F)
    (rotary : params.isNonzeroInt .PARAM_FIXED_WING = false) :
    (manager.rcCommandOf params rc true).qx.controlType = .rate ∧
      (manager.rcCommandOf params rc true).qy.controlType = .rate := by
  -- The forced type is used whatever the switches say.
  simpa [rcCommandOf, interpretWhen] using
    interpretRc_types manager rc.takeNewCommand.2 params (some .rate) rotary

/-- Without a forced rate the sticks offer an angle exactly when a fresh sample selects angle
mode or the retained command is an angle. -/
theorem rcCommandOf_angle_iff (manager : CommandManager F) (rc : Rc F)
    (rotary : params.isNonzeroInt .PARAM_FIXED_WING = false) :
    ((manager.rcCommandOf params rc false).qx.controlType = .angle ↔
        OffersAngle params rc manager.rcCommand.qx) ∧
      ((manager.rcCommandOf params rc false).qy.controlType = .angle ↔
        OffersAngle params rc manager.rcCommand.qy) := by
  -- A fresh sample is interpreted, and an old one leaves the command as it was.
  have types := interpretRc_types manager rc.takeNewCommand.2 params none rotary
  have selected := rcRollPitchType_angle_iff params rc
  unfold OffersAngle rcCommandOf interpretWhen
  cases rc.newCommand
  · simp
  · simp only [Bool.or_false, ↓reduceIte, Bool.false_eq_true]
    rw [types.1, types.2, Option.getD_none]
    exact ⟨selected, selected⟩

/-- A pass outside failsafe keeps roll and pitch off angles exactly when the lockout forces the
rate type or the sticks do not steer by angle. -/
theorem resolve_attitude_not_angle_iff (enabled : estimatorAngleLockoutEnabled params = true)
    (rotary : params.isNonzeroInt .PARAM_FIXED_WING = false)
    (unhealthy : ErrorFlag.UNHEALTHY_ESTIMATOR ⊆ state.getErrors) :
    let combined := (manager.resolve nowMs params rc state).manager.combinedControl
    (combined.qx.controlType ≠ .angle ∧ combined.qy.controlType ≠ .angle) ↔
      (manager.RateForced nowMs params rc ∨ ¬ manager.SteersByAngle nowMs params rc) := by
  -- The pass is followed from the lockout through interpretation to the muxer.
  intro combined
  obtain ⟨forces, source⟩ := estimatorModeSafety_forces manager nowMs rc enabled rotary unhealthy
  obtain ⟨roll, pitch⟩ := resolve_attitude manager nowMs params rc state
  obtain ⟨offboard, timedEq⟩ := updateOffboardTimeout_eq manager (nowMs * 1000) params
  have retained : (manager.updateOffboardTimeout (nowMs * 1000) params).rcCommand =
      manager.rcCommand := by rw [timedEq]
  have combinedEq : combined = (manager.resolve nowMs params rc state).manager.combinedCommand :=
    rfl
  rw [combinedEq, roll, pitch, source]
  unfold SteersByAngle FollowsRc
  simp only at forces ⊢
  have request : (manager.updateOffboardTimeout (nowMs * 1000) params).offboardAngleRequested =
      true → manager.RateForced nowMs params rc := fun asked => Or.inr (Or.inl asked)
  generalize manager.updateOffboardTimeout (nowMs * 1000) params = timed at *
  generalize (timed.estimatorModeSafety params rc state).2.forceRcRate = forced at *
  by_cases rate : manager.RateForced nowMs params rc
  · -- The sticks are in rate mode, and an offboard angle would force them as the source.
    have forcedTrue : forced = true := forces.mpr rate
    subst forcedTrue
    obtain ⟨rollRate, pitchRate⟩ := rcCommandOf_forced timed rc rotary
    refine ⟨fun _ => Or.inl rate, fun _ => ?_⟩
    cases asked : timed.offboardAngleRequested with
    | true => simp [rollRate, pitchRate]
    | false =>
      obtain ⟨quietRoll, quietPitch⟩ := offboard_not_angle asked
      rw [ne_eq, muxed_angle_iff quietRoll, rollRate, ne_eq, muxed_angle_iff quietPitch, pitchRate]
      simp
  · -- Nothing is forced, so each axis is an angle exactly when the sticks steer it by angle.
    have forcedFalse : forced = false := by simpa [rate] using forces
    subst forcedFalse
    have asked : timed.offboardAngleRequested = false := by
      by_contra asked
      exact rate (request (by simpa using asked))
    obtain ⟨rollAngle, pitchAngle⟩ := rcCommandOf_angle_iff timed rc rotary
    obtain ⟨quietRoll, quietPitch⟩ := offboard_not_angle asked
    rw [asked, ne_eq, muxed_angle_iff quietRoll, ne_eq, muxed_angle_iff quietPitch, rollAngle,
      pitchAngle, retained, ← not_or]
    simp [rate]

/-- With the lockout enabled on a multirotor outside failsafe and an unhealthy estimator, a pass
leaves roll and pitch off angles exactly when the lockout forces the rate type or the sticks do
not steer by angle. -/
theorem run_attitude_not_angle_iff (enabled : estimatorAngleLockoutEnabled params = true)
    (rotary : params.isNonzeroInt .PARAM_FIXED_WING = false)
    (unhealthy : ErrorFlag.UNHEALTHY_ESTIMATOR ⊆ state.getErrors)
    (flying : (manager.run nowMs params rc state).state.isInFailsafe = false) :
    let combined := (manager.run nowMs params rc state).manager.combinedControl
    (combined.qx.controlType ≠ .angle ∧ combined.qy.controlType ≠ .angle) ↔
      (manager.RateForced nowMs params rc ∨ ¬ manager.SteersByAngle nowMs params rc) := by
  -- Checking the link only adds errors, so the estimator is still unhealthy when resolving.
  rw [run_state] at flying
  have still := unhealthy.trans (getErrors_subset_noteRcLoss nowMs params rc state)
  intro combined
  have resolved : combined = (manager.resolve nowMs params rc
      (noteRcLoss nowMs params rc state)).manager.combinedControl := by
    simp only [combined, run, flying, Bool.false_eq_true, ↓reduceIte]
  rw [resolved]
  exact resolve_attitude_not_angle_iff enabled rotary still

end Pass

section Steering

/-- Parameters with the angle lockout enabled and angle mode selected. -/
def lockoutParams : Params ℚ := Params.new.setById .PARAM_EST_ANGLE_LOCKOUT (.int 1)

/-- A sample with the roll stick hard over and everything else at rest. -/
def rollHardOver : RcPacket ℚ where
  header := { timestamp := 100000 }
  nChan := 8
  chan := fun channel => if channel = 0 then 1 else if channel.val < 4 then 1 / 2 else 0
  lol := false

/-- An offboard command that holds all rates at zero. -/
def holdRates : OffboardControlMsg ℚ where
  mode := .modeRollratePitchrateYawrateThrottle
  ignore := ∅
  qx := 0
  qy := 0
  qz := 0
  fx := 0
  fy := 0
  fz := 0
  passthrough := fun _ => 0

/-- A disarmed manager that knows its estimator is unhealthy. -/
def unhealthyState : StateManager :=
  (StateManager.new.update .INITIALIZED lockoutParams).update
    (.ERROR_OCCURRED ErrorFlag.UNHEALTHY_ESTIMATOR) lockoutParams

/-- The handler and state after the hard-over sample has been interpreted. -/
def steeredRc : Rc ℚ × StateManager :=
  ((Rc.new.init lockoutParams).receive rollHardOver).run 100 lockoutParams unhealthyState

/-- The command manager after the offboard rates have been received. -/
def heldManager : CommandManager ℚ := CommandManager.new.setNewOffboardCommand 100000 holdRates

/-- The theorem's hypotheses are met by a stick that overrides an offboard rate command. -/
theorem run_attitude_not_angle_iff_steered :
    let combined :=
      (heldManager.run 100 lockoutParams steeredRc.1 steeredRc.2).manager.combinedControl
    (combined.qx.controlType ≠ .angle ∧ combined.qy.controlType ≠ .angle) ↔
      (heldManager.RateForced 100 lockoutParams steeredRc.1 ∨
        ¬ heldManager.SteersByAngle 100 lockoutParams steeredRc.1) :=
  -- Every hypothesis is decided by running the pass.
  run_attitude_not_angle_iff (by decide) (by decide) (by decide +kernel) (by decide +kernel)

/-- A deflected stick takes over from offboard rates with an angle the lockout never saw. -/
theorem steered_roll_is_angle :
    estimatorAngleLockoutEnabled lockoutParams = true ∧
      lockoutParams.isNonzeroInt .PARAM_FIXED_WING = false ∧
      ErrorFlag.UNHEALTHY_ESTIMATOR ⊆ steeredRc.2.getErrors ∧
      (heldManager.run 100 lockoutParams steeredRc.1 steeredRc.2).state.isInFailsafe = false ∧
      (heldManager.run 100 lockoutParams steeredRc.1
        steeredRc.2).manager.combinedControl.qx.controlType = .angle := by
  -- The override switch is off and offboard roll and pitch are active rates.
  refine ⟨by decide, by decide, ?_, ?_, ?_⟩ <;> decide +kernel

end Steering

end CommandManager

end Veloxity
