import Mathlib.Data.Fintype.Basic
import Veloxity.World.Announcements
import Veloxity.World.Bench

/-! An armed vehicle that loses its link flies the failsafe command the parameters configure. -/

namespace Veloxity

variable {F R S O E C M D : Type}

deriving instance DecidableEq for CombinedControl

section Configured

variable [FlightFloat F]

namespace CommandManager

/-- The multirotor's failsafe steers by angles, and the fixed wing's passes through. -/
theorem configuredFailsafe_kind (params : Params F) :
    (configuredFailsafe params).qx.controlType =
      if params.isNonzeroInt .PARAM_FIXED_WING then .passthrough else .angle := by
  -- The throttle is put on a force, which leaves the torques alone.
  have multirotor : (configuredCommands params).1.qx.controlType = .angle := by
    unfold configuredCommands withFailsafeThrottle
    dsimp only
    split <;> rfl
  unfold configuredFailsafe
  split
  · rfl
  · exact multirotor

/-- The failsafe only depends on its throttle, the throttle's axis and the kind of vehicle. -/
theorem configuredFailsafe_congr {params other : Params F}
    (same : ∀ id, id = .PARAM_FIXED_WING ∨ id = .PARAM_FAILSAFE_THROTTLE ∨ id = .PARAM_RC_F_AXIS →
      other.getById id = params.getById id) :
    configuredFailsafe other = configuredFailsafe params := by
  -- Each of the three is read through its identifier.
  have kind : other.isNonzeroInt .PARAM_FIXED_WING = params.isNonzeroInt .PARAM_FIXED_WING := by
    rw [Params.isNonzeroInt, same .PARAM_FIXED_WING (Or.inl rfl), Params.isNonzeroInt]
  have throttle (fallback : F) : other.floatOr .PARAM_FAILSAFE_THROTTLE fallback =
      params.floatOr .PARAM_FAILSAFE_THROTTLE fallback := by
    rw [Params.floatOr, same .PARAM_FAILSAFE_THROTTLE (Or.inr (Or.inl rfl)), Params.floatOr]
  have placed (command : CombinedControl F) (throttle : F) :
      withFailsafeThrottle command other throttle =
        withFailsafeThrottle command params throttle := by
    unfold withFailsafeThrottle
    rw [same .PARAM_RC_F_AXIS (Or.inr (Or.inr rfl))]
  have invalid : failsafeThrottleInvalid other = failsafeThrottleInvalid params := by
    rw [failsafeThrottleInvalid, throttle, kind, failsafeThrottleInvalid]
  rw [configuredFailsafe, configuredCommands, configuredThrottle, placed, throttle, invalid, kind]
  rfl

end CommandManager

end Configured

namespace World

section Pass

variable [FlightFloat F]

/-- The receiver once it has taken in a fresh sample. -/
def heardRc (world : World F R E C M D) (freshRc : Option (RcPacket F)) : Rc F :=
  match freshRc with
  | some packet => world.rc.receive packet
  | none => world.rc

/-- The link fails the health check of a pass. -/
def LinkLost (world : World F R E C M D) (nowMs : Nat) (freshRc : Option (RcPacket F)) : Prop :=
  (world.heardRc freshRc).checkRcHealth (nowMs * 1000) world.params = false

/-- The health check decides whether the link is lost. -/
instance (world : World F R E C M D) (nowMs : Nat) (freshRc : Option (RcPacket F)) :
    Decidable (world.LinkLost nowMs freshRc) :=
  inferInstanceAs (Decidable (_ = false))

/-- The vehicle is armed in failsafe for the loss of the link, on a given command. -/
structure FliesFailsafe (world : World F R E C M D) (command : CombinedControl F) : Prop where
  rcLost : .rcLost ∈ world.state.getErrors
  armed : world.state.isArmed = true
  failsafe : world.state.isInFailsafe = true
  combined : world.command.combinedControl = command

/-- In every pass that loses the link, an armed vehicle flies the configured failsafe. -/
def LossFliesFailsafe (world : World F R E C M D) : Prop :=
  ∀ nowMs freshRc, world.state.isArmed = true → world.LinkLost nowMs freshRc →
    (world.runRcCommandState nowMs freshRc).FliesFailsafe
      (CommandManager.configuredFailsafe world.params)

/-- A judged sample that lost the link leaves an armed vehicle armed, and the link lost. -/
theorem judgeRc_of_lost {world : World F R E C M D} {nowMs : Nat}
    {freshRc : Option (RcPacket F)} (armed : world.state.isArmed = true)
    (lost : world.LinkLost nowMs freshRc) :
    (world.judgeRc nowMs freshRc).2.isArmed = true ∧
      (world.judgeRc nowMs freshRc).1.checkRcHealth (nowMs * 1000) world.params = false := by
  -- Without a fresh sample nothing is judged.
  cases freshRc with
  | none => exact ⟨armed, lost⟩
  | some packet =>
    have unhealthy : (world.rc.receive packet).checkRcHealth (nowMs * 1000) world.params = false :=
      lost
    have judged : world.judgeRc nowMs (some packet) =
        ({ world.rc.receive packet with newCommand := false },
          world.state.update (.ERROR_OCCURRED ErrorFlag.RC_LOST) world.params) := by
      show (world.rc.receive packet).run nowMs world.params world.state = _
      rw [Rc.run, unhealthy]
      rfl
    rw [judged]
    exact ⟨(StateManager.linkFailsafe_of_lost armed world.params).isArmed, unhealthy⟩

/-- A pass that loses the link flies the failsafe the command manager holds. -/
theorem runRcCommandState_of_lost {world : World F R E C M D} {nowMs : Nat}
    {freshRc : Option (RcPacket F)} (armed : world.state.isArmed = true)
    (lost : world.LinkLost nowMs freshRc) :
    (world.runRcCommandState nowMs freshRc).FliesFailsafe
      (world.command.failsafeCommand world.params) := by
  obtain ⟨stillArmed, stillLost⟩ := judgeRc_of_lost armed lost
  obtain ⟨failsafe, combined⟩ := world.command.run_of_lost stillArmed stillLost
  obtain ⟨pass, params, paramEvents, resolved, -, passed⟩ :=
    world.runRcCommandState_eq nowMs freshRc
  rw [resolved] at failsafe combined
  -- Revisiting the errors keeps the failsafe, whatever parameter the pass has set.
  have held := failsafe.run params
  rw [passed]
  exact ⟨held.rcLost, held.isArmed, held.isInFailsafe, combined⟩

end Pass

section Runs

/-- The failsafe a stage leaves configured is announced, or as the parameters had it before. -/
def FailsafeAnnounced [FlightFloat F] [ReflectionFormat F] [Controller F R S O C]
    (world : World F R E C M D) : Stage F R → Prop
  | .communication input =>
    (world.requested input).paramEvents.announcesFailsafe = true ∨
      CommandManager.configuredFailsafe (world.requested input).params =
        CommandManager.configuredFailsafe world.params
  | _ => True

/-- Whether a stage announces its failsafe can be computed. -/
instance [FlightFloat F] [DecidableEq F] [ReflectionFormat F] [Controller F R S O C]
    (world : World F R E C M D) : ∀ stage, Decidable (world.FailsafeAnnounced stage)
  | .communication _ => inferInstanceAs (Decidable (_ ∨ _))
  | .sensors _ _ | .serviceSensors _ | .imuTick _ | .controlUpdate _ _ | .rcCommand _ _ | .control
  | .telemetry _ | .realtimeTelemetry _ | .responses _ _ | .controlRate _ _
  | .serviceOpportunity _ => inferInstanceAs (Decidable True)

/-- The failsafe command is the one the parameters configure. -/
structure FailsafeConfigured [FlightFloat F] (world : World F R E C M D) : Prop where
  configurable : CommandManager.Configurable world.command.failsafeCommands
  configured : world.command.failsafeCommand world.params =
    CommandManager.configuredFailsafe world.params

variable [FlightFloat F]

namespace FailsafeConfigured

variable {world : World F R E C M D}

/-- A configured failsafe is what a lost link flies. -/
theorem lossFliesFailsafe (configured : world.FailsafeConfigured) : world.LossFliesFailsafe := by
  intro nowMs freshRc armed lost
  -- The pass flies what the manager holds.
  rw [← configured.configured]
  exact runRcCommandState_of_lost armed lost

/-- Commands that were configured from the parameters are configured. -/
theorem of_configured (commands : world.command.failsafeCommands =
    CommandManager.configuredCommands world.params) : world.FailsafeConfigured := by
  refine ⟨by rw [commands]; exact CommandManager.configurable_configured world.params, ?_⟩
  -- The kind of vehicle picks the command on both sides.
  rw [CommandManager.failsafeCommand_eq, commands]
  rfl

/-- Keeping the failsafe commands keeps the failsafe configured while the parameters agree. -/
theorem of_kept {after : World F R E C M D} (configured : world.FailsafeConfigured)
    (commands : after.command.failsafeCommands = world.command.failsafeCommands)
    (same : CommandManager.configuredFailsafe after.params =
      CommandManager.configuredFailsafe world.params) : after.FailsafeConfigured := by
  refine ⟨by rw [commands]; exact configured.configurable, ?_⟩
  -- Failsafes that agree are meant for the same kind of vehicle.
  have kinds := congrArg (fun command : CombinedControl F => command.qx.controlType) same
  simp only [CommandManager.configuredFailsafe_kind] at kinds
  have kind : after.params.isNonzeroInt .PARAM_FIXED_WING =
      world.params.isNonzeroInt .PARAM_FIXED_WING := by
    revert kinds
    cases after.params.isNonzeroInt .PARAM_FIXED_WING <;>
      cases world.params.isNonzeroInt .PARAM_FIXED_WING <;> simp
  rw [same, ← configured.configured, CommandManager.failsafeCommand_eq,
    CommandManager.failsafeCommand_eq, kind, commands]

end FailsafeConfigured

variable [FlightFloat R] [FloatCast F R] [ReflectionFormat F] [Estimator F R S E]
  [Controller F R S O C] [Mixer F R O M] [PwmDriver R D]

/-- An announced failsafe stays configured over a stage. -/
theorem FailsafeConfigured.stage {world : World F R E C M D} {stage : Stage F R}
    (configured : world.FailsafeConfigured) (announced : world.FailsafeAnnounced stage) :
    (world.stage stage).FailsafeConfigured := by
  rcases world.stageEffect stage with
    ⟨ready, nowUs, _, senses, _, rest⟩ | ⟨input, rfl⟩ | ⟨nowMs, freshRc, rfl⟩ | ⟨_, _, rest⟩
  · obtain ⟨state, calFlags, settled⟩ := (ready.noteSensorHealth nowUs).settleArmCalibration_eq
    rw [settled] at rest
    -- Calibrations set none of the parameters of the failsafe.
    have effect := senses.effect (otherWindows ∪ gyroWindow) Finset.subset_union_left
      fun _ => Finset.subset_union_right
    refine configured.of_kept (congrArg _ (rest.command.trans senses.command)) ?_
    refine CommandManager.configuredFailsafe_congr fun id one => ?_
    rw [show (world.stage stage).params = ready.params from rest.params]
    refine effect.params id ?_
    rcases one with rfl | rfl | rfl <;> decide
  · have commands := communication_failsafeCommands configured.configurable input
    have params := world.communication_params input
    show (world.runCommunicationAndParameterServiceStage input).FailsafeConfigured
    by_cases news : (world.requested input).paramEvents.announcesFailsafe = true
    · -- The news has the failsafe configured from the parameters the stage leaves.
      rw [if_pos news, ← params] at commands
      exact .of_configured commands
    · rw [if_neg news] at commands
      exact configured.of_kept commands (by rw [params]; exact announced.resolve_left news)
  · obtain ⟨pass, params, paramEvents, resolved, others, passed⟩ :=
      world.runRcCommandState_eq nowMs freshRc
    have commands := world.command.run_failsafeCommands nowMs world.params
      (world.judgeRc nowMs freshRc).1 (world.judgeRc nowMs freshRc).2
    rw [resolved] at commands
    show (world.runRcCommandState nowMs freshRc).runPwmOutputStage.FailsafeConfigured
    rw [passed]
    -- A pass sets at most the attitude mode, which the failsafe does not depend on.
    refine configured.of_kept commands (CommandManager.configuredFailsafe_congr fun id one => ?_)
    refine others id ?_
    rcases one with rfl | rfl | rfl <;> decide
  · exact configured.of_kept (congrArg _ rest.command) (congrArg _ rest.params)

omit [Mixer F R O M] in
/-- The failsafe is configured from the start. -/
theorem failsafeConfigured_init (params : Params F) (estimator : E) (controller : C) (mixer : M)
    (pwm : D) (nowUs : Nat) (backup : Option RosflightHardErrorMsg) :
    (World.init params .new estimator controller mixer pwm nowUs backup).FailsafeConfigured :=
  .of_configured (CommandManager.updateFailsafeConfig_commands CommandManager.configurable_new
    (initialParams params) (interlockedState (initialParams params) .new))

/-- In every interleaving of stages that announce the failsafe they configure, a vehicle that
loses its link flies the failsafe the parameters configure. -/
theorem lossFliesFailsafe_along (params : Params F) (estimator : E) (controller : C) (mixer : M)
    (pwm : D) (nowUs : Nat) (backup : Option RosflightHardErrorMsg) (stages : List (Stage F R))
    (announced : Library.Along FailsafeAnnounced stage
      (World.init params .new estimator controller mixer pwm nowUs backup) stages) :
    (Library.run stage (World.init params .new estimator controller mixer pwm nowUs backup)
      stages).LossFliesFailsafe := by
  -- The configured failsafe is the invariant.
  have configured : FailsafeConfigured (Library.run stage
      (World.init params .new estimator controller mixer pwm nowUs backup) stages) :=
    Library.run_invariant_along (fun _ _ configured announced => configured.stage announced)
      (failsafeConfigured_init params estimator controller mixer pwm nowUs backup) announced
  exact configured.lossFliesFailsafe

end Runs

end World

/-- A communication stage that receives one request to change a parameter. -/
def requestStage (id : ParamId) (value : ParamValue ℚ) : Stage ℚ ℚ :=
  .communication
    { incoming := [.paramSet
        { targetSystem := 1, targetComponent := 1, paramId := strToFixedBytes id.asStr
          paramValue := value }]
      clock := { timesyncUs := 0, offboardUs := 0 }
      storage := { readParams := fun _ params => (params, false), writeParams := fun _ _ => false }
      reactionUs := 0 }

/-- A failsafe throttle is configured before the arming switch is heard. -/
def throttleRun : List (Stage ℚ ℚ) :=
  [requestStage .PARAM_FAILSAFE_THROTTLE (.float (1 / 4)),
    .rcCommand 1 (some (switchSample 1000 true))]

/-- Losing the link after the throttle was configured flies that throttle. -/
theorem throttleRun_flies :
    (Library.run World.stage (benchWorld switchParams 8) throttleRun).state.isArmed = true ∧
      (Library.run World.stage (benchWorld switchParams 8) throttleRun).LossFliesFailsafe := by
  -- The run is evaluated once for both facts.
  have evaluated : (Library.run World.stage (benchWorld switchParams 8) throttleRun).state.isArmed ∧
      Library.Along World.FailsafeAnnounced World.stage
        (benchWorld switchParams 8) throttleRun := by
    decide +kernel
  exact ⟨evaluated.1, World.lossFliesFailsafe_along switchParams _ _ _ _ 0 none throttleRun
    evaluated.2⟩

/-- The throttle is moved to another axis once it has been configured. -/
def axisRun : List (Stage ℚ ℚ) := throttleRun ++ [requestStage .PARAM_RC_F_AXIS (.int 0)]

/-- Losing the link after the throttle's axis was changed flies the throttle on the old axis. -/
theorem axisRun_flies_old_axis :
    ¬ (Library.run World.stage (benchWorld switchParams 8) axisRun).LossFliesFailsafe := by
  have evaluated (world : BenchWorld ℚ ℚ)
      (reached : Library.run World.stage (benchWorld switchParams 8) axisRun = world) :
      world.state.isArmed ∧ world.LinkLost 1000 none ∧
        (world.runRcCommandState 1000 none).command.combinedControl ≠
          CommandManager.configuredFailsafe world.params := by
    rw [← reached]
    decide +kernel
  -- The last sample is long out of date after a second.
  obtain ⟨armed, lost, differs⟩ := evaluated _ rfl
  exact fun flies => differs (flies 1000 none armed lost).combined

end Veloxity
