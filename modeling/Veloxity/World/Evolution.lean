import Veloxity.Command.LockoutLaws
import Veloxity.State.Evolution
import Veloxity.World.Scheduling

/-! What each stage can do to the state manager, and what it leaves alone. -/

namespace Veloxity

open StateManager (Evolves ErrorEvent PilotEvent RequestEvent)

variable {F R S O E C M D : Type}

/-- The parts of the world that fly the vehicle. -/
structure FlightPart (F R E M D : Type) where
  state : StateManager
  processedSensors : ProcessedSensors F R
  lastImuSeen : Nat
  rc : Rc F
  estimator : E
  mixer : M
  controlPipeline : ControlPipelineResource
  pwmOutput : PwmOutputState
  pwm : D

/-- The parts of the world that fly the vehicle. -/
def World.flightPart (world : World F R E C M D) : FlightPart F R E M D :=
  { state := world.state, processedSensors := world.processedSensors
    lastImuSeen := world.lastImuSeen, rc := world.rc, estimator := world.estimator
    mixer := world.mixer, controlPipeline := world.controlPipeline, pwmOutput := world.pwmOutput
    pwm := world.pwm }

section Reactions

variable [FlightFloat F]

/-- Configuring the failsafe evolves by errors about the failsafe. -/
theorem CommandManager.evolves_updateFailsafeConfig (manager : CommandManager F)
    (params : Params F) (state : StateManager) :
    Evolves F (ErrorEvent ErrorFlag.INVALID_FAILSAFE) state
      (manager.updateFailsafeConfig params state).2 := by
  -- The flag is raised or cleared, whatever it was.
  simp only [CommandManager.updateFailsafeConfig]
  split
  · exact StateManager.evolves_raise (Finset.Subset.refl _) state params
  · exact StateManager.evolves_clear (Finset.Subset.refl _) state params

/-- Errors the parameter reactions may raise or clear. -/
def reactionErrors : ErrorFlag := ErrorFlag.INVALID_MIXER ∪ ErrorFlag.INVALID_FAILSAFE

namespace ParamReaction

omit [FlightFloat F] in
/-- A mixer's verdict evolves the state by errors about the mixer. -/
theorem evolves_adoptMixer (reaction : ParamReaction F E C M) (params : Params F)
    (refreshed : M × Option MixerStatus) :
    Evolves F (ErrorEvent ErrorFlag.INVALID_MIXER) reaction.state
      (reaction.adoptMixer params refreshed).state := by
  -- The verdict decides whether the flag is raised or cleared.
  unfold adoptMixer
  cases refreshed.2 with
  | none => exact .refl
  | some status =>
    cases status with
    | healthy => exact StateManager.evolves_clear (Finset.Subset.refl _) reaction.state params
    | invalidMixer => exact StateManager.evolves_raise (Finset.Subset.refl _) reaction.state params

/-- Configuring the failsafe evolves by the reactions' errors. -/
theorem evolves_updateFailsafe (reaction : ParamReaction F E C M) (params : Params F) :
    Evolves F (ErrorEvent reactionErrors) reaction.state
      (reaction.updateFailsafe params).state :=
  (reaction.command.evolves_updateFailsafeConfig params reaction.state).mono
    (ErrorEvent.mono Finset.subset_union_right)

omit [FlightFloat F] in
/-- The mixer's reactions to changes evolve by errors about the mixer. -/
theorem evolves_mixerOnParamChanged [Mixer F R O M] (reaction : ParamReaction F E C M)
    (params : Params F) (changes : List (ParamChanged F)) :
    Evolves F (ErrorEvent ErrorFlag.INVALID_MIXER) reaction.state
      (reaction.mixerOnParamChanged params changes).state := by
  -- The changes are taken one after another.
  unfold mixerOnParamChanged
  induction changes generalizing reaction with
  | nil => exact .refl
  | cons change rest ih => exact (evolves_adoptMixer reaction params _).trans (ih _)

/-- The command manager's reactions to changes evolve by the reactions' errors. -/
theorem evolves_commandOnParamChanged (reaction : ParamReaction F E C M) (params : Params F)
    (changes : List (ParamChanged F)) :
    Evolves F (ErrorEvent reactionErrors) reaction.state
      (reaction.commandOnParamChanged params changes).state := by
  -- Only two parameters matter, and both have the failsafe configured.
  unfold commandOnParamChanged
  induction changes generalizing reaction with
  | nil => exact .refl
  | cons change rest ih =>
    rw [List.foldl_cons]
    split
    · exact (reaction.evolves_updateFailsafe params).trans (ih _)
    · exact (reaction.evolves_updateFailsafe params).trans (ih _)
    · exact ih reaction

/-- All reactions evolve by the reactions' errors. -/
theorem evolves_applyParamReactions [Estimator F R S E] [Controller F R S O C] [Mixer F R O M]
    (reaction : ParamReaction F E C M) (params : Params F) (events : ParamEventQueues F) :
    Evolves F (ErrorEvent reactionErrors) reaction.state
      (reaction.applyParamReactions params events).1.state := by
  have mixer : ErrorFlag.INVALID_MIXER ⊆ reactionErrors := Finset.subset_union_left
  -- Handing the parameters on leaves the state alone.
  have kept (reacted : ParamReaction F E C M) (update : Bool) :
      (if update then reacted.updateGains params else reacted).state = reacted.state := by
    cases update <;> rfl
  simp only [applyParamReactions, kept]
  split
  · have refreshed := (evolves_adoptMixer reaction params
      (Mixer.refreshParams reaction.mixer params)).mono (ErrorEvent.mono mixer)
    exact refreshed.trans (evolves_updateFailsafe
      { reaction.mixerRefreshParams params with
        rc := (reaction.mixerRefreshParams params).rc.init params } params)
  · have changed := (reaction.evolves_mixerOnParamChanged params events.changes.items).mono
      (ErrorEvent.mono mixer)
    exact changed.trans (evolves_commandOnParamChanged
      ((reaction.mixerOnParamChanged params events.changes.items).rcOnParamChanged params
        events.changes.items) params events.changes.items)

end ParamReaction

end Reactions

section Pilot

variable [FlightFloat F]

omit [FlightFloat F] in
/-- Asking to arm evolves by a request. -/
theorem evolves_requestArm (state : StateManager) (params : Params F) :
    Evolves F RequestEvent state (state.update .REQUEST_ARM params) := by
  -- The event is one of the two requests.
  have may : RequestEvent state .REQUEST_ARM := Or.inl rfl
  exact .event params may

omit [FlightFloat F] in
/-- Asking to disarm evolves by a request. -/
theorem evolves_requestDisarm (state : StateManager) (params : Params F) :
    Evolves F RequestEvent state (state.update .REQUEST_DISARM params) := by
  -- The event is one of the two requests.
  have may : RequestEvent state .REQUEST_DISARM := Or.inr rfl
  exact .event params may

/-- Holding the sticks evolves by requests. -/
theorem Rc.evolves_lookForStickSignal (rc : Rc F) (dt : Nat) (armThreshold : F)
    (params : Params F) (state : StateManager) :
    Evolves F RequestEvent state (rc.lookForStickSignal dt armThreshold params state).2 := by
  have either {asked : Prop} [Decidable asked] {yes no : Rc F × StateManager}
      (first : Evolves F RequestEvent state yes.2) (second : Evolves F RequestEvent state no.2) :
      Evolves F RequestEvent state (if asked then yes else no).2 := by
    split
    · exact first
    · exact second
  -- Each gesture asks for at most one request, after the interlock inputs.
  unfold Rc.lookForStickSignal
  refine either (either ?_ .refl) (either ?_ .refl)
  · exact (Evolves.safety _ _).trans (evolves_requestArm _ params)
  · exact evolves_requestDisarm state params

/-- An arming gesture evolves by requests. -/
theorem Rc.evolves_lookForArmDisarmSignal (rc : Rc F) (nowMs : Nat) (params : Params F)
    (state : StateManager) :
    Evolves F RequestEvent state (rc.lookForArmDisarmSignal nowMs params state).2 := by
  -- The switch asks for at most one request as well.
  unfold Rc.lookForArmDisarmSignal
  dsimp only
  split
  · exact Rc.evolves_lookForStickSignal _ _ _ params state
  · unfold Rc.lookForSwitchSignal
    dsimp only
    split
    · split
      · exact (Evolves.safety _ _).trans (evolves_requestArm _ params)
      · exact Evolves.safety _ _
    · split
      · exact evolves_requestDisarm state params
      · exact .refl

/-- Judging a radio-control sample finds it healthy and interprets it, or reports the loss. -/
theorem Rc.run_cases (rc : Rc F) (nowMs : Nat) (params : Params F) (state : StateManager) :
    Evolves F RequestEvent (state.update (.ERROR_CLEARED ErrorFlag.RC_LOST) params)
        (rc.run nowMs params state).2 ∨
      (rc.run nowMs params state).2 = state.update (.ERROR_OCCURRED ErrorFlag.RC_LOST) params := by
  -- The health of the sample decides.
  unfold Rc.run
  split
  · exact Or.inl (Rc.evolves_lookForArmDisarmSignal _ _ _ _)
  · exact Or.inr rfl

/-- Resolving the commands raises at most the loss of the link. -/
theorem CommandManager.evolves_run (manager : CommandManager F) (nowMs : Nat) (params : Params F)
    (rc : Rc F) (state : StateManager) :
    Evolves F (ErrorEvent ErrorFlag.RC_LOST) state (manager.run nowMs params rc state).state := by
  -- The loss is noted once its time has come.
  rw [CommandManager.run_state, CommandManager.noteRcLoss]
  split
  · exact StateManager.evolves_raise (Finset.Subset.refl _) state params
  · exact .refl

end Pilot

namespace World

section Communication

variable [FlightFloat F]

omit [FlightFloat F] in
/-- Acting on messages leaves the flight alone. -/
theorem processCommStage_flightPart (world : World F R E C M D) (input : CommStageInput F) :
    (world.processCommStage input).flightPart = world.flightPart := by
  -- Both branches only replace queues.
  simp only [processCommStage]
  split <;> rfl

omit [FlightFloat F] in
/-- Taking in the companion's inputs leaves the flight alone. -/
theorem applyCompanionEvents_flightPart (world : World F R E C M D) :
    world.applyCompanionEvents.flightPart = world.flightPart := by
  -- Queues, the link and what the companion has sent are replaced.
  simp only [applyCompanionEvents, flightPart]

/-- Serving commands leaves the flight alone. -/
theorem applyCommandEvents_flightPart [Controller F R S O C] (world : World F R E C M D)
    (storage : BoardStorage F) :
    (world.applyCommandEvents storage).flightPart = world.flightPart := by
  -- The state is only read.
  simp only [applyCommandEvents, flightPart]

/-- Serving parameter requests leaves the flight alone. -/
theorem serviceParamEvents_flightPart [ReflectionFormat F] (world : World F R E C M D) :
    world.serviceParamEvents.flightPart = world.flightPart := by
  -- Parameters and queues are replaced.
  simp only [serviceParamEvents, flightPart]

/-- Serving the companion leaves the flight alone. -/
theorem serveReceived_flightPart [ReflectionFormat F] [Controller F R S O C]
    (world : World F R E C M D) (input : CommStageInput F) :
    (world.serveReceived input).flightPart = world.flightPart := by
  -- Each part of the service runs or is skipped.
  have companion (served : World F R E C M D) :
      (if served.hasPendingCompanionWork then served.applyCompanionEvents else served).flightPart =
        served.flightPart := by
    split
    · exact applyCompanionEvents_flightPart served
    · rfl
  have commands (served : World F R E C M D) :
      (if !served.commandEvents.isEmpty then served.applyCommandEvents input.storage
        else served).flightPart = served.flightPart := by
    split
    · exact applyCommandEvents_flightPart served input.storage
    · rfl
  have parameters (served : World F R E C M D) :
      (if served.hasPendingParamWork then served.serviceParamEvents else served).flightPart =
        served.flightPart := by
    split
    · exact serviceParamEvents_flightPart served
    · rfl
  simp only [serveReceived, parameters, commands, companion, processCommStage_flightPart]

/-- Opening the gyro window leaves the flight alone. -/
theorem requestGyroCalibrationIfNeeded_flightPart (world : World F R E C M D) :
    world.requestGyroCalibrationIfNeeded.flightPart = world.flightPart := by
  -- Only parameters and flags change.
  unfold requestGyroCalibrationIfNeeded
  split <;> rfl

variable [ReflectionFormat F] [Estimator F R S E] [Controller F R S O C] [Mixer F R O M]

/-- The communication stage evolves the state by the reactions' errors. -/
theorem evolves_communication (world : World F R E C M D) (input : CommStageInput F) :
    Evolves F (ErrorEvent reactionErrors) world.state
      (world.runCommunicationAndParameterServiceStage input).state := by
  -- Until the reactions nothing touches the state.
  have before : (world.serveReceived input).requestGyroCalibrationIfNeeded.state = world.state :=
    congrArg FlightPart.state ((requestGyroCalibrationIfNeeded_flightPart _).trans
      (serveReceived_flightPart world input))
  unfold runCommunicationAndParameterServiceStage
  simp only
  split
  · rw [← before]
    exact ParamReaction.evolves_applyParamReactions (reaction _) _ _
  · rw [before]
    exact .refl

/-- The communication stage keeps the samples and the time of the last inertial one. -/
theorem communication_sensors (world : World F R E C M D) (input : CommStageInput F) :
    (world.runCommunicationAndParameterServiceStage input).processedSensors =
        world.processedSensors ∧
      (world.runCommunicationAndParameterServiceStage input).lastImuSeen = world.lastImuSeen := by
  -- Reactions reach neither.
  have before := (requestGyroCalibrationIfNeeded_flightPart _).trans
    (serveReceived_flightPart world input)
  have samples := congrArg FlightPart.processedSensors before
  have seen := congrArg FlightPart.lastImuSeen before
  unfold runCommunicationAndParameterServiceStage
  simp only
  split
  · exact ⟨samples, seen⟩
  · exact ⟨samples, seen⟩

end Communication

section Sensors

section Finishing

variable [Estimator F R S E] (world : World F R E C M D) (before : CalibrationFlags)

/-- A finished inertial calibration clears at most the missing calibration. -/
theorem finishImuCalibration_state :
    (world.finishImuCalibration before).state =
      if windowFinished .accel .accelFailed before world.calFlags then
        world.state.setErrorFlag ErrorFlag.UNCALIBRATED_IMU false world.params
      else world.state := by
  -- The estimator is reset on the way, which the state does not see.
  rw [finishImuCalibration, finishAccelCalibration, apply_ite World.state]
  rfl

/-- A finished inertial calibration evolves the state by the missing calibration alone. -/
theorem evolves_finishImuCalibration :
    Evolves F (ErrorEvent ErrorFlag.UNCALIBRATED_IMU) world.state
      (world.finishImuCalibration before).state := by
  -- The flag is cleared or the state is kept.
  rw [finishImuCalibration_state]
  split
  · exact StateManager.evolves_setErrorFlag _ _ _ _
  · exact .refl

/-- A finished inertial calibration neither starts nor ends the calibration before arming. -/
theorem isCalibrating_finishImuCalibration :
    (world.finishImuCalibration before).state.isCalibrating = world.state.isCalibrating := by
  -- Clearing a flag keeps the answer.
  rw [finishImuCalibration_state]
  split
  · exact StateManager.isCalibrating_setErrorFlag_clear _ _ _
  · rfl

/-- A finished inertial calibration replaces nothing but the state, the estimator and the clock. -/
theorem finishImuCalibration_eq : ∃ state estimator controlPipeline,
    world.finishImuCalibration before = { world with state, estimator, controlPipeline } := by
  -- Both windows are looked at in turn.
  rw [finishImuCalibration, finishAccelCalibration]
  by_cases finished : windowFinished .accel .accelFailed before
    (world.finishGyroCalibration before).calFlags = true
  · rw [if_pos finished]
    exact ⟨_, _, _, rfl⟩
  · rw [if_neg finished]
    exact ⟨world.state, _, world.controlPipeline, rfl⟩

end Finishing

/-- Publishing a barometer calibration only queues news. -/
theorem publishBaroCalibration_eq (world : World F R E C M D) (before : CalibrationFlags)
    (paramsBefore : Params F) :
    ∃ paramEvents, world.publishBaroCalibration before paramsBefore =
      { world with paramEvents } := by
  -- Without a finished window the queues stay as they are.
  unfold publishBaroCalibration
  split
  · exact ⟨_, rfl⟩
  · exact ⟨world.paramEvents, rfl⟩

/-- Noting the sensor's health evolves by errors about it. -/
theorem evolves_noteSensorHealth (world : World F R E C M D) (nowUs : Nat) :
    Evolves F (ErrorEvent ErrorFlag.IMU_NOT_RESPONDING) world.state
      (world.noteSensorHealth nowUs).state := by
  -- A held sample clears the flag, and a long absence raises it.
  unfold noteSensorHealth updateSensorHealth
  split
  · exact world.state.evolves_setErrorFlag ErrorFlag.IMU_NOT_RESPONDING false world.params
  · split
    · exact world.state.evolves_setErrorFlag ErrorFlag.IMU_NOT_RESPONDING true world.params
    · exact .refl

end Sensors

section Pilot

variable [FlightFloat F]

/-- After the sample is judged the commands are resolved and the errors revisited. -/
theorem runRcCommandState_state (world : World F R E C M D) (nowMs : Nat)
    (freshRc : Option (RcPacket F)) :
    ∃ (params : Params F) (rc : Rc F), (world.runRcCommandState nowMs freshRc).state =
      (world.command.run nowMs world.params rc (world.judgeRc nowMs freshRc).2).state.run params :=
  ⟨_, _, rfl⟩

/-- A pass resolves the commands for the judged sample, revisits the errors and sets at most one
parameter. -/
theorem runRcCommandState_eq (world : World F R E C M D) (nowMs : Nat)
    (freshRc : Option (RcPacket F)) :
    ∃ pass params paramEvents,
      world.command.run nowMs world.params (world.judgeRc nowMs freshRc).1
        (world.judgeRc nowMs freshRc).2 = pass ∧
      (∀ id, id ≠ .PARAM_RC_ATTITUDE_MODE → params.getById id = world.params.getById id) ∧
      world.runRcCommandState nowMs freshRc =
        { world with
          rc := pass.rc, params, paramEvents, command := pass.manager
          state := pass.state.run params } := by
  refine ⟨_, _, _, rfl, fun id other => ?_, rfl⟩
  -- The mode is set, or was the same already.
  split
  · unfold setParamAndEmitChange
    dsimp only
    split
    · rfl
    · exact world.params.getById_setById_of_ne _ other
  · rfl

/-- After the sample is judged the radio-control stage evolves by errors of the link. -/
theorem evolves_judgeRc (world : World F R E C M D) (nowMs : Nat)
    (freshRc : Option (RcPacket F)) :
    Evolves F (ErrorEvent ErrorFlag.RC_LOST) (world.judgeRc nowMs freshRc).2
      (world.runRcCommandState nowMs freshRc).state := by
  obtain ⟨params, rc, same⟩ := world.runRcCommandState_state nowMs freshRc
  rw [same]
  -- Revisiting brings up no new kind of error.
  exact (world.command.evolves_run nowMs world.params rc _).trans
    ((StateManager.evolves_run _ params).mono (ErrorEvent.mono (Finset.empty_subset _)))

/-- Judging a sample evolves by the pilot's events. -/
theorem evolves_judged (world : World F R E C M D) (nowMs : Nat) (freshRc : Option (RcPacket F)) :
    Evolves F PilotEvent world.state (world.judgeRc nowMs freshRc).2 := by
  have errors {start finish : StateManager}
      (evolved : Evolves F (ErrorEvent ErrorFlag.RC_LOST) start finish) :
      Evolves F PilotEvent start finish := evolved.mono fun _ _ error => Or.inr error
  unfold judgeRc
  -- A packet heard clears the loss and may ask for something; a link judged lost raises it.
  cases freshRc with
  | none => exact .refl
  | some packet =>
    dsimp only
    rcases (world.rc.receive packet).run_cases nowMs world.params world.state with heard | lost
    · exact (errors (StateManager.evolves_clear (Finset.Subset.refl _) _ _)).trans
        (heard.mono fun _ _ request => Or.inl request)
    · rw [lost]
      exact errors (StateManager.evolves_raise (Finset.Subset.refl _) _ _)

/-- The radio-control stage evolves by the pilot's events. -/
theorem evolves_runRcCommandState (world : World F R E C M D) (nowMs : Nat)
    (freshRc : Option (RcPacket F)) :
    Evolves F PilotEvent world.state (world.runRcCommandState nowMs freshRc).state :=
  (world.evolves_judged nowMs freshRc).trans
    ((world.evolves_judgeRc nowMs freshRc).mono fun _ _ error => Or.inr error)

/-- The radio-control stage never arms a calibrating vehicle. -/
theorem isArmed_runRcCommandState_of_calibrating (world : World F R E C M D) (nowMs : Nat)
    (freshRc : Option (RcPacket F)) (calibrating : world.state.isCalibrating) :
    (world.runRcCommandState nowMs freshRc).state.isArmed = false := by
  have disarmed := StateManager.isArmed_of_calibrating calibrating
  refine (world.evolves_judgeRc nowMs freshRc).disarmed ?_
  unfold judgeRc
  cases freshRc with
  | none => exact disarmed
  | some packet =>
    dsimp only
    rcases (world.rc.receive packet).run_cases nowMs world.params world.state with heard | lost
    · -- Requests let the calibration go on.
      refine StateManager.isArmed_of_calibrating (heard.calibrating ?_)
      rw [StateManager.isCalibrating_clear, calibrating]
    · rw [lost]
      exact StateManager.isArmed_update_of_error (Or.inl ⟨_, rfl⟩) disarmed

variable [FlightFloat R] [PwmDriver R D]

omit [FlightFloat F] in
/-- Bringing the driver in line replaces nothing but the driver and what is known of it. -/
theorem runPwmOutputStage_eq (world : World F R E C M D) :
    ∃ pwm pwmOutput, world.runPwmOutputStage = { world with pwm, pwmOutput } := ⟨_, _, rfl⟩

/-- The outputs follow the radio-control stage without touching what it leaves alone. -/
theorem runRcCommandStateStages_rest (world : World F R E C M D) (nowMs : Nat)
    (freshRc : Option (RcPacket F)) :
    (world.runRcCommandStateStages nowMs freshRc).state =
        (world.runRcCommandState nowMs freshRc).state ∧
      (world.runRcCommandStateStages nowMs freshRc).processedSensors = world.processedSensors ∧
      (world.runRcCommandStateStages nowMs freshRc).lastImuSeen = world.lastImuSeen ∧
      (world.runRcCommandStateStages nowMs freshRc).mixer = world.mixer := by
  obtain ⟨pass, params, paramEvents, _, _, passed⟩ := world.runRcCommandState_eq nowMs freshRc
  obtain ⟨pwm, pwmOutput, synced⟩ :=
    (world.runRcCommandState nowMs freshRc).runPwmOutputStage_eq
  -- Neither part touches the samples or the mixer.
  rw [runRcCommandStateStages, synced, passed]
  exact ⟨rfl, rfl, rfl, rfl⟩

end Pilot

section Control

/-- Errors the control pipeline may raise or clear. -/
def controlErrors : ErrorFlag :=
  ErrorFlag.TIME_GOING_BACKWARDS ∪ ErrorFlag.UNHEALTHY_ESTIMATOR ∪ ErrorFlag.INVALID_MIXER

variable [FlightFloat F] [FlightFloat R] [FloatCast F R] [Estimator F R S E]
  [Controller F R S O C] [Mixer F R O M] [PwmDriver R D]

omit [FlightFloat F] [Estimator F R S E] [Controller F R S O C] [FloatCast F R] in
/-- Giving the driver its rates leaves the state alone. -/
theorem configureRates_state (pipeline : ControlPipeline F E C M D) :
    pipeline.configureRates.state = pipeline.state := by
  -- Only the driver and its mark are touched.
  unfold ControlPipeline.configureRates
  split
  · rfl
  · simp only
    split <;> rfl

/-- The control pipeline evolves the state by its own errors. -/
theorem evolves_runControlPipelineIfNewImu (pipeline : ControlPipeline F E C M D)
    (input : ControlPipelineInput F R) :
    Evolves F (ErrorEvent controlErrors) pipeline.state
      (pipeline.runControlPipelineIfNewImu input).1.state := by
  have flagged (flag : ErrorFlag) (known : flag ⊆ controlErrors) (state : StateManager)
      (isPresent : Bool) : Evolves F (ErrorEvent controlErrors) state
        (state.setErrorFlag flag isPresent input.params) :=
    (state.evolves_setErrorFlag flag isPresent input.params).mono (ErrorEvent.mono known)
  have time : ErrorFlag.TIME_GOING_BACKWARDS ⊆ controlErrors := by decide
  have unhealthy : ErrorFlag.UNHEALTHY_ESTIMATOR ⊆ controlErrors := by decide
  have mixer : ErrorFlag.INVALID_MIXER ⊆ controlErrors := by decide
  -- An accepted sample sets three flags in turn, and a refused one at most the first.
  unfold ControlPipeline.runControlPipelineIfNewImu
  split
  · exact .refl
  · dsimp only
    split_ifs
    · exact .refl
    · exact flagged _ time pipeline.state true
    · simp only [ControlPipeline.runControl, ControlPipeline.writeOutputs, configureRates_state]
      exact ((flagged _ time _ _).trans (flagged _ unhealthy _ _)).trans (flagged _ mixer _ _)

end Control

end World

end Veloxity
