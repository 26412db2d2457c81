import Veloxity.Command.OnboardParams
import Veloxity.World.AcknowledgedSets
import Veloxity.World.Announcements

/-! Which parameters each stage can change. -/

namespace Veloxity

variable {F R S O E C M D : Type}

namespace World

/-- What command service finds in the world. -/
def commandService (world : World F R E C M D) : CommandService F C where
  requests := world.commandEvents
  paramEvents := world.paramEvents
  commEvents := world.commEvents
  command := world.command
  controller := world.controller
  flags := world.calFlags
  params := world.params
  boardCalls := []

/-- Being informed changes neither the state nor the parameters. -/
theorem informed_rest (world : World F R E C M D) (input : CommStageInput F) :
    (world.informed input).state = world.state ∧ (world.informed input).params = world.params := by
  -- Being informed fills queues only.
  have received : (world.processCommStage input).state = world.state ∧
      (world.processCommStage input).params = world.params := by
    simp only [processCommStage]
    split <;> exact ⟨rfl, rfl⟩
  unfold informed
  dsimp only
  split
  · simp only [applyCompanionEvents]
    exact received
  · exact received

section

variable [FlightFloat F]

/-- A communication stage resets the parameters to their defaults. -/
def resetsParams (world : World F R E C M D) (input : CommStageInput F) : Prop :=
  world.state.isArmed = false ∧
    (world.informed input).commandEvents.paramDefaultsRequests.items ≠ []

/-- The parameters a communication stage reads from storage last, if its commands read any. -/
def loadedParams [Controller F R S O C] (world : World F R E C M D) (input : CommStageInput F) :
    Option (Params F) :=
  (world.informed input).commandService.loadedParams world.state input.storage

/-- The commands leave what they read from storage, or else the defaults or the parameters as they
were, but for those the vehicle sets itself. -/
theorem params_commanded [Controller F R S O C] (world : World F R E C M D)
    (input : CommStageInput F) :
    ∃ base, (world.resetsParams input ∧ SameButOnboard .new base ∨
        ¬ world.resetsParams input ∧ SameButOnboard world.params base) ∧
      (world.commanded input).params = (world.loadedParams input).getD base := by
  -- The commands run or are skipped, and a reset comes before a read.
  obtain ⟨state, params⟩ := world.informed_rest input
  obtain ⟨base, same, served⟩ := (world.informed input).commandService.params_applyCommandRequests
    world.state input.storage
  have reset : world.resetsParams input ∧
        (world.informed input).commandService.resetParams world.state = .new ∨
      ¬ world.resetsParams input ∧
        (world.informed input).commandService.resetParams world.state = world.params := by
    by_cases resets : world.resetsParams input
    · exact .inl ⟨resets, if_pos resets⟩
    · exact .inr ⟨resets, (if_neg resets).trans params⟩
  have left : world.resetsParams input ∧ SameButOnboard .new base ∨
      ¬ world.resetsParams input ∧ SameButOnboard world.params base := by
    rcases reset with ⟨resets, left⟩ | ⟨keeps, left⟩
    · exact .inl ⟨resets, left ▸ same⟩
    · exact .inr ⟨keeps, left ▸ same⟩
  by_cases idle : (world.informed input).commandEvents.isEmpty = true
  · -- Without commands nothing is reset and nothing is read.
    have empty : (world.informed input).commandEvents.paramDefaultsRequests.items = [] ∧
        (world.informed input).commandEvents.boardCommandRequests.items = [] := by
      simp only [CommandEventQueues.isEmpty, Bool.and_eq_true] at idle
      exact ⟨List.isEmpty_iff.mp idle.1.1.1.1.1.2, List.isEmpty_iff.mp idle.1.1.1.1.2⟩
    refine ⟨world.params, .inr ⟨fun resets => resets.2 empty.1, .refl _⟩, ?_⟩
    have unread : world.loadedParams input = none := by
      rw [loadedParams, CommandService.loadedParams, commandService]
      dsimp only
      rw [empty.2]
      rfl
    rw [unread, commanded]
    simp [idle, params]
  · refine ⟨base, left, ?_⟩
    rw [commanded]
    simp only [idle, Bool.not_false, if_true, applyCommandEvents, state]
    exact served

variable [ReflectionFormat F] [Controller F R S O C]

/-- Parameter service carries out the admitted requests. -/
theorem params_serveReceived (world : World F R E C M D) (input : CommStageInput F) :
    (world.serveReceived input).params =
      requestedParams (world.commanded input).params (world.admittedSets input) :=
  (congrArg ParamService.params (world.paramService_serveReceived input).1).trans
    ((world.commanded input).paramService.commits_serviceParamEvents).params

variable [Estimator F R S E] [Mixer F R O M]

/-- After the requests have been served, the rest of the stage sets the vehicle's own parameters. -/
theorem sameButOnboard_communication (world : World F R E C M D) (input : CommStageInput F) :
    SameButOnboard (world.serveReceived input).params
      (world.runCommunicationAndParameterServiceStage input).params := by
  -- Only opening a window of the gyro sets parameters after that.
  have set (served : World F R E C M D) {id : ParamId} (value : ParamValue F)
      (own : id ∈ onboardParams) : SameButOnboard served.params (served.setParam id value).params :=
    .setParamAndEmitChange served.params served.paramEvents value own
  rw [communication_params, requested]
  unfold requestGyroCalibrationIfNeeded
  split
  · -- The window is opened with the biases of the gyro forgotten.
    exact ((set _ _ (by decide)).trans (set _ _ (by decide))).trans (set _ _ (by decide))
  · exact .refl _

variable [FlightFloat R] [FloatCast F R] [PwmDriver R D]

/-- Every other stage sets the vehicle's own parameters at most. -/
theorem sameButOnboard_of_not_communication (world : World F R E C M D) {stage : Stage F R}
    (other : stage.received = none) : SameButOnboard world.params (world.stage stage).params := by
  rcases world.stageEffect stage with
    ⟨ready, nowUs, _, senses, _, rest⟩ | ⟨input, rfl⟩ | ⟨nowMs, freshRc, rfl⟩ | ⟨_, _, rest⟩
  · obtain ⟨state, calFlags, settled⟩ := (ready.noteSensorHealth nowUs).settleArmCalibration_eq
    rw [settled] at rest
    have effect := senses.effect (otherWindows ∪ gyroWindow) Finset.subset_union_left
      fun _ => Finset.subset_union_right
    rw [show (world.stage stage).params = ready.params from rest.params]
    exact .of_effect effect
  · cases other
  · obtain ⟨pass, params, paramEvents, _, others, passed⟩ :=
      world.runRcCommandState_eq nowMs freshRc
    obtain ⟨pwm, pwmOutput, synced⟩ :=
      (world.runRcCommandState nowMs freshRc).runPwmOutputStage_eq
    -- A pass sets at most the attitude mode, and its outputs no parameter.
    rw [stage, runRcCommandStateStages, synced, passed]
    intro id kept
    refine others id ?_
    rintro rfl
    exact kept (by decide)
  · rw [show (world.stage stage).params = world.params from rest.params]
    exact .refl _

end

end World

end Veloxity
