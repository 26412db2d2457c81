import Veloxity.World.Announcements
import Veloxity.World.Bench

/-! Which mixers a vehicle can be armed with. -/

namespace Veloxity

open StateManager (Evolves ErrorEvent PilotEvent)

variable {F R S E C D : Type}

/-- Among the news are all parameters, or one that decides which mixer is flown. -/
def ParamEventQueues.announcesMixer (events : ParamEventQueues F) : Bool :=
  events.fullRefresh || events.changes.items.any fun change => isMixerConfigParam change.id

/-- A mixer's verdict on itself follows a choice, and the interlock follows the verdict. -/
structure Judged (choice : Int) (mixer : MatrixMixer F R) (state : StateManager) : Prop where
  verdict : mixer.status = .invalidMixer ↔ NUM_MIXERS ≤ choice
  interlocked : .invalidMixer ∈ state.getErrors ↔ mixer.status = .invalidMixer

/-- Two mixers give the same verdict, and the interlock stands as it did. -/
structure SameVerdict (mixer later : MatrixMixer F R) (state finish : StateManager) : Prop where
  verdict : later.status = mixer.status
  interlocked : .invalidMixer ∈ finish.getErrors ↔ .invalidMixer ∈ state.getErrors

/-- News that tells of the mixer has it judged, and any other keeps its verdict. -/
def Reacts (told : Bool) (choice : Int) (mixer later : MatrixMixer F R)
    (state finish : StateManager) : Prop :=
  match told with
  | true => Judged choice later finish
  | false => SameVerdict mixer later state finish

/-- One reaction after another tells of the mixer when either does. -/
theorem Reacts.trans {first second : Bool} {choice : Int} {mixer middle later : MatrixMixer F R}
    {state between finish : StateManager} (earlier : Reacts first choice mixer middle state between)
    (after : Reacts second choice middle later between finish) :
    Reacts (first || second) choice mixer later state finish := by
  -- A verdict that has been given is kept by what does not tell of the mixer.
  cases second with
  | true =>
    rw [Bool.or_true]
    exact after
  | false =>
    rw [Bool.or_false]
    cases first with
    | true =>
      refine ⟨?_, ?_⟩
      · rw [after.verdict, earlier.verdict]
      · rw [after.interlocked, earlier.interlocked, after.verdict]
    | false =>
      exact ⟨after.verdict.trans earlier.verdict, after.interlocked.trans earlier.interlocked⟩

/-- What keeps the verdict may follow any reaction. -/
theorem Reacts.trans_same {told : Bool} {choice : Int} {mixer middle later : MatrixMixer F R}
    {state between finish : StateManager} (earlier : Reacts told choice mixer middle state between)
    (after : SameVerdict middle later between finish) :
    Reacts told choice mixer later state finish := by
  -- Keeping the verdict is a reaction to news that does not tell of the mixer.
  have silent : Reacts false choice middle later between finish := after
  rw [← Bool.or_false told]
  exact earlier.trans silent

section Mixer

namespace MatrixMixer

variable [FlightFloat R] [FloatCast F R] [Svd R]

/-- A refreshed mixer refuses exactly the choices beyond the last one. -/
theorem refresh_status (mixer : MatrixMixer F R) (params : Params F) :
    (mixer.refresh params).status = .invalidMixer ↔
      NUM_MIXERS ≤ mixerParamInt params .PARAM_PRIMARY_MIXER := by
  -- The runtime parameters have no say in the verdict.
  show (mixer.refreshMixerConfig params).2 = .invalidMixer ↔ _
  by_cases beyond : NUM_MIXERS ≤ mixerParamInt params .PARAM_PRIMARY_MIXER
  · rw [refreshMixerConfig, if_pos beyond]
    exact iff_of_true rfl beyond
  · rw [refreshMixerConfig, if_neg beyond]
    exact iff_of_false (by simp) beyond

/-- A parameter that does not decide on the mixer leaves its verdict alone. -/
theorem onParamChanged_of_other (mixer : MatrixMixer F R) (params : Params F) {id : ParamId}
    (other : isMixerConfigParam id = false) :
    (mixer.onParamChanged params id).2 = none ∧
      (mixer.onParamChanged params id).1.status = mixer.status := by
  -- At most the runtime parameters are read again.
  simp only [onParamChanged, other, Bool.false_eq_true, if_false]
  exact ⟨trivial, by split <;> rfl⟩

/-- A parameter that decides on the mixer has it refreshed and its verdict reported. -/
theorem onParamChanged_of_config (mixer : MatrixMixer F R) (params : Params F) {id : ParamId}
    (config : isMixerConfigParam id = true) :
    ∃ adjusted : MatrixMixer F R, mixer.onParamChanged params id =
      (adjusted.refresh params, some (adjusted.refresh params).status) := by
  -- The runtime parameters are read first.
  simp only [onParamChanged, config, if_true]
  exact ⟨_, rfl⟩

omit [Svd R] in
/-- Mixing keeps the mixer and repeats its verdict. -/
theorem mix_verdict (mixer : MatrixMixer F R) (controls : ControllerOutput R)
    (ctx : MixerCtx F R) :
    (mixer.mix controls ctx).1 = mixer ∧ (mixer.mix controls ctx).2.status = mixer.status := by
  -- Both branches report the status as it is.
  unfold mix
  split
  · exact ⟨rfl, rfl⟩
  · exact ⟨rfl, rfl⟩

end MatrixMixer

end Mixer

section Reactions

variable [FlightFloat R] [FloatCast F R] [Svd R]

namespace ParamReaction

/-- Adopting a refreshed mixer has the interlock follow its verdict. -/
theorem judged_adoptMixer (reaction : ParamReaction F E C (MatrixMixer F R)) (params : Params F)
    (adjusted : MatrixMixer F R) :
    Judged (mixerParamInt params .PARAM_PRIMARY_MIXER)
      (reaction.adoptMixer params
        (adjusted.refresh params, some (adjusted.refresh params).status)).mixer
      (reaction.adoptMixer params
        (adjusted.refresh params, some (adjusted.refresh params).status)).state := by
  refine ⟨adjusted.refresh_status params, ?_⟩
  -- The error is raised or cleared by the verdict.
  show _ ↔ (adjusted.refresh params).status = .invalidMixer
  unfold adoptMixer
  dsimp only
  generalize (adjusted.refresh params).status = verdict
  cases verdict with
  | healthy => simp [StateManager.getErrors_clear, ErrorFlag.INVALID_MIXER]
  | invalidMixer => simp [StateManager.getErrors_raise, ErrorFlag.INVALID_MIXER]

/-- The mixer's reaction to one change is told by whether the change decides on it. -/
theorem reacts_onParamChanged (reaction : ParamReaction F E C (MatrixMixer F R))
    (params : Params F) (id : ParamId) :
    Reacts (isMixerConfigParam id) (mixerParamInt params .PARAM_PRIMARY_MIXER) reaction.mixer
      (reaction.adoptMixer params (reaction.mixer.onParamChanged params id)).mixer
      reaction.state
      (reaction.adoptMixer params (reaction.mixer.onParamChanged params id)).state := by
  cases config : isMixerConfigParam id with
  | true =>
    obtain ⟨adjusted, changed⟩ := reaction.mixer.onParamChanged_of_config params config
    rw [changed]
    exact judged_adoptMixer reaction params adjusted
  | false =>
    -- Nothing is reported, so only the mixer is replaced.
    obtain ⟨silent, kept⟩ := reaction.mixer.onParamChanged_of_other params config
    simp only [adoptMixer, silent]
    exact ⟨kept, Iff.rfl⟩

/-- The mixer's reaction to changes is told by whether one of them decides on it. -/
theorem reacts_mixerOnParamChanged (reaction : ParamReaction F E C (MatrixMixer F R))
    (params : Params F) (changes : List (ParamChanged F)) :
    Reacts (changes.any fun change => isMixerConfigParam change.id)
      (mixerParamInt params .PARAM_PRIMARY_MIXER) reaction.mixer
      (reaction.mixerOnParamChanged params changes).mixer reaction.state
      (reaction.mixerOnParamChanged params changes).state := by
  -- The changes are taken one after another.
  unfold mixerOnParamChanged
  induction changes generalizing reaction with
  | nil => exact ⟨rfl, Iff.rfl⟩
  | cons change rest ih =>
    rw [List.any_cons]
    exact (reacts_onParamChanged reaction params change.id).trans (ih _)

end ParamReaction

end Reactions

section Failsafe

variable [FlightFloat F]

namespace ParamReaction

/-- Configuring the failsafe keeps the mixer and the interlock on it. -/
theorem sameVerdict_updateFailsafe (reaction : ParamReaction F E C (MatrixMixer F R))
    (params : Params F) :
    SameVerdict reaction.mixer (reaction.updateFailsafe params).mixer reaction.state
      (reaction.updateFailsafe params).state :=
  ⟨rfl, (reaction.command.evolves_updateFailsafeConfig params reaction.state).mem_getErrors
    (by decide)⟩

/-- The command manager's reactions keep the mixer and the interlock on it. -/
theorem sameVerdict_commandOnParamChanged (reaction : ParamReaction F E C (MatrixMixer F R))
    (params : Params F) (changes : List (ParamChanged F)) :
    SameVerdict reaction.mixer (reaction.commandOnParamChanged params changes).mixer
      reaction.state (reaction.commandOnParamChanged params changes).state := by
  -- Each change configures the failsafe or does nothing.
  induction changes generalizing reaction with
  | nil => exact ⟨rfl, Iff.rfl⟩
  | cons change rest ih =>
    rw [commandOnParamChanged_cons]
    cases bearsOnFailsafe change.id with
    | true =>
      have configured := sameVerdict_updateFailsafe reaction params
      have later := ih (reaction.updateFailsafe params)
      exact ⟨later.verdict.trans configured.verdict,
        later.interlocked.trans configured.interlocked⟩
    | false => exact ih reaction

variable [FlightFloat R] [FloatCast F R] [Svd R] [Estimator F R S E]
  [Controller F R S (ControllerOutput R) C]

/-- All reactions judge the mixer when the news tells of it, and else keep its verdict. -/
theorem reacts_applyParamReactions (reaction : ParamReaction F E C (MatrixMixer F R))
    (params : Params F) (events : ParamEventQueues F) :
    Reacts events.announcesMixer (mixerParamInt params .PARAM_PRIMARY_MIXER) reaction.mixer
      (reaction.applyParamReactions params events).1.mixer reaction.state
      (reaction.applyParamReactions params events).1.state := by
  have handed (reacted : ParamReaction F E C (MatrixMixer F R)) (update : Bool) :
      (if update then reacted.updateGains params else reacted).mixer = reacted.mixer ∧
        (if update then reacted.updateGains params else reacted).state = reacted.state := by
    cases update <;> exact ⟨rfl, rfl⟩
  simp only [applyParamReactions, handed]
  cases full : events.fullRefresh with
  | true =>
    rw [if_pos rfl, ParamEventQueues.announcesMixer, full, Bool.true_or]
    -- The failsafe is configured after the mixer.
    have judged : Reacts true (mixerParamInt params .PARAM_PRIMARY_MIXER) reaction.mixer
        (reaction.mixerRefreshParams params).mixer reaction.state
        (reaction.mixerRefreshParams params).state :=
      judged_adoptMixer reaction params reaction.mixer
    have configured := sameVerdict_updateFailsafe
      { reaction.mixerRefreshParams params with
        rc := (reaction.mixerRefreshParams params).rc.init params } params
    exact judged.trans_same configured
  | false =>
    rw [if_neg Bool.false_ne_true, ParamEventQueues.announcesMixer, full, Bool.false_or]
    have mixed := reacts_mixerOnParamChanged reaction params events.changes.items
    have commanded := sameVerdict_commandOnParamChanged
      ((reaction.mixerOnParamChanged params events.changes.items).rcOnParamChanged params
        events.changes.items) params events.changes.items
    exact mixed.trans_same commanded

end ParamReaction

namespace World

variable [FlightFloat R] [FloatCast F R] [ReflectionFormat F] [Svd R] [Estimator F R S E]
  [Controller F R S (ControllerOutput R) C]

/-- A communication stage has the mixer judged by the choice it announces, and else keeps its
verdict. -/
theorem reacts_communication (world : World F R E C (MatrixMixer F R) D)
    (input : CommStageInput F) :
    Reacts (world.requested input).paramEvents.announcesMixer
      (mixerParamInt (world.requested input).params .PARAM_PRIMARY_MIXER) world.mixer
      (world.runCommunicationAndParameterServiceStage input).mixer world.state
      (world.runCommunicationAndParameterServiceStage input).state := by
  have flown := world.requested_flightPart input
  have mixer : (world.requested input).mixer = world.mixer := congrArg FlightPart.mixer flown
  have state : (world.requested input).state = world.state := congrArg FlightPart.state flown
  have reacted (before : World F R E C (MatrixMixer F R) D) :
      Reacts before.paramEvents.announcesMixer
        (mixerParamInt before.params .PARAM_PRIMARY_MIXER) before.mixer
        (before.applyParamReactions input.reactionUs).mixer before.state
        (before.applyParamReactions input.reactionUs).state :=
    ParamReaction.reacts_applyParamReactions before.reaction before.params before.paramEvents
  rw [← mixer, ← state]
  unfold runCommunicationAndParameterServiceStage
  -- Without any news there is nothing to announce.
  show Reacts _ _ _ (if _ then (world.requested input).applyParamReactions input.reactionUs
    else world.requested input).mixer _ (if _ then
      (world.requested input).applyParamReactions input.reactionUs else world.requested input).state
  split
  · exact reacted _
  · rename_i silent
    rw [Bool.or_eq_true, not_or, Bool.not_eq_true, Bool.not_eq_true, Bool.not_eq_false'] at silent
    have full : (world.requested input).paramEvents.fullRefresh = false := silent.1
    have none : (world.requested input).paramEvents.changes.items = [] :=
      List.isEmpty_iff.mp silent.2
    rw [ParamEventQueues.announcesMixer, full, none]
    exact ⟨rfl, Iff.rfl⟩

end World

end Failsafe

section Control

variable [FlightFloat F] [FlightFloat R] [FloatCast F R] [Svd R] [Estimator F R S E]
  [Controller F R S (ControllerOutput R) C] [PwmDriver R D]

/-- The verdict is kept, and the interlock follows it once the control pipeline has run. -/
structure Flies (ran : Bool) (mixer later : MatrixMixer F R) (state finish : StateManager) :
    Prop where
  verdict : later.status = mixer.status
  interlocked : .invalidMixer ∈ finish.getErrors ↔
    if ran then mixer.status = .invalidMixer else .invalidMixer ∈ state.getErrors

namespace ControlPipeline

omit [FlightFloat F] [Estimator F R S E] [Controller F R S (ControllerOutput R) C] in
/-- Writing the outputs keeps the mixer and the state. -/
theorem writeOutputs_configureRates (pipeline : ControlPipeline F E C (MatrixMixer F R) D)
    (input : ControlPipelineInput F R) (commands : List R) :
    (pipeline.configureRates.writeOutputs input commands).mixer = pipeline.mixer ∧
      (pipeline.configureRates.writeOutputs input commands).state = pipeline.state := by
  -- Only the driver and its mark are touched.
  have configured : pipeline.configureRates.mixer = pipeline.mixer ∧
      pipeline.configureRates.state = pipeline.state := by
    unfold configureRates
    split
    · exact ⟨rfl, rfl⟩
    · dsimp only
      split
      · exact ⟨rfl, rfl⟩
      · exact ⟨rfl, rfl⟩
  exact configured

/-- A whole control pass keeps the mixer, and the interlock follows its verdict. -/
theorem flies_runControl (pipeline : ControlPipeline F E C (MatrixMixer F R) D)
    (input : ControlPipelineInput F R) (dt : R) :
    Flies true pipeline.mixer (pipeline.runControl input dt).mixer pipeline.state
      (pipeline.runControl input dt).state := by
  have mixed (estimated : ControlPipeline F E C (MatrixMixer F R) D) (attitude : S) :
      Flies true estimated.mixer (estimated.controlAndMix input dt attitude).1.mixer
        estimated.state (estimated.controlAndMix input dt attitude).1.state := by
    -- The mixer repeats its verdict, and the error follows it.
    refine ⟨congrArg MatrixMixer.status (MatrixMixer.mix_verdict _ _ _).1, ?_⟩
    refine (StateManager.mem_getErrors_setErrorFlag_self _ .invalidMixer _ input.params).trans ?_
    rw [decide_eq_true_iff]
    exact iff_of_eq (congrArg (· = MixerStatus.invalidMixer) (MatrixMixer.mix_verdict _ _ _).2)
  have flown := mixed (pipeline.estimateAttitude input dt).1 (pipeline.estimateAttitude input dt).2
  obtain ⟨mixer, state⟩ := writeOutputs_configureRates
    ((pipeline.estimateAttitude input dt).1.controlAndMix input dt
      (pipeline.estimateAttitude input dt).2).1 input
    ((pipeline.estimateAttitude input dt).1.controlAndMix input dt
      (pipeline.estimateAttitude input dt).2).2
  unfold runControl
  dsimp only
  rw [mixer, state]
  exact ⟨flown.verdict, flown.interlocked⟩

/-- A control pass flies the mixer as far as it runs. -/
theorem flies_runControlPipelineIfNewImu (pipeline : ControlPipeline F E C (MatrixMixer F R) D)
    (input : ControlPipelineInput F R) :
    Flies (pipeline.runControlPipelineIfNewImu input).2 pipeline.mixer
      (pipeline.runControlPipelineIfNewImu input).1.mixer pipeline.state
      (pipeline.runControlPipelineIfNewImu input).1.state := by
  -- A sample that does not advance raises another error.
  unfold runControlPipelineIfNewImu
  split
  · exact ⟨rfl, Iff.rfl⟩
  · dsimp only
    split_ifs
    · exact ⟨rfl, Iff.rfl⟩
    · have raised := StateManager.evolves_setErrorFlag pipeline.state
        ErrorFlag.TIME_GOING_BACKWARDS true input.params
      exact ⟨rfl, raised.mem_getErrors (by decide)⟩
    · rename_i imuPacket _ _ _
      have flown := flies_runControl
        (pipeline.acceptSample input.params imuPacket.header.timestamp) input
        (sampleInterval imuPacket.header.timestamp pipeline.resource.lastImuTime)
      exact ⟨flown.verdict, flown.interlocked⟩

end ControlPipeline

/-- A control part of a stage flies the mixer as far as it runs. -/
theorem World.ControlsOnce.flies {world : World F R E C (MatrixMixer F R) D}
    {after : World F R E C (MatrixMixer F R) D × Bool} (controls : World.ControlsOnce world after) :
    Flies after.2 world.mixer after.1.mixer world.state after.1.state := by
  -- A control part that does not run leaves the mixer and the state alone.
  rcases controls.ran with ⟨state, mixer, idle⟩ | ⟨imu, state, mixer, ran⟩
  · rw [state, mixer, idle]
    exact ⟨rfl, Iff.rfl⟩
  · rw [state, mixer, ran]
    exact ControlPipeline.flies_runControlPipelineIfNewImu world.pipeline _

end Control

/-- A run with a note whether the mixer has been judged, and of the choice it last heard of. -/
structure MixerWatch (F R E C D : Type) where
  world : World F R E C (MatrixMixer F R) D
  judged : Bool
  heard : Int

section Watched

variable [FlightFloat F] [FlightFloat R] [FloatCast F R] [ReflectionFormat F] [Svd R]
  [Estimator F R S E] [Controller F R S (ControllerOutput R) C]

/-- The choice of mixer that a stage has the mixer hear of. -/
def World.tellsChoice (world : World F R E C (MatrixMixer F R) D) : Stage F R → Option Int
  | .communication input =>
    if (world.requested input).paramEvents.announcesMixer then
      some (mixerParamInt (world.requested input).params .PARAM_PRIMARY_MIXER)
    else none
  | _ => none

namespace World

variable [PwmDriver R D]

/-- A stage has the mixer judged by the choice it hears of, and else keeps its verdict. -/
def StageVerdict (world : World F R E C (MatrixMixer F R) D) (stage : Stage F R) : Prop :=
  match world.tellsChoice stage with
  | some choice => Judged choice (world.stage stage).mixer (world.stage stage).state
  | none => Flies (world.controlRan stage) world.mixer (world.stage stage).mixer world.state
      (world.stage stage).state

/-- A communication stage tells of a choice, or keeps the verdict. -/
theorem stageVerdict_communication (world : World F R E C (MatrixMixer F R) D)
    (input : CommStageInput F) : world.StageVerdict (.communication input) := by
  have reacts := world.reacts_communication input
  unfold StageVerdict
  simp only [tellsChoice]
  -- A batch that announces a choice has the mixer judged, and any other keeps the verdict.
  cases told : (world.requested input).paramEvents.announcesMixer with
  | true =>
    rw [told] at reacts
    exact reacts
  | false =>
    rw [told] at reacts
    exact ⟨reacts.verdict, reacts.interlocked⟩

/-- Every stage has the mixer judged, or keeps its verdict. -/
theorem stageVerdict (world : World F R E C (MatrixMixer F R) D) (stage : Stage F R) :
    world.StageVerdict stage := by
  -- A stage that tells of no choice keeps the verdict if it only flies the mixer.
  have silent (other : ∀ input, stage ≠ .communication input)
      (flies : Flies (world.controlRan stage) world.mixer (world.stage stage).mixer world.state
        (world.stage stage).state) : world.StageVerdict stage := by
    have untold : world.tellsChoice stage = none := by
      cases stage with
      | communication input => exact absurd rfl (other input)
      | _ => rfl
    rw [StageVerdict, untold]
    exact flies
  by_cases other : ∀ input, stage ≠ .communication input
  · refine silent other ?_
    rcases world.stageEffect stage with
      ⟨ready, nowUs, _, senses, _, rest⟩ | ⟨input, rfl⟩ | ⟨nowMs, freshRc, rfl⟩ | ⟨_, _, rest⟩
    · -- Until control runs neither the mixer nor the interlock is touched.
      obtain ⟨state, calFlags, settled⟩ :=
        (ready.noteSensorHealth nowUs).settleArmCalibration_eq
      have mixer : (ready.noteSensorHealth nowUs).settleArmCalibration.mixer = world.mixer := by
        rw [settled]
        exact senses.mixer
      have flagged : .invalidMixer ∈
            (ready.noteSensorHealth nowUs).settleArmCalibration.state.getErrors ↔
          .invalidMixer ∈ world.state.getErrors := by
        rw [mem_getErrors_settleArmCalibration (by decide),
          (ready.evolves_noteSensorHealth nowUs).mem_getErrors (by decide),
          senses.evolved.mem_getErrors (by decide)]
      have flown := rest.flies
      exact ⟨by rw [flown.verdict, mixer], by rw [flown.interlocked, mixer, flagged]⟩
    · exact absurd rfl (other input)
    · -- The pilot's events are about other errors.
      obtain ⟨state, _, _, mixer⟩ := world.runRcCommandStateStages_rest nowMs freshRc
      have flagged : .invalidMixer ∈
            (world.runRcCommandStateStages nowMs freshRc).state.getErrors ↔
          .invalidMixer ∈ world.state.getErrors := by
        rw [state]
        exact (world.evolves_runRcCommandState nowMs freshRc).mem_getErrors_pilot (by decide)
          (by decide)
      exact ⟨congrArg MatrixMixer.status mixer, flagged⟩
    · exact rest.flies
  · obtain ⟨input, same⟩ := not_forall_not.mp other
    rw [same]
    exact world.stageVerdict_communication input

/-- While the mixer's error is held no stage arms. -/
theorem disarmed_of_invalidMixer {world : World F R E C (MatrixMixer F R) D}
    (ignorable : world.state.machine.HoldsOnlyIgnorable)
    (flagged : .invalidMixer ∈ world.state.getErrors) (disarmed : world.state.isArmed = false)
    (stage : Stage F R) : (world.stage stage).state.isArmed = false := by
  rcases world.stageEffect stage with
    ⟨ready, nowUs, _, senses, _, rest⟩ | ⟨input, rfl⟩ | ⟨nowMs, freshRc, rfl⟩ | ⟨_, _, rest⟩
  · refine rest.evolved.disarmed ?_
    have noted := ready.evolves_noteSensorHealth nowUs
    have still : .invalidMixer ∈ (ready.noteSensorHealth nowUs).state.getErrors :=
      (noted.mem_getErrors (by decide)).mpr ((senses.evolved.mem_getErrors (by decide)).mpr flagged)
    have idle := noted.disarmed (senses.evolved.disarmed disarmed)
    have ready := noted.holdsOnlyIgnorable (senses.evolved.holdsOnlyIgnorable ignorable)
    -- A calibration cannot have been entered with the error held.
    rw [settleArmCalibration_state]
    unfold armCalibrationEvent
    split_ifs
    · exact StateManager.isArmed_update_of_blocked (by decide) still ready (by simp) idle
    · exact StateManager.isArmed_update_of_blocked (by decide) still ready (by simp) idle
    · exact idle
  · exact (world.evolves_communication input).disarmed disarmed
  · exact (world.evolves_runRcCommandState nowMs freshRc).disarmed_of_blocked (by decide)
      (by decide) (by decide) flagged ignorable disarmed
  · exact rest.evolved.disarmed disarmed

end World

/-- A stage arms only with a valid mixer that the parameters choose among the known ones. -/
def World.ArmsChosen [PwmDriver R D] (world : World F R E C (MatrixMixer F R) D)
    (stage : Stage F R) : Prop :=
  world.state.isArmed = false → (world.stage stage).state.isArmed = true →
    (world.stage stage).mixer.status ≠ .invalidMixer ∧
      0 ≤ mixerParamInt (world.stage stage).params .PARAM_PRIMARY_MIXER ∧
      mixerParamInt (world.stage stage).params .PARAM_PRIMARY_MIXER < NUM_MIXERS

namespace MixerWatch

variable [PwmDriver R D]

/-- Run a stage, and note whether it judges the mixer and what it has the mixer hear of. -/
def step (watch : MixerWatch F R E C D) (stage : Stage F R) : MixerWatch F R E C D :=
  { world := watch.world.stage stage
    judged := watch.judged || (watch.world.tellsChoice stage).isSome ||
      watch.world.controlRan stage
    heard := (watch.world.tellsChoice stage).getD watch.heard }

/-- Once the mixer has been judged, a stage arms only with a valid mixer and a known choice. -/
def ArmsFlyable (watch : MixerWatch F R E C D) (stage : Stage F R) : Prop :=
  watch.judged = true → watch.world.state.isArmed = false →
    (watch.world.stage stage).state.isArmed = true →
      (watch.world.stage stage).mixer.status ≠ .invalidMixer ∧
        (watch.step stage).heard < NUM_MIXERS

omit [FlightFloat F] [FlightFloat R] [FloatCast F R] [ReflectionFormat F] [Svd R]
  [Estimator F R S E] [Controller F R S (ControllerOutput R) C] [PwmDriver R D] in
/-- The verdict follows the choice, and once given the interlock follows the verdict. -/
structure Invariant (watch : MixerWatch F R E C D) : Prop where
  ignorable : watch.world.state.machine.HoldsOnlyIgnorable
  verdict : watch.world.mixer.status = .invalidMixer ↔ NUM_MIXERS ≤ watch.heard
  interlocked : watch.judged = true →
    (.invalidMixer ∈ watch.world.state.getErrors ↔ watch.world.mixer.status = .invalidMixer)

/-- Every stage keeps the invariant. -/
theorem invariant_step (watch : MixerWatch F R E C D) (stage : Stage F R)
    (held : watch.Invariant) : (watch.step stage).Invariant := by
  have ignorable := (watch.world.evolves_stage stage).holdsOnlyIgnorable held.ignorable
  have verdict := watch.world.stageVerdict stage
  unfold World.StageVerdict at verdict
  cases told : watch.world.tellsChoice stage with
  | some choice =>
    rw [told] at verdict
    refine ⟨ignorable, ?_, fun _ => verdict.interlocked⟩
    simp only [step, told, Option.getD_some]
    exact verdict.verdict
  | none =>
    rw [told] at verdict
    refine ⟨ignorable, ?_, fun judged => ?_⟩
    · simp only [step, told, Option.getD_none]
      rw [verdict.verdict, held.verdict]
    · -- The pipeline has run now, or the mixer was judged before.
      simp only [step, told, Option.isSome_none, Bool.or_false, Bool.or_eq_true] at judged ⊢
      rw [verdict.interlocked, verdict.verdict]
      split
      · exact Iff.rfl
      · rename_i idle
        exact held.interlocked (judged.resolve_right idle)

/-- While the invariant holds, a stage arms only flyable mixers. -/
theorem armsFlyable_of_invariant (watch : MixerWatch F R E C D) (stage : Stage F R)
    (held : watch.Invariant) : watch.ArmsFlyable stage := by
  intro judged disarmed armed
  -- A stage that tells of a choice raises or clears errors only.
  have untold : watch.world.tellsChoice stage = none := by
    cases stage with
    | communication input =>
      have still : (watch.world.stage (.communication input)).state.isArmed = false :=
        (watch.world.evolves_communication input).disarmed disarmed
      rw [still] at armed
      exact nomatch armed
    | _ => rfl
  have verdict := watch.world.stageVerdict stage
  rw [World.StageVerdict, untold] at verdict
  have valid : watch.world.mixer.status ≠ .invalidMixer := by
    intro invalid
    have flagged := (held.interlocked judged).mpr invalid
    have still := World.disarmed_of_invalidMixer held.ignorable flagged disarmed stage
    rw [still] at armed
    exact nomatch armed
  refine ⟨by rw [verdict.verdict]; exact valid, ?_⟩
  simp only [step, untold, Option.getD_none]
  exact not_le.mp fun beyond => valid (held.verdict.mpr beyond)

/-- A watch on a world that has just started with the mixer of its parameters. -/
def start (params : Params F) (estimator : E) (controller : C) (pwm : D) (nowUs : Nat)
    (backup : Option RosflightHardErrorMsg) : MixerWatch F R E C D :=
  { world := World.init params .new estimator controller (MatrixMixer.new params) pwm nowUs backup
    judged := false
    heard := mixerParamInt params .PARAM_PRIMARY_MIXER }

/-- The invariant holds from the start. -/
theorem invariant_start (params : Params F) (estimator : E) (controller : C) (pwm : D)
    (nowUs : Nat) (backup : Option RosflightHardErrorMsg) :
    (start params estimator controller pwm nowUs backup :
      MixerWatch F R E C D).Invariant where
  -- Initialised without errors, the machine holds none.
  ignorable :=
    (World.evolves_init params .new estimator controller (MatrixMixer.new params) pwm nowUs
      backup).holdsOnlyIgnorable (Finset.empty_subset _)
  verdict := MatrixMixer.refresh_status _ params
  interlocked := fun judged => nomatch judged

/-- In every interleaving of stages, a judged mixer is armed only while it is valid and the
choice it last heard of is known. -/
theorem armsFlyable_along (params : Params F) (estimator : E) (controller : C) (pwm : D)
    (nowUs : Nat) (backup : Option RosflightHardErrorMsg) (stages : List (Stage F R)) :
    Library.Along ArmsFlyable step
      (start params estimator controller pwm nowUs backup : MixerWatch F R E C D) stages :=
  Library.along_of_invariant Invariant invariant_step armsFlyable_of_invariant
    (invariant_start params estimator controller pwm nowUs backup) stages

end MixerWatch

end Watched

/-- Arming switched on before anything else is heard. -/
def unchosenRun : List (Stage ℚ ℚ) := [.rcCommand 1 (some (switchSample 1000 true))]

/-- A vehicle whose parameters choose no mixer is armed, with the outputs of the default one. -/
theorem unchosenRun_arms :
    ¬ Library.Along World.ArmsChosen World.stage (benchWorld switchParams 8) unchosenRun := by
  -- The whole run is evaluated.
  simp only [unchosenRun, Library.Along, World.ArmsChosen]
  decide +kernel

end Veloxity
