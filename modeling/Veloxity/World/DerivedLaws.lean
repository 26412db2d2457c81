import Veloxity.World.DerivedConfig
import Veloxity.World.Evolution

/-! Reactions to changes bring every derived value up to date that reacts to one of them. -/

namespace Veloxity

open Library (DerivedValue)

variable {F R S O E C M D : Type}

section Steps

/-- A changed parameter has the sticks mapped again, or keeps them. -/
theorem Rc.paramChangeCallback_sticks (rc : Rc F) (id : ParamId) (params : Params F) :
    (rc.paramChangeCallback id params).sticks =
      if mapsSticks id then Rc.stickConfig params else rc.sticks := by
  -- The parameters that map sticks are those the handler lists.
  cases id <;> rfl

/-- A changed parameter has the switches mapped again, or keeps them. -/
theorem Rc.paramChangeCallback_switches (rc : Rc F) (id : ParamId) (params : Params F) :
    (rc.paramChangeCallback id params).switches =
      if mapsSwitches id then Rc.switchConfig params else rc.switches := by
  -- The parameters that map switches are those the handler lists.
  cases id <;> rfl

/-- The parameter that sets the rate of a stream is the stream's own. -/
theorem rateParam_of_setsRateOf {stream : NamedTelemetryStream} {id : ParamId}
    (sets : setsRateOf stream id = true) : stream.rateParam = id := by
  have found : telemetryStreamForParam id = some stream := of_decide_eq_true sets
  unfold telemetryStreamForParam at found
  -- Both tables list the same pairs.
  split at found
  all_goals cases found <;> rfl

namespace TelemetrySender

/-- A changed parameter sets the rate of its own stream, and keeps the others. -/
theorem updateTelemetryParam_hz (sender : TelemetrySender) (params : Params F) (id : ParamId)
    (nowUs : Nat) (stream : NamedTelemetryStream) :
    (sender.updateTelemetryParam params id nowUs).1.telemetryRates.hz stream =
      if setsRateOf stream id then telemetryRateParam params stream.rateParam
      else sender.telemetryRates.hz stream := by
  have updated {set : NamedTelemetryStream} (found : telemetryStreamForParam id = some set) :
      (sender.updateTelemetryParam params id nowUs).1.telemetryRates.hz =
        Function.update sender.telemetryRates.hz set (telemetryRateParam params id) := by
    unfold updateTelemetryParam
    rw [found]
    cases set <;> rfl
  cases found : telemetryStreamForParam id with
  | none =>
    -- Any other parameter keeps all rates.
    simp only [updateTelemetryParam, setsRateOf, found, reduceCtorEq, decide_false,
      Bool.false_eq_true, if_false]
  | some set =>
    rw [updated found]
    by_cases same : stream = set
    · have sets : setsRateOf stream id = true := by
        rw [setsRateOf, found, same]
        exact decide_eq_true rfl
      rw [if_pos sets, rateParam_of_setsRateOf sets, same, Function.update_self]
    · have keeps : setsRateOf stream id = false := by
        rw [setsRateOf, found]
        exact decide_eq_false fun equal => same (Option.some.inj equal).symm
      rw [keeps, Function.update_of_ne same]
      rfl

/-- A changed rate of the raw outputs ends their sharing of samples, and any other keeps it. -/
theorem updateTelemetryParam_divisor (sender : TelemetrySender) (params : Params F) (id : ParamId)
    (nowUs : Nat) :
    (sender.updateTelemetryParam params id nowUs).1.telemetryRates.outputRawImuDivisor =
      if setsRateOf .outputRaw id then 0 else sender.telemetryRates.outputRawImuDivisor := by
  unfold updateTelemetryParam setsRateOf
  -- The raw outputs have a branch of their own.
  cases found : telemetryStreamForParam id with
  | none => rfl
  | some set => cases set <;> rfl

end TelemetrySender

namespace MatrixMixer

variable [FlightFloat R] [FloatCast F R] [Svd R]

/-- A refreshed mixer has the runtime parameters and the choice of the parameters. -/
theorem refresh_parts (mixer : MatrixMixer F R) (params : Params F) :
    (mixer.refresh params).params = mixerParams params ∧
      (mixer.refresh params).choice = mixerChoiceValue.recompute params mixer.choice := by
  refine ⟨rfl, ?_⟩
  have chosen : (mixer.refresh params).choice =
      ((mixer.refreshMixerConfig params).2, (mixer.refreshMixerConfig params).1.choice.2) := rfl
  -- The choice is not touched by reading the runtime parameters.
  rw [chosen, refreshMixerConfig_eq]
  dsimp only [mixerChoiceValue]
  cases mixerSelection (R := R) params <;> rfl

/-- A changed parameter has the runtime parameters read again, or keeps them. -/
theorem onParamChanged_params (mixer : MatrixMixer F R) (params : Params F) (id : ParamId) :
    (mixer.onParamChanged params id).1.params =
      if bearsOnMixer id then mixerParams params else mixer.params := by
  unfold onParamChanged bearsOnMixer
  -- A refresh reads the runtime parameters as well.
  cases isMixerConfigParam id <;> cases isMixerRuntimeParam id <;> rfl

/-- A changed parameter has the mixer chosen again, or keeps the choice. -/
theorem onParamChanged_choice (mixer : MatrixMixer F R) (params : Params F) (id : ParamId) :
    (mixer.onParamChanged params id).1.choice =
      if isMixerConfigParam id then mixerChoiceValue.recompute params mixer.choice
      else mixer.choice := by
  unfold onParamChanged
  -- Reading the runtime parameters first has no part in the choice.
  cases isMixerConfigParam id with
  | true =>
    simp only [if_true, (refresh_parts _ params).2]
    split <;> rfl
  | false =>
    simp only [Bool.false_eq_true, if_false]
    split <;> rfl

end MatrixMixer

end Steps

namespace ParamReaction

/-- Commands for the loss of the link, and whether their throttle is flagged as invalid. -/
def failsafe (reaction : ParamReaction F E C M) :
    (CombinedControl F × CombinedControl F) × Bool :=
  (reaction.command.failsafeCommands, decide (.invalidFailsafe ∈ reaction.state.getErrors))

/-- Adopting a mixer's verdict keeps all but the mixer, its interlock and the mark of the rates. -/
theorem adoptMixer_kept (reaction : ParamReaction F E C M) (params : Params F)
    (refreshed : M × Option MixerStatus) :
    (reaction.adoptMixer params refreshed).mixer = refreshed.1 ∧
      (reaction.adoptMixer params refreshed).rc = reaction.rc ∧
      (reaction.adoptMixer params refreshed).failsafe = reaction.failsafe ∧
      (reaction.adoptMixer params refreshed).controller = reaction.controller := by
  have other : ErrorKind.invalidFailsafe ∉ ErrorFlag.INVALID_MIXER := by decide
  -- The errors about the mixer are others than those about the failsafe.
  have flags := (reaction.evolves_adoptMixer params refreshed).mem_getErrors other
  have parts : (reaction.adoptMixer params refreshed).mixer = refreshed.1 ∧
      (reaction.adoptMixer params refreshed).rc = reaction.rc ∧
      (reaction.adoptMixer params refreshed).command = reaction.command ∧
      (reaction.adoptMixer params refreshed).controller = reaction.controller := by
    unfold adoptMixer
    cases refreshed.2 <;> exact ⟨rfl, rfl, rfl, rfl⟩
  obtain ⟨mixer, rc, command, controller⟩ := parts
  exact ⟨mixer, rc, Prod.ext (congrArg CommandManager.failsafeCommands command)
    (decide_eq_decide.mpr flags), controller⟩

/-- The mixer's reactions keep what does not belong to the mixer. -/
theorem mixerOnParamChanged_kept [Mixer F R O M] (reaction : ParamReaction F E C M)
    (params : Params F) (changes : List (ParamChanged F)) :
    (reaction.mixerOnParamChanged params changes).rc = reaction.rc ∧
      (reaction.mixerOnParamChanged params changes).failsafe = reaction.failsafe ∧
      (reaction.mixerOnParamChanged params changes).controller = reaction.controller := by
  -- The changes are taken one after another.
  unfold mixerOnParamChanged
  induction changes generalizing reaction with
  | nil => exact ⟨rfl, rfl, rfl⟩
  | cons change rest ih =>
    obtain ⟨rc, failsafe, controller⟩ := ih _
    obtain ⟨_, rcFirst, failsafeFirst, controllerFirst⟩ := adoptMixer_kept reaction params _
    exact ⟨rc.trans rcFirst, failsafe.trans failsafeFirst, controller.trans controllerFirst⟩

section Mixer

variable [FlightFloat R] [FloatCast F R] [Svd R]

/-- Reactions bring the mixer's parts up to date. -/
theorem mixerOnParamChanged_parts (reaction : ParamReaction F E C (MatrixMixer F R))
    (params : Params F) (changes : List (ParamChanged F)) :
    (reaction.mixerOnParamChanged params changes).mixer.params =
        mixerParamsValue.react params reaction.mixer.params (changes.map ParamChanged.id) ∧
      (reaction.mixerOnParamChanged params changes).mixer.choice =
        mixerChoiceValue.react params reaction.mixer.choice (changes.map ParamChanged.id) := by
  have folded : reaction.mixerOnParamChanged params changes =
      (changes.map ParamChanged.id).foldl (fun reaction id => reaction.adoptMixer params
        (reaction.mixer.onParamChanged params id)) reaction := by
    rw [List.foldl_map]
    rfl
  rw [folded]
  -- Each change is reacted to by itself.
  constructor
  · refine DerivedValue.react_of_step mixerParamsValue params
      (fun reaction : ParamReaction F E C (MatrixMixer F R) => reaction.mixer.params)
      (fun reaction id => ?_) reaction _
    rw [(adoptMixer_kept reaction params _).1]
    exact reaction.mixer.onParamChanged_params params id
  · refine DerivedValue.react_of_step mixerChoiceValue params
      (fun reaction : ParamReaction F E C (MatrixMixer F R) => reaction.mixer.choice)
      (fun reaction id => ?_) reaction _
    rw [(adoptMixer_kept reaction params _).1]
    exact reaction.mixer.onParamChanged_choice params id

end Mixer

/-- Reactions bring the mapped channels up to date. -/
theorem rcOnParamChanged_parts (reaction : ParamReaction F E C M) (params : Params F)
    (changes : List (ParamChanged F)) :
    (reaction.rcOnParamChanged params changes).rc.sticks =
        sticksValue.react params reaction.rc.sticks (changes.map ParamChanged.id) ∧
      (reaction.rcOnParamChanged params changes).rc.switches =
        switchesValue.react params reaction.rc.switches (changes.map ParamChanged.id) := by
  have folded : (reaction.rcOnParamChanged params changes).rc =
      (changes.map ParamChanged.id).foldl (fun rc id => rc.paramChangeCallback id params)
        reaction.rc := by
    rw [List.foldl_map]
    rfl
  rw [folded]
  -- Each change is reacted to by itself.
  exact ⟨sticksValue.react_of_step params Rc.sticks
      (fun rc id => rc.paramChangeCallback_sticks id params) reaction.rc _,
    switchesValue.react_of_step params Rc.switches
      (fun rc id => rc.paramChangeCallback_switches id params) reaction.rc _⟩

section Failsafe

variable [FlightFloat F]

/-- Configuring the failsafe flags an invalid throttle, and only such a one. -/
theorem flagged_updateFailsafeConfig (manager : CommandManager F) (params : Params F)
    (state : StateManager) :
    decide (.invalidFailsafe ∈ (manager.updateFailsafeConfig params state).2.getErrors) =
      CommandManager.failsafeThrottleInvalid params := by
  unfold CommandManager.updateFailsafeConfig
  -- The flag is raised or cleared by the throttle.
  cases CommandManager.failsafeThrottleInvalid params with
  | true => simp [StateManager.getErrors_raise, ErrorFlag.INVALID_FAILSAFE]
  | false => simp [StateManager.getErrors_clear, ErrorFlag.INVALID_FAILSAFE]

/-- Configuring the failsafe recomputes its commands and its flag. -/
theorem failsafe_updateFailsafe (reaction : ParamReaction F E C M) (params : Params F) :
    (reaction.updateFailsafe params).failsafe =
      failsafeValue.recompute params reaction.failsafe := by
  -- The commands are computed and the flag follows the throttle.
  exact Prod.ext rfl (flagged_updateFailsafeConfig reaction.command params reaction.state)

/-- Reactions bring the failsafe up to date. -/
theorem failsafe_commandOnParamChanged (reaction : ParamReaction F E C M) (params : Params F)
    (changes : List (ParamChanged F)) :
    (reaction.commandOnParamChanged params changes).failsafe =
      failsafeValue.react params reaction.failsafe (changes.map ParamChanged.id) := by
  induction changes generalizing reaction with
  | nil => rfl
  | cons change rest ih =>
    rw [commandOnParamChanged_cons, ih, List.map_cons, DerivedValue.react, DerivedValue.react,
      List.foldl_cons]
    -- One change configures the failsafe or leaves it.
    congr 1
    show _ = if bearsOnFailsafe change.id then _ else _
    cases bearsOnFailsafe change.id with
    | true => exact failsafe_updateFailsafe reaction params
    | false => rfl

/-- Reactions of the command manager keep all but its commands and the interlock on them. -/
theorem commandOnParamChanged_kept (reaction : ParamReaction F E C M) (params : Params F)
    (changes : List (ParamChanged F)) :
    (reaction.commandOnParamChanged params changes).rc = reaction.rc ∧
      (reaction.commandOnParamChanged params changes).mixer = reaction.mixer ∧
      (reaction.commandOnParamChanged params changes).controller = reaction.controller := by
  induction changes generalizing reaction with
  | nil => exact ⟨rfl, rfl, rfl⟩
  | cons change rest ih =>
    rw [commandOnParamChanged_cons]
    -- One change configures the failsafe or leaves it.
    cases bearsOnFailsafe change.id with
    | true => exact ih (reaction.updateFailsafe params)
    | false => exact ih reaction

/-- Reactions to the queued changes bring the failsafe up to date. -/
theorem failsafe_applyParamReactions [Estimator F R S E] [Controller F R S O C] [Mixer F R O M]
    (reaction : ParamReaction F E C M) (params : Params F) {events : ParamEventQueues F}
    (pending : events.fullRefresh = false) :
    (reaction.applyParamReactions params events).1.failsafe =
      failsafeValue.react params reaction.failsafe events.announced := by
  let mixed := reaction.mixerOnParamChanged params events.changes.items
  let commanded :=
    (mixed.rcOnParamChanged params events.changes.items).commandOnParamChanged params
      events.changes.items
  -- Neither the receiver nor the gains have a part in the failsafe.
  have applied : (reaction.applyParamReactions params events).1.failsafe = commanded.failsafe := by
    simp only [applyParamReactions, pending, Bool.false_eq_true, if_false, Bool.false_or]
    cases events.changes.isEmpty <;> rfl
  rw [applied, failsafe_commandOnParamChanged]
  exact congrArg (fun value => failsafeValue.react params value events.announced)
    (reaction.mixerOnParamChanged_kept params events.changes.items).2.1

variable [FlightFloat R] [FloatCast F R] [Svd R]

variable [AttitudeFloat R] [Estimator F R (AttitudeState R) E]

omit [AttitudeFloat R] [Estimator F R (AttitudeState R) E] in
/-- The parts of a reaction that follow the parameters have done so in one way. -/
structure Follows (reaction after : ParamReaction F E (QuadController F R) (MatrixMixer F R))
    (rule : FollowRule F) : Prop where
  sticks : after.rc.sticks = rule _ sticksValue reaction.rc.sticks
  switches : after.rc.switches = rule _ switchesValue reaction.rc.switches
  failsafe : after.failsafe = rule _ failsafeValue reaction.failsafe
  mixerParams : after.mixer.params = rule _ mixerParamsValue reaction.mixer.params
  mixerChoice : after.mixer.choice = rule _ mixerChoiceValue reaction.mixer.choice
  gains : after.controller.gains = rule _ gainsValue reaction.controller.gains

/-- Reactions to the queued changes bring every part up to date. -/
theorem follows_applyParamReactions
    (reaction : ParamReaction F E (QuadController F R) (MatrixMixer F R)) (params : Params F)
    {events : ParamEventQueues F} (pending : events.fullRefresh = false) :
    Follows reaction (reaction.applyParamReactions params events).1
      fun _ derived value => derived.react params value events.announced := by
  let mixed := reaction.mixerOnParamChanged params events.changes.items
  let mapped := mixed.rcOnParamChanged params events.changes.items
  let commanded := mapped.commandOnParamChanged params events.changes.items
  -- The reactions run one after another, and reading the gains again comes last.
  have applied : (reaction.applyParamReactions params events).1 =
      if !events.changes.isEmpty then commanded.updateGains params else commanded := by
    simp only [applyParamReactions, pending, Bool.false_eq_true, if_false, Bool.false_or]
    rfl
  obtain ⟨mixedRc, _, mixedController⟩ :=
    reaction.mixerOnParamChanged_kept params events.changes.items
  obtain ⟨commandedRc, commandedMixer, commandedController⟩ :=
    mapped.commandOnParamChanged_kept params events.changes.items
  obtain ⟨sticks, switches⟩ := mixed.rcOnParamChanged_parts params events.changes.items
  obtain ⟨mixerParams, mixerChoice⟩ :=
    reaction.mixerOnParamChanged_parts params events.changes.items
  have failsafe := reaction.failsafe_applyParamReactions params pending
  have gained : (if !events.changes.isEmpty then commanded.updateGains params
      else commanded).controller.gains =
        gainsValue.react params reaction.controller.gains events.announced := by
    rw [DerivedValue.react_eq, ParamEventQueues.announced, List.any_map]
    -- Any change at all has the gains read again.
    cases waiting : events.changes.items with
    | nil =>
      have empty : events.changes.isEmpty = true := by
        rw [Library.BoundedQueue.isEmpty, waiting]
        rfl
      rw [empty]
      exact congrArg QuadController.gains (commandedController.trans mixedController)
    | cons change rest =>
      have filled : events.changes.isEmpty = false := by
        rw [Library.BoundedQueue.isEmpty, waiting]
        rfl
      rw [filled]
      rfl
  -- Reading the gains again touches neither the radio control nor the mixer.
  have kept (update : Bool) :
      (if update then commanded.updateGains params else commanded).rc = commanded.rc ∧
        (if update then commanded.updateGains params else commanded).mixer = commanded.mixer := by
    cases update <;> exact ⟨rfl, rfl⟩
  obtain ⟨keptRc, keptMixer⟩ := kept (!events.changes.isEmpty)
  rw [applied] at failsafe ⊢
  refine ⟨?_, ?_, failsafe, ?_, ?_, gained⟩
  · rw [keptRc, commandedRc, sticks, mixedRc]
    rfl
  · rw [keptRc, commandedRc, switches, mixedRc]
    rfl
  · rw [keptMixer, commandedMixer]
    exact mixerParams
  · rw [keptMixer, commandedMixer]
    exact mixerChoice

/-- A full refresh computes every part anew. -/
theorem follows_applyParamReactions_full
    (reaction : ParamReaction F E (QuadController F R) (MatrixMixer F R)) (params : Params F)
    {events : ParamEventQueues F} (full : events.fullRefresh = true) :
    Follows reaction (reaction.applyParamReactions params events).1
      fun _ derived value => derived.recompute params value := by
  let mixed := reaction.mixerRefreshParams params
  let configured := { mixed with rc := mixed.rc.init params }.updateFailsafe params
  have applied :
      (reaction.applyParamReactions params events).1 = configured.updateGains params := by
    simp only [applyParamReactions, full, if_true, Bool.true_or]
    rfl
  obtain ⟨mixer, _, failsafe, _⟩ :=
    reaction.adoptMixer_kept params (reaction.mixer.refreshParams params)
  obtain ⟨mixerParams, mixerChoice⟩ := reaction.mixer.refresh_parts params
  rw [applied]
  refine ⟨rfl, rfl, ?_, ?_, ?_, rfl⟩
  · -- The failsafe is configured after the mixer.
    have configuredFailsafe : configured.failsafe =
        failsafeValue.recompute params mixed.failsafe :=
      failsafe_updateFailsafe { mixed with rc := mixed.rc.init params } params
    exact configuredFailsafe.trans (congrArg (failsafeValue.recompute params) failsafe)
  · exact (congrArg MatrixMixer.params mixer).trans mixerParams
  · exact (congrArg MatrixMixer.choice mixer).trans mixerChoice

end Failsafe

end ParamReaction

namespace BoardedWorld

variable [FlightFloat F] [FlightFloat R] [FloatCast F R] [AttitudeFloat R] [Svd R]
  [Estimator F R (AttitudeState R) E]

/-- Reactions leave the world as the firmware's own reactions leave it, with other rates. -/
theorem derived_applyParamReactions_eq (boarded : BoardedWorld F R E D) (nowUs : Nat) :
    ∃ after, (boarded.world.reaction.applyParamReactions boarded.world.params
        boarded.world.paramEvents).1 = after ∧
      (boarded.applyParamReactions nowUs).derived =
        { sticks := after.rc.sticks
          switches := after.rc.switches
          failsafe := after.failsafe
          mixerParams := after.mixer.params
          mixerChoice := after.mixer.choice
          telemetryHz :=
            (boarded.world.updateTelemetryRates nowUs).comm.telemetry.telemetryRates.hz
          outputRawImuDivisor :=
            (boarded.world.updateTelemetryRates
              nowUs).comm.telemetry.telemetryRates.outputRawImuDivisor
          batteryMonitor := boarded.configureBatteryMonitor.batteryMonitor
          gains := after.controller.gains } := by
  -- Configuring the battery monitor leaves the world alone.
  have same : boarded.configureBatteryMonitor.world = boarded.world := by
    unfold configureBatteryMonitor
    dsimp only
    split <;> rfl
  refine ⟨_, rfl, ?_⟩
  unfold applyParamReactions
  dsimp only
  rw [same]
  rfl

omit [FlightFloat R] [FloatCast F R] [AttitudeFloat R] [Svd R] [Estimator F R (AttitudeState R) E]
  [FlightFloat F] in
/-- Reactions bring every rate up to date. -/
theorem updateTelemetryRates_parts (boarded : BoardedWorld F R E D) (nowUs : Nat)
    (pending : boarded.world.paramEvents.fullRefresh = false) :
    let rates := (boarded.world.updateTelemetryRates nowUs).comm.telemetry.telemetryRates
    (∀ stream, rates.hz stream = (rateValue stream).react boarded.world.params
        (boarded.world.comm.telemetry.telemetryRates.hz stream)
        boarded.world.paramEvents.announced) ∧
      rates.outputRawImuDivisor = divisorValue.react boarded.world.params
        boarded.world.comm.telemetry.telemetryRates.outputRawImuDivisor
        boarded.world.paramEvents.announced := by
  have folded : (boarded.world.updateTelemetryRates nowUs).comm.telemetry =
      boarded.world.paramEvents.announced.foldl
        (fun telemetry id => (telemetry.updateTelemetryParam boarded.world.params id nowUs).1)
        boarded.world.comm.telemetry := by
    unfold World.updateTelemetryRates
    rw [pending, ParamEventQueues.announced, List.foldl_map]
    rfl
  dsimp only
  rw [folded]
  -- Each change is reacted to by itself.
  refine ⟨fun stream => ?_, ?_⟩
  · exact (rateValue stream).react_of_step boarded.world.params
      (fun telemetry : TelemetrySender => telemetry.telemetryRates.hz stream)
      (fun telemetry id => telemetry.updateTelemetryParam_hz boarded.world.params id nowUs stream)
      boarded.world.comm.telemetry _
  · exact divisorValue.react_of_step boarded.world.params
      (fun telemetry : TelemetrySender => telemetry.telemetryRates.outputRawImuDivisor)
      (fun telemetry id => telemetry.updateTelemetryParam_divisor boarded.world.params id nowUs)
      boarded.world.comm.telemetry _

omit [FlightFloat R] [FloatCast F R] [AttitudeFloat R] [Svd R]
  [Estimator F R (AttitudeState R) E] in
/-- The battery monitor is given its multipliers when one has changed or all have. -/
theorem configureBatteryMonitor_eq (boarded : BoardedWorld F R E D) :
    boarded.configureBatteryMonitor.batteryMonitor =
      if boarded.world.paramEvents.fullRefresh then
        batteryValue.recompute boarded.world.params boarded.batteryMonitor
      else batteryValue.react boarded.world.params boarded.batteryMonitor
        boarded.world.paramEvents.announced := by
  rw [DerivedValue.react_eq, ParamEventQueues.announced, List.any_map]
  have reacts : (boarded.world.paramEvents.changes.items.any fun change =>
      bearsOnBattery change.id) = boarded.world.paramEvents.changes.items.any
        ((batteryValue (F := F)).reacts ∘ ParamChanged.id) := rfl
  unfold configureBatteryMonitor
  dsimp only
  rw [reacts]
  -- The news are all changes, or those that wait.
  cases boarded.world.paramEvents.fullRefresh with
  | true => rfl
  | false =>
    simp only [Bool.false_or, Bool.false_eq_true, if_false]
    split <;> rfl

/-- Reactions to the queued changes bring every derived value up to date that reacts to one. -/
theorem derived_applyParamReactions (boarded : BoardedWorld F R E D) (nowUs : Nat)
    (pending : boarded.world.paramEvents.fullRefresh = false) :
    (boarded.applyParamReactions nowUs).derived =
      boarded.derived.react boarded.world.params boarded.world.paramEvents.announced := by
  obtain ⟨after, reacted, derived⟩ := boarded.derived_applyParamReactions_eq nowUs
  have follows := boarded.world.reaction.follows_applyParamReactions boarded.world.params pending
  obtain ⟨rates, divisor⟩ := boarded.updateTelemetryRates_parts nowUs pending
  have battery := boarded.configureBatteryMonitor_eq
  rw [pending] at battery
  rw [reacted] at follows
  -- The parts are followed one by one.
  rw [derived]
  exact DerivedConfig.ext follows.sticks follows.switches follows.failsafe follows.mixerParams
    follows.mixerChoice (funext rates) divisor battery follows.gains

/-- A full refresh computes every derived value anew. -/
theorem derived_applyParamReactions_full (boarded : BoardedWorld F R E D) (nowUs : Nat)
    (full : boarded.world.paramEvents.fullRefresh = true) :
    (boarded.applyParamReactions nowUs).derived =
      boarded.derived.refresh boarded.world.params := by
  obtain ⟨after, reacted, derived⟩ := boarded.derived_applyParamReactions_eq nowUs
  have follows := boarded.world.reaction.follows_applyParamReactions_full boarded.world.params full
  have rates : (boarded.world.updateTelemetryRates nowUs).comm.telemetry.telemetryRates =
      .fromParams boarded.world.params := by
    unfold World.updateTelemetryRates
    rw [full]
    rfl
  have battery := boarded.configureBatteryMonitor_eq
  rw [full] at battery
  rw [reacted] at follows
  -- The parts are computed one by one.
  rw [derived, rates]
  exact DerivedConfig.ext follows.sticks follows.switches follows.failsafe follows.mixerParams
    follows.mixerChoice rfl rfl battery follows.gains

/-- The firmware after a full refresh has every derived value computed anew. -/
theorem derived_refreshed (boarded : BoardedWorld F R E D) (nowUs : Nat) :
    (boarded.refreshed nowUs).derived = boarded.derived.refresh boarded.world.params :=
  boarded.markAllParamsChanged.derived_applyParamReactions_full nowUs rfl

end BoardedWorld

end Veloxity
