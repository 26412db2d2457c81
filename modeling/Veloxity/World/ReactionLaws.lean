import Veloxity.Pwm.AcceptingDriver
import Veloxity.World.DerivedLaws

/-! Which batches of parameter changes leave the derived configuration as a full refresh would. -/

namespace Veloxity

open Library (DerivedValue)

variable {F R E D : Type}

/-- The parts of the derived configuration that changes can leave behind. -/
inductive DerivedPiece where
  | sticks | switches | failsafe | mixerParams | mixerChoice | battery
  | telemetry (stream : NamedTelemetryStream)
  deriving DecidableEq, Repr

namespace DerivedPiece

/-- A change of this parameter has the part brought up to date. -/
def reactsTo : DerivedPiece → ParamId → Bool
  | .sticks => mapsSticks
  | .switches => mapsSwitches
  | .failsafe => bearsOnFailsafe
  | .mixerParams => bearsOnMixer
  | .mixerChoice => isMixerConfigParam
  | .battery => bearsOnBattery
  | .telemetry stream => setsRateOf stream

/-- The part is computed from this parameter. -/
def reads : DerivedPiece → ParamId → Bool
  | .switches, id => mapsSwitches id || id = .PARAM_RC_NUM_CHANNELS
  | .failsafe, id => bearsOnFailsafe id || id = .PARAM_RC_F_AXIS
  | .mixerParams, id => isMixerRuntimeParam id || id = .PARAM_PRIMARY_MIXER
  | piece, id => piece.reactsTo id

/-- The runtime parameters of the mixer react to all that they are computed from. -/
theorem mixerParams_reactsTo {id : ParamId} (read : mixerParams.reads id = true) :
    mixerParams.reactsTo id = true := by
  simp only [reads, Bool.or_eq_true, decide_eq_true_eq] at read
  rcases read with runtime | rfl
  · simp [reactsTo, bearsOnMixer, runtime]
  · rfl

/-- The part reacts to all that it is computed from, but for the throttle's axis and the number of
channels. -/
theorem reactsTo_of_reads {piece : DerivedPiece} {id : ParamId} (read : piece.reads id = true)
    (axis : id ≠ .PARAM_RC_F_AXIS) (channels : id ≠ .PARAM_RC_NUM_CHANNELS) :
    piece.reactsTo id = true := by
  -- Three parts are computed from more than they react to, or react to more.
  cases piece with
  | switches => simpa [reads, reactsTo, channels] using read
  | failsafe => simpa [reads, reactsTo, axis] using read
  | mixerParams => exact mixerParams_reactsTo read
  | _ => exact read

section Same

variable [FlightFloat F] [FlightFloat R] [FloatCast F R] [Svd R]

variable (R) in
/-- Other parameters configure the part alike. -/
def SameUnder (piece : DerivedPiece) (params other : Params F) : Prop :=
  match piece with
  | .sticks => Rc.stickConfig other = Rc.stickConfig params
  | .switches => Rc.switchConfig other = Rc.switchConfig params
  | .failsafe =>
    CommandManager.configuredCommands other = CommandManager.configuredCommands params ∧
      CommandManager.failsafeThrottleInvalid other = CommandManager.failsafeThrottleInvalid params
  | .mixerParams => (Veloxity.mixerParams other : MixerParams R) =
    Veloxity.mixerParams params
  | .mixerChoice => (mixerSelection other : Option (MixerSelection R)) = mixerSelection params
  | .battery => batteryMultipliers other = batteryMultipliers params
  | .telemetry stream =>
    telemetryRateParam other stream.rateParam = telemetryRateParam params stream.rateParam

/-- Parameters configure every part as they do. -/
theorem SameUnder.refl (piece : DerivedPiece) (params : Params F) :
    piece.SameUnder R params params := by
  cases piece with
  | failsafe => exact ⟨rfl, rfl⟩
  | _ => exact rfl

/-- Configuring alike can be followed through one change after another. -/
theorem SameUnder.trans {piece : DerivedPiece} {params middle other : Params F}
    (first : piece.SameUnder R params middle) (second : piece.SameUnder R middle other) :
    piece.SameUnder R params other := by
  -- Every part is compared by equalities.
  cases piece with
  | failsafe => exact ⟨second.1.trans first.1, second.2.trans first.2⟩
  | _ => exact Eq.trans second first

/-- Parameters that agree on all that a part is computed from configure it alike. -/
theorem sameUnder_of_reads {piece : DerivedPiece} {params other : Params F}
    (chosen : piece ≠ .mixerChoice)
    (same : ∀ id, piece.reads id = true → other.getById id = params.getById id) :
    piece.SameUnder R params other := by
  have int (id : ParamId) (fallback : Int) (read : piece.reads id = true) :
      other.intOr id fallback = params.intOr id fallback := by
    simp only [Params.intOr, same id read]
  have float (id : ParamId) (fallback : F) (read : piece.reads id = true) :
      other.floatOr id fallback = params.floatOr id fallback := by
    simp only [Params.floatOr, same id read]
  -- Each part is computed from values of its own parameters.
  cases piece with
  | sticks =>
    funext stick
    cases stick <;> simp (disch := decide) only [Rc.stickConfig, int]
  | switches =>
    funext switch
    have channel := int (Rc.switchChannelParam switch) 255 (by cases switch <;> rfl)
    have channels := int .PARAM_RC_NUM_CHANNELS 6 (by decide)
    have direction (channel : Int) :
        Rc.switchDirection other channel = Rc.switchDirection params channel := by
      simp (disch := decide) only [Rc.switchDirection, int]
    simp only [Rc.switchConfig]
    rw [channel, channels, direction]
  | failsafe =>
    -- The throttle is judged by the same parameters it is taken from.
    have invalid : CommandManager.failsafeThrottleInvalid other =
        CommandManager.failsafeThrottleInvalid params := by
      simp (disch := decide) only [CommandManager.failsafeThrottleInvalid, Params.isNonzeroInt,
        float, same]
    refine ⟨?_, invalid⟩
    simp (disch := decide) only [CommandManager.configuredCommands,
      CommandManager.configuredThrottle, CommandManager.withFailsafeThrottle, invalid, float, same]
  | mixerParams =>
    have mixerInt (id : ParamId) (read : DerivedPiece.mixerParams.reads id = true) :
        mixerParamInt other id = mixerParamInt params id := int id 0 read
    have idle : mixerParamFloat (R := R) other .PARAM_MOTOR_IDLE_THROTTLE =
        mixerParamFloat params .PARAM_MOTOR_IDLE_THROTTLE := by
      simp only [mixerParamFloat, same .PARAM_MOTOR_IDLE_THROTTLE (by decide)]
    simp only [SameUnder, Veloxity.mixerParams]
    rw [mixerInt .PARAM_PRIMARY_MIXER (by decide), mixerInt .PARAM_FIXED_WING (by decide),
      mixerInt .PARAM_NUM_MOTORS (by decide), mixerInt .PARAM_USE_MOTOR_PARAMETERS (by decide),
      mixerInt .PARAM_RC_F_AXIS (by decide), idle]
  | mixerChoice => exact absurd rfl chosen
  | battery => simp (disch := decide) only [SameUnder, batteryMultipliers, float]
  | telemetry stream =>
    have own : (DerivedPiece.telemetry stream).reads stream.rateParam = true := by
      cases stream <;> rfl
    simp only [SameUnder, telemetryRateParam, same _ own]

/-- Reflecting a choice of a mixer configures every part alike. -/
theorem sameUnder_syncReflectedMixerParams [ReflectionFormat F] (piece : DerivedPiece)
    (params : Params F) (changed : ParamId) :
    piece.SameUnder R params (syncReflectedMixerParams params changed) := by
  by_cases chosen : piece = .mixerChoice
  · subst chosen
    exact mixerSelection_syncReflectedMixerParams params changed
  · -- No other part is computed from parameters that reflect a mixer.
    have plain (id : ParamId) (read : piece.reads id = true) :
        reflectsPrimary id = false ∧ reflectsSecondary id = false := by
      cases piece with
      | mixerChoice => exact absurd rfl chosen
      | telemetry stream =>
        have own : stream.rateParam = id := rateParam_of_setsRateOf read
        rw [← own]
        cases stream <;> exact ⟨rfl, rfl⟩
      | _ => cases id <;> first | exact ⟨rfl, rfl⟩ | exact nomatch read
    exact sameUnder_of_reads chosen fun id read =>
      syncReflectedMixerParams_getById params changed (plain id read).1 (plain id read).2

/-- Setting a parameter that a part is not computed from configures it alike. -/
theorem sameUnder_setById {piece : DerivedPiece} (params : Params F) {id : ParamId}
    (value : ParamValue F) (unread : piece.reads id = false) :
    piece.SameUnder R params (params.setById id value) := by
  by_cases chosen : piece = .mixerChoice
  · subst chosen
    exact mixerSelection_setById params value unread
  · refine sameUnder_of_reads chosen fun read known => params.getById_setById_of_ne value ?_
    -- What is set is not what the part is computed from.
    rintro rfl
    rw [known] at unread
    cases unread

/-- A request configures a part alike when it changes nothing the part is computed from. -/
theorem sameUnder_commit [ReflectionFormat F] {piece : DerivedPiece} {params : Params F}
    {request : ParamSetRequested F}
    (unread : ∀ id, request.changed params = some id → piece.reads id = false) :
    piece.SameUnder R params (request.commit params) := by
  -- Reflecting the choice of a mixer configures every part alike.
  rcases request.commit_cases params with ⟨id, changed, committed⟩ | ⟨_, same | ⟨id, committed⟩⟩
  · rw [committed]
    exact (sameUnder_setById params request.value (unread id changed)).trans
      (sameUnder_syncReflectedMixerParams piece _ id)
  · rw [same]
    exact .refl piece params
  · rw [committed]
    exact sameUnder_syncReflectedMixerParams piece params id

/-- Requests configure a part alike when they change nothing the part is computed from. -/
theorem sameUnder_requestedParams [ReflectionFormat F] {piece : DerivedPiece} (params : Params F)
    {requests : List (ParamSetRequested F)}
    (unread : ∀ id ∈ changedIds params requests, piece.reads id = false) :
    piece.SameUnder R params (requestedParams params requests) := by
  induction requests generalizing params with
  | nil => exact .refl piece params
  | cons request rest ih =>
    -- The first request is followed by the rest.
    refine SameUnder.trans (sameUnder_commit fun id changed => unread id ?_)
      (ih (request.commit params) fun id member => unread id ?_)
    · exact List.mem_append_left _ (by rw [changed]; exact List.mem_singleton_self id)
    · exact List.mem_append_right _ member

end Same

end DerivedPiece

section Gains

variable [FlightFloat F] [FlightFloat R] [FloatCast F R]

/-- Parameters that differ only where they reflect a mixer give the controller the same gains. -/
theorem ControllerGains.fromParams_congr {params other : Params F}
    (same : ∀ id, reflectsPrimary id = false → reflectsSecondary id = false →
      other.getById id = params.getById id) :
    (.fromParams other : ControllerGains R) = .fromParams params := by
  -- Every gain has a parameter of its own.
  simp (disch := decide) only [ControllerGains.fromParams, PidGains.fromParams,
    MotorThrustModel.fromParams, controllerParamFloat, Params.floatOr, Params.intOr, same]

/-- Requests that change nothing leave the gains as they are. -/
theorem gains_requestedParams [ReflectionFormat F] (params : Params F)
    {requests : List (ParamSetRequested F)} (idle : changedIds params requests = []) :
    (.fromParams (requestedParams params requests) : ControllerGains R) = .fromParams params := by
  refine ControllerGains.fromParams_congr fun id primary secondary => ?_
  induction requests generalizing params with
  | nil => rfl
  | cons request rest ih =>
    obtain ⟨first, later⟩ := List.append_eq_nil_iff.mp idle
    refine (ih (request.commit params) later).trans ?_
    -- A request that changes nothing can still reflect a choice again.
    rcases request.commit_cases params with ⟨set, changed, _⟩ | ⟨_, same | ⟨set, committed⟩⟩
    · rw [changed] at first
      exact nomatch first
    · rw [same]
    · rw [committed]
      exact syncReflectedMixerParams_getById params set primary secondary

end Gains

section Failsafe

variable [FlightFloat F]

/-- Throttles put on one command by two sets of parameters compare as on any other. -/
theorem withFailsafeThrottle_eq_iff (command other : CombinedControl F) (params later : Params F)
    (throttle after : F) :
    CommandManager.withFailsafeThrottle command params throttle =
        CommandManager.withFailsafeThrottle command later after ↔
      CommandManager.withFailsafeThrottle other params throttle =
        CommandManager.withFailsafeThrottle other later after := by
  let forces (command : CombinedControl F) : F × F × F :=
    (command.fx.value, command.fy.value, command.fz.value)
  let withForces (command : CombinedControl F) (forces : F × F × F) : CombinedControl F :=
    { command with
      fx := { command.fx with value := forces.1 }
      fy := { command.fy with value := forces.2.1 }
      fz := { command.fz with value := forces.2.2 } }
  have placed (params : Params F) (throttle : F) : ∃ values, ∀ command,
      CommandManager.withFailsafeThrottle command params throttle = withForces command values := by
    unfold CommandManager.withFailsafeThrottle
    dsimp only
    split
    · exact ⟨(throttle, FlightFloat.zero, FlightFloat.zero), fun _ => rfl⟩
    · exact ⟨(FlightFloat.zero, throttle, FlightFloat.zero), fun _ => rfl⟩
    · exact ⟨(FlightFloat.zero, FlightFloat.zero, throttle), fun _ => rfl⟩
  obtain ⟨first, placedFirst⟩ := placed params throttle
  obtain ⟨second, placedSecond⟩ := placed later after
  have compared (command : CombinedControl F) :
      withForces command first = withForces command second ↔ first = second :=
    ⟨congrArg forces, congrArg (withForces command)⟩
  -- Only the forces depend on the parameters.
  rw [placedFirst, placedFirst, placedSecond, placedSecond, compared, compared]

/-- Two sets of parameters give one failsafe the same values exactly when they configure it
alike. -/
theorem failsafeValue_eq_iff (params other : Params F)
    (value : (CombinedControl F × CombinedControl F) × Bool) :
    failsafeValue.recompute other value = failsafeValue.recompute params value ↔
      CommandManager.configuredCommands other = CommandManager.configuredCommands params ∧
        CommandManager.failsafeThrottleInvalid other =
          CommandManager.failsafeThrottleInvalid params := by
  have compared := withFailsafeThrottle_eq_iff value.1.1
    CommandManager.new.multirotorFailsafeCommand other params
    (CommandManager.configuredThrottle other) (CommandManager.configuredThrottle params)
  -- The fixed-wing command has no throttle in either.
  simp only [failsafeValue, CommandManager.configuredCommands, Prod.mk.injEq, and_true, compared]

end Failsafe

section Pieces

variable [FlightFloat F] [FlightFloat R] [FloatCast F R] [Svd R]

omit [FlightFloat F] in
omit [FlightFloat F] in
/-- Two sets of parameters have a mixer choose the same exactly when they select the same. -/
theorem mixerChoiceValue_eq_iff (params other : Params F) (value : MixerStatus × MixerSelection R) :
    mixerChoiceValue.recompute other value = mixerChoiceValue.recompute params value ↔
      (mixerSelection other : Option (MixerSelection R)) = mixerSelection params := by
  simp only [mixerChoiceValue]
  -- An invalid choice is told from a valid one by its status.
  cases mixerSelection (R := R) other <;> cases mixerSelection (R := R) params <;> simp

/-- A configuration that follows its parameters reacts to changes as it would be refreshed, exactly
when each part reacts to an announced change or is configured alike. -/
theorem DerivedConfig.react_eq_refresh_iff {config : DerivedConfig F R} {params other : Params F}
    {announced : List ParamId} (matching : config.refresh params = config)
    (idle : announced = [] →
      (.fromParams other : ControllerGains R) = .fromParams params) :
    config.react other announced = config.refresh other ↔
      ∀ piece : DerivedPiece, announced.any piece.reactsTo = true ∨
        piece.SameUnder R params other := by
  have sticks := sticksValue.react_eq_iff_of_settled params other
    (congrArg DerivedConfig.sticks matching) announced
  have switches := switchesValue.react_eq_iff_of_settled params other
    (congrArg DerivedConfig.switches matching) announced
  have failsafe := (failsafeValue.react_eq_iff_of_settled params other
    (congrArg DerivedConfig.failsafe matching) announced).trans
      (or_congr_right (failsafeValue_eq_iff params other config.failsafe))
  have mixer := mixerParamsValue.react_eq_iff_of_settled params other
    (congrArg DerivedConfig.mixerParams matching) announced
  have choice := (mixerChoiceValue.react_eq_iff_of_settled params other
    (congrArg DerivedConfig.mixerChoice matching) announced).trans
      (or_congr_right (mixerChoiceValue_eq_iff params other config.mixerChoice))
  have rate (stream : NamedTelemetryStream) :=
    (rateValue stream).react_eq_iff_of_settled params other
    (congrFun (congrArg DerivedConfig.telemetryHz matching) stream) announced
  have divisor := divisorValue.react_eq_iff_of_settled params other
    (congrArg DerivedConfig.outputRawImuDivisor matching) announced
  have battery := batteryValue.react_eq_iff_of_settled params other
    (congrArg DerivedConfig.batteryMonitor matching) announced
  have gains := gainsValue.react_eq_iff_of_settled params other
    (congrArg DerivedConfig.gains matching) announced
  -- The configurations are compared part by part.
  constructor
  · intro equal piece
    cases piece with
    | sticks => exact sticks.mp (congrArg DerivedConfig.sticks equal)
    | switches => exact switches.mp (congrArg DerivedConfig.switches equal)
    | failsafe => exact failsafe.mp (congrArg DerivedConfig.failsafe equal)
    | mixerParams => exact mixer.mp (congrArg DerivedConfig.mixerParams equal)
    | mixerChoice => exact choice.mp (congrArg DerivedConfig.mixerChoice equal)
    | battery => exact battery.mp (congrArg DerivedConfig.batteryMonitor equal)
    | telemetry stream =>
      exact (rate stream).mp (congrFun (congrArg DerivedConfig.telemetryHz equal) stream)
  · intro reacted
    have gained : announced.any (gainsValue (F := F) (R := R)).reacts = true ∨
        gainsValue.recompute other config.gains = gainsValue.recompute params config.gains := by
      -- The gains are read again at any change.
      cases announced with
      | nil => exact .inr (idle rfl)
      | cons id rest => exact .inl rfl
    exact DerivedConfig.ext (sticks.mpr (reacted .sticks)) (switches.mpr (reacted .switches))
      (failsafe.mpr (reacted .failsafe)) (mixer.mpr (reacted .mixerParams))
      (choice.mpr (reacted .mixerChoice))
      (funext fun stream => (rate stream).mpr (reacted (.telemetry stream)))
      (divisor.mpr (.inr rfl)) (battery.mpr (reacted .battery)) (gains.mpr gained)

end Pieces

namespace BoardedWorld

variable [FlightFloat F] [FlightFloat R] [FloatCast F R] [AttitudeFloat R] [ReflectionFormat F]
  [Svd R] [Estimator F R (AttitudeState R) E]

section Start

variable [PwmDriver R D]

/-- The firmware as it starts, with the battery monitor and the mixer the parameters describe. -/
def init (params : Params F) (estimator : E) (controller : QuadController F R) (pwm : D)
    (nowUs : Nat) (backup : Option RosflightHardErrorMsg) : BoardedWorld F R E D where
  world := World.init params .new estimator controller (MatrixMixer.new params) pwm nowUs backup
  batteryMonitor := batteryMultipliers (World.initialParams params)

omit [FlightFloat F] [ReflectionFormat F] in
/-- Rearming after a hard fault keeps the flag of an invalid failsafe. -/
theorem mem_getErrors_rearmAfterHardfault (backup : Option RosflightHardErrorMsg)
    (params : Params F) (state : StateManager) :
    .invalidFailsafe ∈ (World.rearmAfterHardfault backup params state).getErrors ↔
      .invalidFailsafe ∈ state.getErrors := by
  unfold World.rearmAfterHardfault
  -- At most an ordinary event happens.
  split
  · split
    · exact StateManager.mem_getErrors_update_of_ordinary (by simp) (by simp) (by simp)
    · exact Iff.rfl
  · exact Iff.rfl

/-- The firmware starts with a configuration that matches its parameters. -/
theorem derived_init (params : Params F) (estimator : E) (controller : QuadController F R) (pwm : D)
    (nowUs : Nat) (backup : Option RosflightHardErrorMsg) :
    (init params estimator controller pwm nowUs backup).derived.refresh
        (World.initialParams params) =
      (init params estimator controller pwm nowUs backup).derived := by
  let started : BoardedWorld F R E D := init params estimator controller pwm nowUs backup
  have reflected (piece : DerivedPiece) : piece.SameUnder R params (World.initialParams params) :=
    (piece.sameUnder_syncReflectedMixerParams params _).trans
      (piece.sameUnder_syncReflectedMixerParams _ _)
  have failsafe : started.derived.failsafe =
      failsafeValue.recompute (World.initialParams params)
        (CommandManager.new.failsafeCommands, false) :=
    Prod.ext rfl ((decide_eq_decide.mpr (mem_getErrors_rearmAfterHardfault backup _ _)).trans
      (ParamReaction.flagged_updateFailsafeConfig _ _ _))
  obtain ⟨fallback, choice⟩ : ∃ fallback : MixerStatus × MixerSelection R,
      started.derived.mixerChoice = mixerChoiceValue.recompute params fallback :=
    ⟨_, (MatrixMixer.refresh_parts _ params).2⟩
  -- The mixer is built before choices are reflected, which leaves them as they are.
  refine DerivedConfig.ext rfl rfl ?_ (reflected .mixerParams) ?_ rfl rfl rfl rfl
  · show failsafeValue.recompute _ started.derived.failsafe = started.derived.failsafe
    rw [failsafe, failsafeValue.settled]
  · show mixerChoiceValue.recompute _ started.derived.mixerChoice = started.derived.mixerChoice
    rw [(mixerChoiceValue_eq_iff params _ _).mpr (reflected .mixerChoice), choice,
      mixerChoiceValue.settled]

end Start

/-- The derived configuration is as a full refresh would leave it. -/
def Matches (boarded : BoardedWorld F R E D) (nowUs : Nat) : Prop :=
  (boarded.refreshed nowUs).derived = boarded.derived

/-- One pass over the waiting requests sets off reactions that leave the derived configuration as
a full refresh from the resulting parameters would. -/
def ReactsFully (boarded : BoardedWorld F R E D) (nowUs : Nat) : Prop :=
  (boarded.serviceParamEvents.applyParamReactions nowUs).derived =
    (boarded.serviceParamEvents.refreshed nowUs).derived

/-- The changes that reactions are told of: those that wait and those the requests make, as far as
the queue has room. -/
def announcedBatch (boarded : BoardedWorld F R E D) : List ParamId :=
  (boarded.world.paramEvents.announced ++
    changedIds boarded.world.params boarded.world.paramEvents.setRequests.items).take
      PARAM_CHANGED_QUEUE_CAPACITY

/-- The parameters as the waiting requests leave them. -/
def batchParams (boarded : BoardedWorld F R E D) : Params F :=
  requestedParams boarded.world.params boarded.world.paramEvents.setRequests.items

/-- A full refresh waits anyway, or every part reacts to an announced change or is configured
alike by the parameters as the requests leave them. -/
def BatchCovered (boarded : BoardedWorld F R E D) : Prop :=
  boarded.world.paramEvents.fullRefresh = true ∨
    ∀ piece : DerivedPiece, boarded.announcedBatch.any piece.reactsTo = true ∨
      piece.SameUnder R boarded.world.params boarded.batchParams

/-- A pass over the requests has the configuration react to what it announces. -/
theorem reactsFully_iff_react (boarded : BoardedWorld F R E D) (nowUs : Nat) :
    boarded.ReactsFully nowUs ↔ boarded.world.paramEvents.fullRefresh = true ∨
      boarded.derived.react boarded.batchParams boarded.announcedBatch =
        boarded.derived.refresh boarded.batchParams := by
  let service : ParamService F :=
    { params := boarded.world.params, listState := boarded.world.paramListState
      events := boarded.world.paramEvents, comm := boarded.world.commEvents }
  have served := service.commits_serviceParamEvents
  have params : boarded.serviceParamEvents.world.params = boarded.batchParams := served.params
  have announced : boarded.serviceParamEvents.world.paramEvents.announced =
      boarded.announcedBatch := served.announced
  have fullRefresh : boarded.serviceParamEvents.world.paramEvents.fullRefresh =
      boarded.world.paramEvents.fullRefresh := served.fullRefresh
  have kept : boarded.serviceParamEvents.derived = boarded.derived := rfl
  rw [ReactsFully, derived_refreshed, kept, params]
  -- A full refresh that waits anyway is the one compared with.
  cases full : boarded.world.paramEvents.fullRefresh with
  | true =>
    rw [derived_applyParamReactions_full _ nowUs (fullRefresh.trans full), kept, params]
    exact iff_of_true rfl (.inl rfl)
  | false =>
    rw [derived_applyParamReactions _ nowUs (fullRefresh.trans full), kept, params, announced]
    exact ⟨.inr, fun either => either.resolve_left Bool.false_ne_true⟩

omit [AttitudeFloat R] [Estimator F R (AttitudeState R) E] in
/-- A batch whose changes all fit in the queue is covered, unless it moves the throttle's axis or
the number of channels. -/
theorem batchCovered_of_room {boarded : BoardedWorld F R E D}
    (room : (boarded.world.paramEvents.announced ++ changedIds boarded.world.params
      boarded.world.paramEvents.setRequests.items).length ≤ PARAM_CHANGED_QUEUE_CAPACITY)
    (told : ∀ id ∈ changedIds boarded.world.params boarded.world.paramEvents.setRequests.items,
      id ≠ .PARAM_RC_F_AXIS ∧ id ≠ .PARAM_RC_NUM_CHANNELS) : boarded.BatchCovered := by
  refine .inr fun piece => ?_
  rw [announcedBatch, List.take_of_length_le room, List.any_append]
  by_cases reacted : (changedIds boarded.world.params
      boarded.world.paramEvents.setRequests.items).any piece.reactsTo = true
  · exact .inl (by rw [reacted, Bool.or_true])
  · -- Nothing the part is computed from has changed.
    refine .inr (piece.sameUnder_requestedParams _ fun id member => ?_)
    rw [Bool.not_eq_true, List.any_eq_false] at reacted
    rw [Bool.eq_false_iff]
    intro read
    obtain ⟨axis, channels⟩ := told id member
    exact reacted id member (DerivedPiece.reactsTo_of_reads read axis channels)

/-- From a configuration that matches the parameters, a pass over the requests reacts fully exactly
when the batch is covered. -/
theorem reactsFully_iff {boarded : BoardedWorld F R E D} {nowUs : Nat}
    (matching : boarded.Matches nowUs) : boarded.ReactsFully nowUs ↔ boarded.BatchCovered := by
  rw [Matches, derived_refreshed] at matching
  rw [reactsFully_iff_react]
  refine or_congr_right (DerivedConfig.react_eq_refresh_iff matching fun silent => ?_)
  -- The first change of an empty queue is always announced.
  refine gains_requestedParams _ ?_
  have nothing := (List.take_eq_nil_iff.mp silent).resolve_left (by decide)
  exact (List.append_eq_nil_iff.mp nothing).2

end BoardedWorld

section Bench

/-- An estimator that always finds the vehicle level. -/
inductive LevelEstimator (F R : Type) where
  | mk

instance [FlightFloat R] : Estimator F R (AttitudeState R) (LevelEstimator F R) where
  estimate estimator _ := (estimator, .default)
  isHealthy state := state.isHealthy

/-- A request to change a parameter by its name. -/
def setRequest (id : ParamId) (value : Int) : ParamSetRequested ℚ where
  value := .int value
  paramIdBytes := strToFixedBytes id.asStr

/-- A vehicle as it starts with default parameters. -/
def startedVehicle : BoardedWorld ℚ ℚ (LevelEstimator ℚ ℚ) (AcceptingDriver ℚ) :=
  .init Params.new .mk .default (.new 8 fun _ => false) 0 none

/-- The started vehicle with requests that wait for it. -/
def requestedVehicle (requests : List (ParamSetRequested ℚ))
    (bounded : requests.length ≤ PARAM_SET_BURST_QUEUE_CAPACITY) :
    BoardedWorld ℚ ℚ (LevelEstimator ℚ ℚ) (AcceptingDriver ℚ) :=
  { startedVehicle with
    world :=
      { startedVehicle.world with
        paramEvents :=
          { startedVehicle.world.paramEvents with setRequests := ⟨requests, bounded⟩ } } }

/-- Waiting requests do not keep the configuration from matching. -/
theorem matches_requestedVehicle (requests : List (ParamSetRequested ℚ))
    (bounded : requests.length ≤ PARAM_SET_BURST_QUEUE_CAPACITY) :
    (requestedVehicle requests bounded).Matches 0 := by
  have started : startedVehicle.derived.refresh (World.initialParams Params.new) =
      startedVehicle.derived := BoardedWorld.derived_init _ _ _ _ _ _
  -- The requests are no part of the configuration.
  exact ((requestedVehicle requests bounded).derived_refreshed 0).trans started

/-- Requests that ask for another number of motors. -/
def motorsBatch : List (ParamSetRequested ℚ) := [setRequest .PARAM_NUM_MOTORS 6]

/-- Requests that ask for it behind eight changes of the baud rate. -/
def crowdedBatch : List (ParamSetRequested ℚ) :=
  (List.range 8).map (fun step => setRequest .PARAM_BAUD_RATE (step : Int)) ++ motorsBatch

/-- The other number of motors alone is reacted to. -/
theorem motorsBatch_reacts : (requestedVehicle motorsBatch (by decide)).ReactsFully 0 := by
  -- One change has room, and it is none of the two that are not reacted to.
  have changed : changedIds startedVehicle.world.params motorsBatch = [.PARAM_NUM_MOTORS] := by
    decide +kernel
  refine (BoardedWorld.reactsFully_iff (matches_requestedVehicle motorsBatch (by decide))).mpr
    (BoardedWorld.batchCovered_of_room (by decide +kernel) fun id member => ?_)
  have named : id ∈ changedIds startedVehicle.world.params motorsBatch := member
  rw [changed, List.mem_singleton] at named
  rw [named]
  decide

/-- Behind eight other changes it is committed without the mixer being told. -/
theorem crowdedBatch_forgets :
    (requestedVehicle crowdedBatch (by decide)).Matches 0 ∧
      ¬ (requestedVehicle crowdedBatch (by decide)).ReactsFully 0 := by
  refine ⟨matches_requestedVehicle crowdedBatch (by decide), ?_⟩
  rw [BoardedWorld.reactsFully_iff_react]
  rintro (full | equal)
  · exact nomatch full
  · -- The mixer still reckons with four motors.
    have motors := congrArg (fun config => config.mixerParams.numMotors) equal
    revert motors
    decide +kernel

end Bench

end Veloxity
