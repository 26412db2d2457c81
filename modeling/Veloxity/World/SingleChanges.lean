import Veloxity.World.Bench
import Veloxity.World.ReactionLaws

/-! Which changes of one parameter leave the receiver's mapping or the failsafe out of date. -/

namespace Veloxity

open Library (DerivedValue)

variable {F R S O E C M : Type}

/-- Other parameters differ in one of them, and at most in those that reflect a mixer besides. -/
def DiffersOnlyIn (id : ParamId) (params later : Params F) : Prop :=
  ∀ other, other ≠ id → reflectsPrimary other = false → reflectsSecondary other = false →
    later.getById other = params.getById other

/-- A parameter that is set is the only one to differ. -/
theorem differsOnlyIn_setById (params : Params F) (id : ParamId) (value : ParamValue F) :
    DiffersOnlyIn id params (params.setById id value) :=
  fun _ other _ _ => params.getById_setById_of_ne value other

/-- The mapping of the receiver is read from this parameter. -/
def mapsReceiver (id : ParamId) : Bool :=
  mapsSticks id || mapsSwitches id || id = .PARAM_RC_NUM_CHANNELS

/-- What maps the receiver reflects no mixer. -/
theorem unreflected_of_mapsReceiver {id : ParamId} (maps : mapsReceiver id = true) :
    reflectsPrimary id = false ∧ reflectsSecondary id = false := by
  cases id <;> first | exact ⟨rfl, rfl⟩ | exact nomatch maps

/-- A change of another parameter leaves what the receiver is mapped by. -/
theorem intOr_of_differs {id read : ParamId} {params later : Params F}
    (differs : DiffersOnlyIn id params later) (maps : mapsReceiver read = true)
    (apart : read ≠ id) (fallback : Int) :
    later.intOr read fallback = params.intOr read fallback := by
  obtain ⟨primary, secondary⟩ := unreflected_of_mapsReceiver maps
  rw [Params.intOr, Params.intOr, differs read apart primary secondary]

namespace Rc

/-- The sticks and the switches are mapped as the parameters say. -/
def Mapped (rc : Rc F) (params : Params F) : Prop :=
  rc.sticks = stickConfig params ∧ rc.switches = switchConfig params

/-- Full initialisation maps the sticks and the switches. -/
theorem mapped_initRc (rc : Rc F) (params : Params F) : (rc.initRc params).Mapped params :=
  ⟨rfl, rfl⟩

/-- No channel of a switch lies below one of two numbers of channels and not below the other. -/
def NoSwitchBetween (params : Params F) (channels otherChannels : Int) : Prop :=
  ∀ switch, 3 < params.intOr (switchChannelParam switch) 255 →
    (params.intOr (switchChannelParam switch) 255 < channels ↔
      params.intOr (switchChannelParam switch) 255 < otherChannels)

/-- A change of what the sticks are not mapped by leaves their mapping. -/
theorem stickConfig_of_differs {id : ParamId} {params later : Params F}
    (differs : DiffersOnlyIn id params later) (unread : mapsSticks id = false) :
    stickConfig later = stickConfig params := by
  have int (read : ParamId) (fallback : Int) (maps : mapsSticks read = true) :
      later.intOr read fallback = params.intOr read fallback := by
    apply intOr_of_differs differs (by simp [mapsReceiver, maps])
    rintro rfl
    rw [maps] at unread
    cases unread
  funext stick
  -- Every stick has a parameter of its own.
  cases stick <;> simp (disch := decide) only [stickConfig, int]

/-- A change of what the switches are not mapped by leaves their mapping exactly when it leaves
every switch on the same side of the number of channels. -/
theorem switchConfig_of_differs {id : ParamId} {params later : Params F}
    (differs : DiffersOnlyIn id params later) (unread : mapsSwitches id = false) :
    switchConfig later = switchConfig params ↔
      NoSwitchBetween params (params.intOr .PARAM_RC_NUM_CHANNELS 6)
        (later.intOr .PARAM_RC_NUM_CHANNELS 6) := by
  have int (read : ParamId) (fallback : Int) (maps : mapsSwitches read = true) :
      later.intOr read fallback = params.intOr read fallback := by
    apply intOr_of_differs differs (by simp [mapsReceiver, maps])
    rintro rfl
    rw [maps] at unread
    cases unread
  have channel (switch : Switch) := int (switchChannelParam switch) 255 (by cases switch <;> rfl)
  have direction (channel : Int) :
      switchDirection later channel = switchDirection params channel := by
    simp (disch := decide) only [switchDirection, int]
  have compared (switch : Switch) : switchConfig later switch = switchConfig params switch ↔
      (3 < params.intOr (switchChannelParam switch) 255 →
        (params.intOr (switchChannelParam switch) 255 < params.intOr .PARAM_RC_NUM_CHANNELS 6 ↔
          params.intOr (switchChannelParam switch) 255 <
            later.intOr .PARAM_RC_NUM_CHANNELS 6)) := by
    -- Only the marks of a mapped switch can differ.
    simp only [switchConfig, channel, direction, SwitchConfig.mk.injEq, true_and, and_true]
    rw [Bool.eq_iff_iff]
    simp only [Bool.and_eq_true, decide_eq_true_eq, and_congr_right_iff]
    exact imp_congr_right fun _ => iff_comm
  rw [funext_iff]
  exact forall_congr' compared

/-- The callback for a changed parameter maps the receiver as full initialisation does, unless the
number of channels changes across the channel of a switch. -/
theorem paramChangeCallback_mapped_iff {rc : Rc F} {params later : Params F}
    (mapped : rc.Mapped params) {id : ParamId} (differs : DiffersOnlyIn id params later) :
    (rc.paramChangeCallback id later).sticks = (rc.initRc later).sticks ∧
        (rc.paramChangeCallback id later).switches = (rc.initRc later).switches ↔
      (id = .PARAM_RC_NUM_CHANNELS → NoSwitchBetween params (params.intOr .PARAM_RC_NUM_CHANNELS 6)
        (later.intOr .PARAM_RC_NUM_CHANNELS 6)) := by
  rw [(rc.mapped_initRc later).1, (rc.mapped_initRc later).2, paramChangeCallback_sticks,
    paramChangeCallback_switches, mapped.1, mapped.2]
  have sticks : (if mapsSticks id then stickConfig later else stickConfig params) =
      stickConfig later := by
    cases unread : mapsSticks id with
    | true => rfl
    | false => exact (stickConfig_of_differs differs unread).symm
  simp only [sticks, true_and]
  cases unread : mapsSwitches id with
  | true =>
    -- The number of channels maps no switch by itself.
    have other : id ≠ .PARAM_RC_NUM_CHANNELS := by
      rintro rfl
      cases unread
    simp [other]
  | false =>
    simp only [Bool.false_eq_true, if_false]
    rw [eq_comm, switchConfig_of_differs differs unread]
    constructor
    · intro between _
      exact between
    · intro counted
      by_cases channels : id = .PARAM_RC_NUM_CHANNELS
      · exact counted channels
      · -- Any other parameter leaves the number of channels.
        rw [intOr_of_differs differs rfl (Ne.symm channels)]
        exact fun _ _ => Iff.rfl

/-- A new receiver mapped by the default parameters. -/
def defaultReceiver : Rc ℚ := new.initRc Params.new

/-- Another channel for a stick is adopted. -/
theorem stickChange_mapped :
    (defaultReceiver.paramChangeCallback .PARAM_RC_X_CHANNEL
        (Params.new.setById .PARAM_RC_X_CHANNEL (.int 5))).sticks =
      (defaultReceiver.initRc (Params.new.setById .PARAM_RC_X_CHANNEL (.int 5))).sticks ∧
    (defaultReceiver.paramChangeCallback .PARAM_RC_X_CHANNEL
        (Params.new.setById .PARAM_RC_X_CHANNEL (.int 5))).switches =
      (defaultReceiver.initRc (Params.new.setById .PARAM_RC_X_CHANNEL (.int 5))).switches :=
  (paramChangeCallback_mapped_iff (mapped_initRc new Params.new)
    (differsOnlyIn_setById _ _ _)).mpr nofun

/-- Parameters that arm by the eighth channel, of which only six are used. -/
def eighthChannelArms : Params ℚ := Params.new.setById .PARAM_RC_ARM_CHANNEL (.int 7)

/-- Using eight channels maps the arming switch, but the callback leaves it unmapped. -/
theorem channelCountChange_unmapped :
    (new.initRc eighthChannelArms).Mapped eighthChannelArms ∧
      ((new.initRc eighthChannelArms).paramChangeCallback .PARAM_RC_NUM_CHANNELS
          (eighthChannelArms.setById .PARAM_RC_NUM_CHANNELS (.int 8))).switches ≠
        ((new.initRc eighthChannelArms).initRc
          (eighthChannelArms.setById .PARAM_RC_NUM_CHANNELS (.int 8))).switches := by
  refine ⟨mapped_initRc _ _, ?_⟩
  -- A full start maps the arming switch to the eighth channel; the callback does not.
  intro same
  have arm := congrArg SwitchConfig.mapped (congrFun same .Arm)
  revert arm
  decide

end Rc

section Failsafe

variable [FlightFloat F]

/-- The force axis the parameters name for the throttle. -/
def throttleAxis (params : Params F) : Nat :=
  match params.getById .PARAM_RC_F_AXIS with
  | .int 0 => 0
  | .int 1 => 1
  | _ => 2

namespace CommandManager

/-- The throttle is put on the axis the parameters name. -/
theorem withFailsafeThrottle_eq (command : CombinedControl F) (params : Params F) (throttle : F) :
    withFailsafeThrottle command params throttle =
      { command with
        fx := { command.fx with
          value := if throttleAxis params = 0 then throttle else FlightFloat.zero }
        fy := { command.fy with
          value := if throttleAxis params = 1 then throttle else FlightFloat.zero }
        fz := { command.fz with
          value := if throttleAxis params = 2 then throttle else FlightFloat.zero } } := by
  unfold withFailsafeThrottle throttleAxis
  -- Both definitions look at the axis in the same way.
  generalize params.getById .PARAM_RC_F_AXIS = axis
  match axis with
  | .int 0 => rfl
  | .int 1 => rfl
  | .int (Int.ofNat (_ + 2)) => rfl
  | .int (Int.negSucc _) => rfl
  | .float _ => rfl
  | .uint _ => rfl
  | .bool _ => rfl

omit [FlightFloat F] in
/-- There are three axes. -/
theorem throttleAxis_cases (params : Params F) :
    throttleAxis params = 0 ∨ throttleAxis params = 1 ∨ throttleAxis params = 2 := by
  rw [throttleAxis]
  split <;> simp

/-- One throttle put on the axes of two sets of parameters gives the same command exactly when the
axes are the same or the throttle is zero. -/
theorem withFailsafeThrottle_axis_iff (command : CombinedControl F) (params later : Params F)
    (throttle : F) :
    withFailsafeThrottle command later throttle = withFailsafeThrottle command params throttle ↔
      throttleAxis later = throttleAxis params ∨ throttle = FlightFloat.zero := by
  -- Each axis is one of three, and a throttle on another one tells them apart.
  rw [withFailsafeThrottle_eq, withFailsafeThrottle_eq]
  rcases throttleAxis_cases later with new | new | new <;>
    rcases throttleAxis_cases params with old | old | old <;>
    simp [new, old, eq_comm]

/-- The failsafe is read from this parameter, the axis of the throttle aside. -/
theorem unreflected_of_failsafe {id : ParamId}
    (reads : bearsOnFailsafe id = true ∨ id = .PARAM_RC_F_AXIS) :
    reflectsPrimary id = false ∧ reflectsSecondary id = false := by
  rcases reads with bears | rfl
  · cases id <;> first | exact ⟨rfl, rfl⟩ | exact nomatch bears
  · exact ⟨rfl, rfl⟩

/-- A change the failsafe is not configured by leaves its throttle and whether that is invalid. -/
theorem throttle_of_differs {id : ParamId} {params later : Params F}
    (differs : DiffersOnlyIn id params later) (unread : bearsOnFailsafe id = false) :
    failsafeThrottleInvalid later = failsafeThrottleInvalid params ∧
      configuredThrottle later = configuredThrottle params := by
  -- The failsafe reads only parameters that bear on it, and none of these is the changed one.
  have same (read : ParamId) (bears : bearsOnFailsafe read = true) :
      later.getById read = params.getById read := by
    obtain ⟨primary, secondary⟩ := unreflected_of_failsafe (.inl bears)
    apply differs read ?_ primary secondary
    rintro rfl
    rw [bears] at unread
    cases unread
  have invalid : failsafeThrottleInvalid later = failsafeThrottleInvalid params := by
    simp (disch := decide) only [failsafeThrottleInvalid, Params.isNonzeroInt, Params.floatOr, same]
  refine ⟨invalid, ?_⟩
  simp (disch := decide) only [configuredThrottle, invalid, Params.floatOr, same]

/-- A change the failsafe is not configured by leaves its commands exactly when it leaves the axis
of a throttle that is not zero. -/
theorem configuredCommands_of_differs {id : ParamId} {params later : Params F}
    (differs : DiffersOnlyIn id params later) (unread : bearsOnFailsafe id = false) :
    configuredCommands later = configuredCommands params ↔
      throttleAxis later = throttleAxis params ∨ configuredThrottle params = FlightFloat.zero := by
  rw [configuredCommands, configuredCommands, (throttle_of_differs differs unread).2,
    ← withFailsafeThrottle_axis_iff new.multirotorFailsafeCommand params later]
  exact Prod.mk_left_inj

omit [FlightFloat F] in
/-- A change of another parameter leaves the axis of the throttle. -/
theorem throttleAxis_of_differs {id : ParamId} {params later : Params F}
    (differs : DiffersOnlyIn id params later) (other : id ≠ .PARAM_RC_F_AXIS) :
    throttleAxis later = throttleAxis params := by
  rw [throttleAxis, throttleAxis, differs .PARAM_RC_F_AXIS (Ne.symm other) rfl rfl]

end CommandManager

namespace ParamReaction

open CommandManager

variable [Estimator F R S E] [Controller F R S O C] [Mixer F R O M]

/-- Reactions to one changed parameter leave the failsafe's commands and its flag as configuring it
anew would, unless the axis of a throttle that is not zero has changed. -/
theorem applyParamReactions_failsafe_iff
    {reaction : ParamReaction F E C M} {params later : Params F} {events : ParamEventQueues F}
    {id : ParamId}
    (matching : (reaction.updateFailsafe params).failsafe = reaction.failsafe)
    (differs : DiffersOnlyIn id params later) (pending : events.fullRefresh = false)
    (announced : events.announced = [id]) :
    (reaction.applyParamReactions later events).1.failsafe =
        (reaction.updateFailsafe later).failsafe ↔
      (id = .PARAM_RC_F_AXIS → throttleAxis later = throttleAxis params ∨
        configuredThrottle params = FlightFloat.zero) := by
  rw [failsafe_updateFailsafe] at matching ⊢
  rw [reaction.failsafe_applyParamReactions later pending, announced,
    failsafeValue.react_eq_iff_of_settled params later matching, failsafeValue_eq_iff]
  have reacts : [id].any (failsafeValue : DerivedValue (Params F) ParamId _).reacts =
      bearsOnFailsafe id := by
    simp [failsafeValue]
  rw [reacts]
  cases unread : bearsOnFailsafe id with
  | true =>
    -- The failsafe does not react to its axis.
    have other : id ≠ .PARAM_RC_F_AXIS := by
      rintro rfl
      cases unread
    simp [other]
  | false =>
    simp only [Bool.false_eq_true, false_or, (throttle_of_differs differs unread).1, and_true,
      configuredCommands_of_differs differs unread]
    constructor
    · intro kept _
      exact kept
    · intro axis
      by_cases other : id = .PARAM_RC_F_AXIS
      · exact axis other
      · exact .inl (throttleAxis_of_differs differs other)

omit [Estimator F R S E] [Controller F R S O C] [Mixer F R O M] in
/-- A failsafe that has just been configured matches its parameters. -/
theorem updateFailsafe_matches (reaction : ParamReaction F E C M) (params : Params F) :
    ((reaction.updateFailsafe params).updateFailsafe params).failsafe =
      (reaction.updateFailsafe params).failsafe := by
  rw [failsafe_updateFailsafe, failsafe_updateFailsafe]
  exact failsafeValue.settled params reaction.failsafe

end ParamReaction

end Failsafe

namespace ParamReaction

/-- A failsafe throttle of one quarter. -/
def quarterThrottle : Params ℚ := Params.new.setById .PARAM_FAILSAFE_THROTTLE (.float (1 / 4))

/-- What reactions on the bench change, with the failsafe configured. -/
def benchReaction : ParamReaction ℚ (IdleEstimator ℚ ℚ) (IdleController ℚ ℚ) (MatrixMixer ℚ ℚ) :=
  updateFailsafe
    { rc := .new, command := .new, state := .new, estimator := .mk, controller := .mk
      mixer := .new quarterThrottle, resource := {} } quarterThrottle

/-- The news of one changed parameter. -/
def oneChange (id : ParamId) (value : ParamValue ℚ) : ParamEventQueues ℚ :=
  emitParamChange {} id (quarterThrottle.getById id) value

/-- Another failsafe throttle is adopted. -/
theorem throttleChange_follows :
    (benchReaction.applyParamReactions
        (quarterThrottle.setById .PARAM_FAILSAFE_THROTTLE (.float (1 / 2)))
        (oneChange .PARAM_FAILSAFE_THROTTLE (.float (1 / 2)))).1.failsafe =
      (benchReaction.updateFailsafe
        (quarterThrottle.setById .PARAM_FAILSAFE_THROTTLE (.float (1 / 2)))).failsafe :=
  (applyParamReactions_failsafe_iff (updateFailsafe_matches _ quarterThrottle)
    (differsOnlyIn_setById _ _ _) rfl rfl).mpr nofun

/-- Another axis for the throttle leaves the failsafe on the old one. -/
theorem axisChange_keeps_old_axis :
    (benchReaction.updateFailsafe quarterThrottle).failsafe = benchReaction.failsafe ∧
      (benchReaction.applyParamReactions (quarterThrottle.setById .PARAM_RC_F_AXIS (.int 0))
          (oneChange .PARAM_RC_F_AXIS (.int 0))).1.failsafe ≠
        (benchReaction.updateFailsafe (quarterThrottle.setById .PARAM_RC_F_AXIS (.int 0))).failsafe
    := by
  refine ⟨updateFailsafe_matches _ quarterThrottle, ?_⟩
  -- The reaction leaves a quarter on the vertical axis, while the update puts it forward.
  intro same
  have forward := congrArg (fun failsafe => failsafe.1.1.fx.value) same
  revert forward
  decide +kernel

end ParamReaction

end Veloxity
