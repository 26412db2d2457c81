import Mathlib.Logic.Relation
import Mathlib.Tactic.SplitIfs
import Veloxity.State.MachineLaws

/-! How a state manager evolves under the events one stage may apply. -/

namespace Veloxity

namespace StateManager

variable {F : Type}

/-- A permitted event is applied, or the interlock inputs are replaced. -/
inductive Move (F : Type) (permitted : StateManager → Event → Prop) :
    StateManager → StateManager → Prop
  | event (manager : StateManager) (event : Event) (params : Params F)
      (allowed : permitted manager event) : Move F permitted manager (manager.update event params)
  | safety (manager : StateManager) (rcThrottleLow rcThrottleOverrideSwitchOn : Bool) :
      Move F permitted manager
        (manager.updateArmingSafety rcThrottleLow rcThrottleOverrideSwitchOn)

/-- Any number of moves by permitted events. -/
def Evolves (F : Type) (permitted : StateManager → Event → Prop) :
    StateManager → StateManager → Prop :=
  Relation.ReflTransGen (Move F permitted)

namespace Evolves

variable {permitted allowed : StateManager → Event → Prop} {start middle finish : StateManager}

/-- Nothing has happened. -/
theorem refl : Evolves F permitted start start := Relation.ReflTransGen.refl

/-- One evolution after another. -/
theorem trans (first : Evolves F permitted start middle)
    (second : Evolves F permitted middle finish) : Evolves F permitted start finish :=
  Relation.ReflTransGen.trans first second

/-- One permitted event. -/
theorem event {event : Event} (params : Params F) (may : permitted start event) :
    Evolves F permitted start (start.update event params) :=
  Relation.ReflTransGen.single (.event start event params may)

/-- The interlock inputs are replaced. -/
theorem safety (rcThrottleLow rcThrottleOverrideSwitchOn : Bool) :
    Evolves F permitted start
      (start.updateArmingSafety rcThrottleLow rcThrottleOverrideSwitchOn) :=
  Relation.ReflTransGen.single (.safety start rcThrottleLow rcThrottleOverrideSwitchOn)

/-- What is permitted may be widened. -/
theorem mono (wider : ∀ manager event, permitted manager event → allowed manager event)
    (evolved : Evolves F permitted start finish) : Evolves F allowed start finish := by
  -- Each move stays a move.
  refine Relation.ReflTransGen.mono ?_ _ _ evolved
  intro before after moved
  cases moved with
  | event event params may => exact .event before event params (wider before event may)
  | safety low override => exact .safety before low override

/-- What each permitted event and the interlock inputs preserve holds at the end. -/
theorem invariant (holds : StateManager → Prop)
    (kept : ∀ manager event (params : Params F), permitted manager event → holds manager →
      holds (manager.update event params))
    (rewired : ∀ manager low override, holds manager →
      holds (manager.updateArmingSafety low override))
    (evolved : Evolves F permitted start finish) (initial : holds start) : holds finish := by
  -- The induction is on the moves.
  induction evolved with
  | refl => exact initial
  | tail _ moved ih =>
    cases moved with
    | event event params may => exact kept _ event params may ih
    | safety low override => exact rewired _ low override ih

end Evolves

/-- An error event that raises only known kinds, or those already held, and clears known kinds. -/
def ErrorEvent (kinds : ErrorFlag) (manager : StateManager) : Event → Prop
  | .ERROR_OCCURRED flag => flag ⊆ kinds ∪ manager.getErrors
  | .ERROR_CLEARED flag => flag ⊆ kinds
  | _ => False

/-- The pilot asks to arm or to disarm. -/
def RequestEvent (_ : StateManager) (event : Event) : Prop :=
  event = .REQUEST_ARM ∨ event = .REQUEST_DISARM

/-- What the pilot's stage may apply: requests, and errors of the radio-control link. -/
def PilotEvent (manager : StateManager) (event : Event) : Prop :=
  RequestEvent manager event ∨ ErrorEvent ErrorFlag.RC_LOST manager event

/-- An error event is one of the two kinds of event. -/
theorem ErrorEvent.cases {kinds : ErrorFlag} {manager : StateManager} {event : Event}
    (error : ErrorEvent kinds manager event) :
    (∃ flag, event = .ERROR_OCCURRED flag) ∨ ∃ flag, event = .ERROR_CLEARED flag := by
  -- Every other event is excluded by definition.
  cases event with
  | ERROR_OCCURRED flag => exact Or.inl ⟨flag, rfl⟩
  | ERROR_CLEARED flag => exact Or.inr ⟨flag, rfl⟩
  | _ => exact error.elim

/-- More kinds permit more error events. -/
theorem ErrorEvent.mono {kinds wider : ErrorFlag} (included : kinds ⊆ wider)
    (manager : StateManager) (event : Event) (error : ErrorEvent kinds manager event) :
    ErrorEvent wider manager event := by
  -- Both conditions are inclusions.
  cases event with
  | ERROR_OCCURRED flag =>
    exact error.trans (Finset.union_subset_union included (Finset.Subset.refl _))
  | ERROR_CLEARED flag => exact error.trans included
  | _ => exact error

/-- Raising known kinds evolves by error events. -/
theorem evolves_raise {kinds flag : ErrorFlag} (known : flag ⊆ kinds) (manager : StateManager)
    (params : Params F) :
    Evolves F (ErrorEvent kinds) manager (manager.update (.ERROR_OCCURRED flag) params) := by
  -- What is raised is known, so nothing need be held.
  have may : ErrorEvent kinds manager (.ERROR_OCCURRED flag) :=
    known.trans Finset.subset_union_left
  exact .event params may

/-- Clearing known kinds evolves by error events. -/
theorem evolves_clear {kinds flag : ErrorFlag} (known : flag ⊆ kinds) (manager : StateManager)
    (params : Params F) :
    Evolves F (ErrorEvent kinds) manager (manager.update (.ERROR_CLEARED flag) params) := by
  -- What is cleared is known.
  have may : ErrorEvent kinds manager (.ERROR_CLEARED flag) := known
  exact .event params may

/-- Raising or clearing a flag evolves by error events of its kinds. -/
theorem evolves_setErrorFlag (manager : StateManager) (flag : ErrorFlag) (isPresent : Bool)
    (params : Params F) :
    Evolves F (ErrorEvent flag) manager (manager.setErrorFlag flag isPresent params) := by
  -- At most one of the two events is applied.
  rcases setErrorFlag_cases manager flag isPresent params with same | raised | cleared
  · rw [same]
    exact .refl
  · rw [raised]
    exact evolves_raise (Finset.Subset.refl _) manager params
  · rw [cleared]
    exact evolves_clear (Finset.Subset.refl _) manager params

/-- Revisiting the errors evolves by error events of no new kind. -/
theorem evolves_run (manager : StateManager) (params : Params F) :
    Evolves F (ErrorEvent ∅) manager (manager.run params) := by
  -- Either nothing is cleared or the held errors are raised again.
  rcases run_cases manager params with cleared | raised
  · rw [cleared]
    exact evolves_clear (Finset.Subset.refl _) manager params
  · rw [raised]
    have may : ErrorEvent ∅ manager (.ERROR_OCCURRED manager.getErrors) :=
      Finset.subset_union_right
    exact .event params may

/-- An ordinary event keeps the errors, or forgets the missing calibration where a vehicle that
holds only ignorable errors before arming has nothing else to forget. -/
theorem getErrors_update_of_ordinary {manager : StateManager} {event : Event} {params : Params F}
    (raised : ∀ flag, event ≠ .ERROR_OCCURRED flag)
    (cleared : ∀ flag, event ≠ .ERROR_CLEARED flag) :
    (manager.update event params).getErrors = manager.getErrors ∨
      ((manager.update event params).getErrors =
          manager.getErrors \ ErrorFlag.UNCALIBRATED_IMU ∧
        (manager.machine.HoldsOnlyIgnorable →
          manager.getErrors ⊆ ErrorFlag.UNHEALTHY_ESTIMATOR)) := by
  have started (errors : ErrorFlag) :
      (armFromPreflight errors params).getErrors = errors ∨
        (armFromPreflight errors params).getErrors = errors \ ErrorFlag.UNCALIBRATED_IMU := by
    unfold armFromPreflight
    split
    · exact Or.inr rfl
    · exact Or.inl rfl
  -- The flags change only where a calibration is started or completed.
  unfold update
  split
  · exact Or.inl rfl
  · simp only [getErrors, StateMachine.update,
      StateMachine.recordErrors_of_ordinary raised cleared]
    cases manager.machine with
    | init errors => cases event <;> exact Or.inl rfl
    | preflight errors =>
      cases event with
      | REQUEST_ARM => exact (started errors).imp id fun trimmed => ⟨trimmed, id⟩
      | _ => exact Or.inl rfl
    | calibrating errors =>
      cases event with
      | CALIBRATION_COMPLETE => exact Or.inr ⟨rfl, id⟩
      | _ => exact Or.inl rfl
    | armed errors =>
      cases event with
      | REQUEST_DISARM =>
        simp only [StateMachine.transition, StateMachine.onEventArmed]
        split <;> exact Or.inl rfl
      | ERROR_OCCURRED flag => exact absurd rfl (raised flag)
      | _ => exact Or.inl rfl
    | failsafe errors =>
      cases event with
      | ERROR_CLEARED flag => exact absurd rfl (cleared flag)
      | _ => exact Or.inl rfl
    | errorPresent errors =>
      cases event with
      | REQUEST_ARM =>
        simp only [StateMachine.transition, StateMachine.onEventErrorPresent]
        split
        · -- A vehicle with errors starts to arm only if all of them are ignorable.
          rename_i ignorable
          have only := (armingBlockingErrors_eq_empty_iff.mp ignorable).1
          exact (started errors).imp id fun trimmed => ⟨trimmed, fun _ => only⟩
        · exact Or.inl rfl
      | ERROR_CLEARED flag => exact absurd rfl (cleared flag)
      | _ => exact Or.inl rfl
    | errorFailsafe errors =>
      cases event with
      | ERROR_CLEARED flag => exact absurd rfl (cleared flag)
      | _ => exact Or.inl rfl

/-- An ordinary event keeps every error but the missing calibration. -/
theorem mem_getErrors_update_of_ordinary {manager : StateManager} {event : Event}
    {params : Params F} {kind : ErrorKind} (spared : kind ≠ .uncalibratedImu)
    (raised : ∀ flag, event ≠ .ERROR_OCCURRED flag)
    (cleared : ∀ flag, event ≠ .ERROR_CLEARED flag) :
    kind ∈ (manager.update event params).getErrors ↔ kind ∈ manager.getErrors := by
  -- Another kind survives the forgetting.
  rcases getErrors_update_of_ordinary raised cleared with same | ⟨trimmed, _⟩
  · rw [same]
  · rw [trimmed]
    simp [ErrorFlag.UNCALIBRATED_IMU, spared]

/-- While only ignorable errors wait to arm, an ordinary event keeps every other error. -/
theorem mem_getErrors_update_of_ignorable {manager : StateManager} {event : Event}
    {params : Params F} {kind : ErrorKind} (blocks : kind ≠ .unhealthyEstimator)
    (ignorable : manager.machine.HoldsOnlyIgnorable)
    (raised : ∀ flag, event ≠ .ERROR_OCCURRED flag)
    (cleared : ∀ flag, event ≠ .ERROR_CLEARED flag) :
    kind ∈ (manager.update event params).getErrors ↔ kind ∈ manager.getErrors := by
  rcases getErrors_update_of_ordinary raised cleared with same | ⟨trimmed, only⟩
  · rw [same]
  · -- Where the missing calibration is forgotten, neither it nor any other such error was held.
    have absent : kind ∉ manager.getErrors := fun held =>
      blocks (Finset.mem_singleton.mp (only ignorable held))
    rw [trimmed]
    simp [absent]

/-- An error event of other kinds keeps an error as it is. -/
theorem mem_getErrors_update_of_error {manager : StateManager} {event : Event} {params : Params F}
    {kinds : ErrorFlag} {kind : ErrorKind} (other : kind ∉ kinds)
    (error : ErrorEvent kinds manager event) :
    kind ∈ (manager.update event params).getErrors ↔ kind ∈ manager.getErrors := by
  -- What is raised was held before, and what is cleared is of another kind.
  cases event with
  | ERROR_OCCURRED flag =>
    rw [getErrors_raise, Finset.mem_union]
    refine ⟨fun held => held.elim id fun raised => ?_, Or.inl⟩
    exact (Finset.mem_union.mp (error raised)).elim (fun known => absurd known other) id
  | ERROR_CLEARED flag =>
    rw [getErrors_clear, Finset.mem_sdiff]
    exact and_iff_left_of_imp fun _ cleared => other (error cleared)
  | _ => exact error.elim

/-- A flag set on purpose is held exactly when it was to be present. -/
theorem mem_getErrors_setErrorFlag_self (manager : StateManager) (kind : ErrorKind)
    (isPresent : Bool) (params : Params F) :
    kind ∈ (manager.setErrorFlag {kind} isPresent params).getErrors ↔ isPresent = true := by
  -- The event is left out only where the flag is right already.
  unfold setErrorFlag
  by_cases held : kind ∈ manager.getErrors
  · cases isPresent with
    | true => simp [held]
    | false => simp [held, getErrors_clear]
  · cases isPresent with
    | true => simp [held, getErrors_raise]
    | false => simp [held]

/-- While an error other than an unhealthy estimator is held, nothing but a rearm after a hard
fault arms. -/
theorem isArmed_update_of_blocked {manager : StateManager} {event : Event} {params : Params F}
    {kind : ErrorKind} (blocks : kind ≠ .unhealthyEstimator) (held : kind ∈ manager.getErrors)
    (ignorable : manager.machine.HoldsOnlyIgnorable)
    (ordinary : event ≠ .HARDFAULT_REARM_REQUESTED) (disarmed : manager.isArmed = false) :
    (manager.update event params).isArmed = false := by
  by_contra armed
  obtain ⟨arms, _⟩ := update_arms ordinary disarmed (by simpa using armed)
  have impossible {errors : ErrorFlag} (only : errors ⊆ ErrorFlag.UNHEALTHY_ESTIMATOR)
      (present : kind ∈ errors) : False :=
    blocks (Finset.mem_singleton.mp (only present))
  -- Every way of arming starts with no other error than an unhealthy estimator.
  rw [getErrors] at held
  revert arms
  generalize (manager.update event params).machine = reached
  intro arms
  cases machine : manager.machine with
  | preflight errors => rw [machine] at ignorable held; exact impossible ignorable held
  | calibrating errors => rw [machine] at ignorable held; exact impossible ignorable held
  | errorPresent errors =>
    rw [machine] at arms held
    cases arms with
    | bypassed _ clear => exact impossible (armingBlockingErrors_eq_empty_iff.mp clear).1 held
  | _ => rw [machine] at arms; cases arms

/-- An evolution by error events of other kinds keeps an error as it is. -/
theorem Evolves.mem_getErrors {kinds : ErrorFlag} {kind : ErrorKind} {start finish : StateManager}
    (other : kind ∉ kinds) (evolved : Evolves F (ErrorEvent kinds) start finish) :
    kind ∈ finish.getErrors ↔ kind ∈ start.getErrors := by
  -- The equivalence with the start is what each move preserves.
  refine evolved.invariant (fun manager => kind ∈ manager.getErrors ↔ kind ∈ start.getErrors)
    ?_ (fun manager low override held => held) Iff.rfl
  intro manager event params may held
  rw [mem_getErrors_update_of_error other may, held]

/-- The pilot's stage keeps every error but the link's and the missing calibration. -/
theorem Evolves.mem_getErrors_pilot {kind : ErrorKind} {start finish : StateManager}
    (notLost : kind ≠ .rcLost) (spared : kind ≠ .uncalibratedImu)
    (evolved : Evolves F PilotEvent start finish) :
    kind ∈ finish.getErrors ↔ kind ∈ start.getErrors := by
  -- Requests are ordinary events.
  refine evolved.invariant (fun manager => kind ∈ manager.getErrors ↔ kind ∈ start.getErrors)
    ?_ (fun manager low override held => held) Iff.rfl
  intro manager event params may held
  rcases may with (rfl | rfl) | error
  · rw [mem_getErrors_update_of_ordinary spared (by simp) (by simp), held]
  · rw [mem_getErrors_update_of_ordinary spared (by simp) (by simp), held]
  · have other : kind ∉ ErrorFlag.RC_LOST := by simp [ErrorFlag.RC_LOST, notLost]
    rw [mem_getErrors_update_of_error other error, held]

/-- While only ignorable errors wait to arm, the pilot's stage keeps every other error but the
link's. -/
theorem Evolves.mem_getErrors_pilot_of_ignorable {kind : ErrorKind} {start finish : StateManager}
    (notLost : kind ≠ .rcLost) (blocks : kind ≠ .unhealthyEstimator)
    (ignorable : start.machine.HoldsOnlyIgnorable) (evolved : Evolves F PilotEvent start finish) :
    kind ∈ finish.getErrors ↔ kind ∈ start.getErrors := by
  -- What may wait to arm is the same after each move.
  refine (evolved.invariant (fun manager => manager.machine.HoldsOnlyIgnorable ∧
    (kind ∈ manager.getErrors ↔ kind ∈ start.getErrors)) ?_ (fun _ _ _ held => held)
    ⟨ignorable, Iff.rfl⟩).2
  rintro manager event params may ⟨waits, held⟩
  refine ⟨update_holdsOnlyIgnorable waits event params, ?_⟩
  rcases may with (rfl | rfl) | error
  · rw [mem_getErrors_update_of_ignorable blocks waits (by simp) (by simp), held]
  · rw [mem_getErrors_update_of_ignorable blocks waits (by simp) (by simp), held]
  · have other : kind ∉ ErrorFlag.RC_LOST := by simp [ErrorFlag.RC_LOST, notLost]
    rw [mem_getErrors_update_of_error other error, held]

/-- Error events never arm. -/
theorem Evolves.disarmed {kinds : ErrorFlag} {start finish : StateManager}
    (evolved : Evolves F (ErrorEvent kinds) start finish) (disarmed : start.isArmed = false) :
    finish.isArmed = false :=
  evolved.invariant (fun manager => manager.isArmed = false)
    (fun _ _ _ may held => isArmed_update_of_error may.cases held) (fun _ _ _ held => held) disarmed

/-- Error events neither arm nor disarm. -/
theorem Evolves.isArmed_eq {kinds : ErrorFlag} {start finish : StateManager}
    (evolved : Evolves F (ErrorEvent kinds) start finish) : finish.isArmed = start.isArmed := by
  -- Each of the two answers is kept.
  cases armed : start.isArmed with
  | false => exact evolved.disarmed armed
  | true =>
    exact evolved.invariant (fun manager => manager.isArmed = true)
      (fun _ _ _ may held => isArmed_update_of_error_of_armed may.cases held)
      (fun _ _ _ held => held) armed

/-- Clearing errors neither starts nor ends a calibration. -/
theorem isCalibrating_clear (manager : StateManager) (flag : ErrorFlag) (params : Params F) :
    (manager.update (.ERROR_CLEARED flag) params).isCalibrating = manager.isCalibrating := by
  -- Only the calibrating state answers with itself.
  unfold isCalibrating
  rw [machine_update_of_ne (by simp), StateMachine.update]
  cases manager.machine with
  | failsafe errors =>
    simp only [StateMachine.recordErrors, StateMachine.withErrors, StateMachine.transition,
      StateMachine.onEventFailsafe]
    split_ifs <;> rfl
  | errorPresent errors =>
    simp only [StateMachine.recordErrors, StateMachine.withErrors, StateMachine.transition,
      StateMachine.onEventErrorPresent]
    split_ifs <;> rfl
  | errorFailsafe errors =>
    simp only [StateMachine.recordErrors, StateMachine.withErrors, StateMachine.transition,
      StateMachine.onEventErrorFailsafe]
    split_ifs <;> rfl
  | _ => rfl

/-- Raising errors ends a calibration. -/
theorem isCalibrating_raise (manager : StateManager) (flag : ErrorFlag) (params : Params F) :
    (manager.update (.ERROR_OCCURRED flag) params).isCalibrating = false := by
  -- No state answers an error by calibrating.
  unfold isCalibrating
  rw [machine_update_of_ne (by simp), StateMachine.update]
  cases manager.machine with
  | armed errors =>
    simp only [StateMachine.recordErrors, StateMachine.withErrors, StateMachine.transition,
      StateMachine.onEventArmed]
    split_ifs <;> rfl
  | _ => rfl

/-- Clearing a flag neither starts nor ends a calibration. -/
theorem isCalibrating_setErrorFlag_clear (manager : StateManager) (flag : ErrorFlag)
    (params : Params F) :
    (manager.setErrorFlag flag false params).isCalibrating = manager.isCalibrating := by
  -- The flag is cleared only when it is present.
  unfold setErrorFlag
  simp only [Bool.false_eq_true, ↓reduceIte]
  split
  · exact isCalibrating_clear manager flag params
  · rfl

/-- Raising a flag ends a calibration exactly when the flag was not present. -/
theorem isCalibrating_setErrorFlag_raise (manager : StateManager) (flag : ErrorFlag)
    (params : Params F) :
    (manager.setErrorFlag flag true params).isCalibrating =
      (manager.isCalibrating && decide (flag ⊆ manager.getErrors)) := by
  -- A present flag is not raised again.
  unfold setErrorFlag
  by_cases present : flag ⊆ manager.getErrors
  · simp [present]
  · simp [present, isCalibrating_raise]

/-- Error events never start a calibration. -/
theorem Evolves.not_calibrating {kinds : ErrorFlag} {start finish : StateManager}
    (evolved : Evolves F (ErrorEvent kinds) start finish) (idle : start.isCalibrating = false) :
    finish.isCalibrating = false := by
  -- One event either keeps the answer or makes it negative.
  refine evolved.invariant (fun manager => manager.isCalibrating = false)
    ?_ (fun _ _ _ held => held) idle
  intro manager event params may held
  rcases may.cases with ⟨flag, rfl⟩ | ⟨flag, rfl⟩
  · exact isCalibrating_raise manager flag params
  · rw [isCalibrating_clear, held]

/-- Calibrating is one state of the machine. -/
theorem isCalibrating_iff {manager : StateManager} :
    manager.isCalibrating = true ↔ ∃ errors, manager.machine = .calibrating errors := by
  unfold isCalibrating
  -- Every other state answers with no.
  cases manager.machine with
  | calibrating errors => simp
  | _ => simp

/-- A calibrating vehicle is not armed. -/
theorem isArmed_of_calibrating {manager : StateManager} (calibrating : manager.isCalibrating) :
    manager.isArmed = false := by
  -- The one calibrating state is not an armed one.
  obtain ⟨errors, same⟩ := isCalibrating_iff.mp calibrating
  rw [isArmed, same]
  rfl

/-- The pilot's requests let a calibration go on. -/
theorem isCalibrating_update_of_request {manager : StateManager} {event : Event}
    {params : Params F} (request : RequestEvent manager event)
    (calibrating : manager.isCalibrating) : (manager.update event params).isCalibrating := by
  obtain ⟨errors, same⟩ := isCalibrating_iff.mp calibrating
  refine isCalibrating_iff.mpr ⟨errors, ?_⟩
  unfold update
  split
  · exact same
  · -- Neither request has a transition out of the calibrating state.
    show manager.machine.update event params = _
    rw [same]
    rcases request with rfl | rfl
    · rfl
    · rfl

/-- A completed or failed calibration is over. -/
theorem isCalibrating_update_of_settled {manager : StateManager} {event : Event}
    {params : Params F} (settled : event = .CALIBRATION_COMPLETE ∨ event = .CALIBRATION_FAILED)
    (calibrating : manager.isCalibrating) :
    (manager.update event params).isCalibrating = false := by
  obtain ⟨errors, same⟩ := isCalibrating_iff.mp calibrating
  -- Both events have a transition out of the calibrating state.
  rcases settled with rfl | rfl
  · rw [isCalibrating, machine_update_of_ne (by simp), same]
    rfl
  · rw [isCalibrating, machine_update_of_ne (by simp), same]
    rfl

/-- A failed calibration leaves the vehicle disarmed. -/
theorem isArmed_update_of_failed {manager : StateManager} {params : Params F}
    (calibrating : manager.isCalibrating) :
    (manager.update .CALIBRATION_FAILED params).isArmed = false := by
  -- The failure leads back to the disarmed state.
  obtain ⟨errors, same⟩ := isCalibrating_iff.mp calibrating
  rw [isArmed, machine_update_of_ne (by simp), same]
  rfl

/-- Requests let a calibration go on. -/
theorem Evolves.calibrating {start finish : StateManager}
    (evolved : Evolves F RequestEvent start finish) (calibrating : start.isCalibrating) :
    finish.isCalibrating :=
  evolved.invariant (fun manager => manager.isCalibrating)
    (fun _ _ _ may held => isCalibrating_update_of_request may held) (fun _ _ _ held => held)
    calibrating

/-- Every event keeps the disarmed, error-free states free of blocking errors. -/
theorem Evolves.holdsOnlyIgnorable {permitted : StateManager → Event → Prop}
    {start finish : StateManager} (evolved : Evolves F permitted start finish)
    (held : start.machine.HoldsOnlyIgnorable) : finish.machine.HoldsOnlyIgnorable :=
  evolved.invariant (fun manager => manager.machine.HoldsOnlyIgnorable)
    (fun _ event params _ held => update_holdsOnlyIgnorable held event params)
    (fun _ _ _ held => held) held

/-- While an error other than an unhealthy estimator and the link's is held, the pilot's stage
never arms. -/
theorem Evolves.disarmed_of_blocked {kind : ErrorKind} {start finish : StateManager}
    (blocks : kind ≠ .unhealthyEstimator) (notLost : kind ≠ .rcLost)
    (spared : kind ≠ .uncalibratedImu) (evolved : Evolves F PilotEvent start finish)
    (held : kind ∈ start.getErrors) (ignorable : start.machine.HoldsOnlyIgnorable)
    (disarmed : start.isArmed = false) : finish.isArmed = false := by
  -- The error stays held, so each event finds the vehicle blocked.
  refine (evolved.invariant (fun manager => manager.isArmed = false ∧ kind ∈ manager.getErrors ∧
    manager.machine.HoldsOnlyIgnorable) ?_ (fun _ _ _ blocked => blocked)
    ⟨disarmed, held, ignorable⟩).1
  rintro manager event params may ⟨disarmed, held, ignorable⟩
  have ordinary : event ≠ .HARDFAULT_REARM_REQUESTED := by
    rcases may with (rfl | rfl) | error
    · simp
    · simp
    · rintro rfl
      exact error.elim
  have still : kind ∈ (manager.update event params).getErrors :=
    (Evolves.mem_getErrors_pilot notLost spared (.event params may)).mpr held
  exact ⟨isArmed_update_of_blocked blocks held ignorable ordinary disarmed, still,
    update_holdsOnlyIgnorable ignorable event params⟩

end StateManager

end Veloxity
