import Mathlib.Tactic.SplitIfs
import Veloxity.Control.Pipeline
import Veloxity.Library.Run
import Veloxity.State.Evolution
import Veloxity.World.Bench

/-! The control pipeline's clock over a sequence of inertial samples. -/

namespace Veloxity

open StateManager (Evolves ErrorEvent)

/-- An estimator together with every surroundings it has estimated in. -/
structure RecordedEstimator (F R E : Type) where
  estimator : E
  contexts : List (EstimatorCtx F R)

instance {F R S E : Type} [Estimator F R S E] : Estimator F R S (RecordedEstimator F R E) where
  estimate recorded context :=
    let estimated := Estimator.estimate recorded.estimator context
    ({ estimator := estimated.1, contexts := recorded.contexts ++ [context] }, estimated.2)
  isHealthy state := Estimator.isHealthy (E := E) state
  updateParams recorded params :=
    { recorded with estimator := Estimator.updateParams recorded.estimator params }
  reset recorded := { recorded with estimator := Estimator.reset recorded.estimator }
  resetAdaptiveBias recorded :=
    { recorded with estimator := Estimator.resetAdaptiveBias recorded.estimator }

/-- A controller together with every surroundings it has controlled in. -/
structure RecordedController (F R C : Type) where
  controller : C
  contexts : List (ControllerCtx F R)

instance {F R S O C : Type} [Controller F R S O C] :
    Controller F R S O (RecordedController F R C) where
  control recorded state context :=
    let controlled := Controller.control recorded.controller state context
    ({ controller := controlled.1, contexts := recorded.contexts ++ [context] }, controlled.2)
  updateGains recorded params :=
    { recorded with controller := Controller.updateGains recorded.controller params }
  calculateEquilibriumTorquesFromRc recorded rcControl params :=
    let calculated :=
      Controller.calculateEquilibriumTorquesFromRc recorded.controller rcControl params
    ({ recorded with controller := calculated.1 }, calculated.2)

/-- A timestamp is taken as the pipeline's last one, where zero stands for none so far. -/
def Accepts (last time : Nat) : Prop := last = 0 ∨ last < time

instance (last time : Nat) : Decidable (Accepts last time) :=
  inferInstanceAs (Decidable (last = 0 ∨ last < time))

/-- Last accepted timestamp after one more is offered. -/
def acceptTime (last time : Nat) : Nat := if Accepts last time then time else last

/-- Last accepted timestamp of a sequence. -/
def lastAccepted (times : List Nat) : Nat := times.foldl acceptTime 0

/-- One call of the control pipeline, with the external attitude that came in before it. -/
structure ControlCall (F R : Type) where
  offered : Option (ExternalAttitudeMsg F)
  input : ControlPipelineInput F R

namespace ControlCall

variable {F R : Type}

/-- Timestamp the call offers, if it has a sample. -/
def time (call : ControlCall F R) : Option Nat :=
  call.input.sensors.imu.map fun sample => sample.header.timestamp

end ControlCall

namespace ControlPipeline

variable {F R S O E C M D : Type}

/-- Keep the newest external attitude. -/
def offer (pipeline : ControlPipeline F E C M D) (offered : Option (ExternalAttitudeMsg F)) :
    ControlPipeline F E C M D :=
  match offered with
  | some msg => { pipeline with externalAttitude := some msg }
  | none => pipeline

variable [FlightFloat F] [FlightFloat R] [FloatCast F R] [Estimator F R S E]
  [Controller F R S O C] [Mixer F R O M] [PwmDriver R D]

/-- Take in an external attitude and call the pipeline, reporting whether it ran. -/
def called (pipeline : ControlPipeline F E C M D) (call : ControlCall F R) :
    ControlPipeline F E C M D × Bool :=
  (pipeline.offer call.offered).runControlPipelineIfNewImu call.input

/-- What running the pipeline on an accepted sample does to its clock and its inputs. -/
structure RanControl (pipeline after : ControlPipeline F E C M D)
    (input : ControlPipelineInput F R) (dt : R) : Prop where
  estimator : after.estimator =
    (Estimator.estimate pipeline.estimator
      { sensors := input.sensors, params := input.params, dt
        externalAttitude := pipeline.externalAttitude }).1
  controller : ∃ (attitude : S) (stateManager : StateManager),
    after.controller = (Controller.control pipeline.controller attitude
      { stateManager, command := input.command.combinedControl, params := input.params
        airDensity := input.sensors.airDensity, dt }).1
  externalAttitude : after.externalAttitude = none
  lastImuTime : after.resource.lastImuTime = pipeline.resource.lastImuTime
  backwards : .timeGoingBackwards ∈ after.state.getErrors ↔
    .timeGoingBackwards ∈ pipeline.state.getErrors

omit [FlightFloat F] [FloatCast F R] [Estimator F R S E] [Controller F R S O C] in
/-- Giving the driver its rates only touches the driver and the mark that it has them. -/
theorem configureRates_eq (pipeline : ControlPipeline F E C M D) :
    ∃ pwm pwmRatesConfigured, pipeline.configureRates =
      { pipeline with pwm, resource := { pipeline.resource with pwmRatesConfigured } } := by
  unfold configureRates
  -- The rates are given once, and the driver may refuse them.
  split
  · exact ⟨_, _, rfl⟩
  · dsimp only
    split
    · exact ⟨_, _, rfl⟩
    · exact ⟨_, _, rfl⟩

/-- Running control estimates once, controls once over the same time, and leaves the clock and its
flag alone. -/
theorem ranControl_runControl (pipeline : ControlPipeline F E C M D)
    (input : ControlPipelineInput F R) (dt : R) :
    RanControl pipeline (pipeline.runControl input dt) input dt := by
  -- The two flags that are set after the estimate are of other kinds.
  have spared (state : StateManager) (flag : ErrorFlag) (isPresent : Bool)
      (other : .timeGoingBackwards ∉ flag) :
      .timeGoingBackwards ∈ (state.setErrorFlag flag isPresent input.params).getErrors ↔
        .timeGoingBackwards ∈ state.getErrors :=
    (state.evolves_setErrorFlag flag isPresent input.params).mem_getErrors other
  have unhealthy : ErrorKind.timeGoingBackwards ∉ ErrorFlag.UNHEALTHY_ESTIMATOR := by decide
  have mixer : ErrorKind.timeGoingBackwards ∉ ErrorFlag.INVALID_MIXER := by decide
  obtain ⟨pwm, configured, rates⟩ := configureRates_eq
    ((pipeline.estimateAttitude input dt).1.controlAndMix input dt
      (pipeline.estimateAttitude input dt).2).1
  simp only [runControl, rates]
  refine ⟨rfl, ⟨_, _, rfl⟩, rfl, rfl, ?_⟩
  exact (spared _ _ _ mixer).trans (spared _ _ _ unhealthy)

/-- What one call does to the clock, by whether its timestamp is accepted. -/
inductive CallEffect (pipeline : ControlPipeline F E C M D) (call : ControlCall F R) :
    ControlPipeline F E C M D × Bool → Prop where
  | noSample (absent : call.time = none) : CallEffect pipeline call (pipeline, false)
  | started {time : Nat} (present : call.time = some time)
      (first : pipeline.resource.lastImuTime = 0) :
    CallEffect pipeline call
      ({ pipeline with resource := { pipeline.resource with lastImuTime := time } }, false)
  | refused {time : Nat} (present : call.time = some time)
      (late : ¬ Accepts pipeline.resource.lastImuTime time) :
    CallEffect pipeline call
      ({ pipeline with
        state := pipeline.state.setErrorFlag ErrorFlag.TIME_GOING_BACKWARDS true
          call.input.params }, false)
  | accepted {time : Nat} {after : ControlPipeline F E C M D} (present : call.time = some time)
      (running : pipeline.resource.lastImuTime ≠ 0)
      (newer : pipeline.resource.lastImuTime < time)
      (ran : RanControl (pipeline.acceptSample call.input.params time) after call.input
        (sampleInterval time pipeline.resource.lastImuTime)) :
    CallEffect pipeline call (after, true)

omit [FlightFloat F] [FlightFloat R] [FloatCast F R] [Estimator F R S E] [Controller F R S O C]
  [Mixer F R O M] [PwmDriver R D] in
/-- Keeping an attitude leaves everything else alone. -/
theorem offer_rest (pipeline : ControlPipeline F E C M D)
    (offered : Option (ExternalAttitudeMsg F)) :
    (pipeline.offer offered).resource = pipeline.resource ∧
      (pipeline.offer offered).state = pipeline.state ∧
      (pipeline.offer offered).estimator = pipeline.estimator ∧
      (pipeline.offer offered).controller = pipeline.controller ∧
      (pipeline.offer offered).externalAttitude = offered.or pipeline.externalAttitude := by
  cases offered with
  | none => exact ⟨rfl, rfl, rfl, rfl, rfl⟩
  | some msg => exact ⟨rfl, rfl, rfl, rfl, rfl⟩

/-- Every call has one of the four effects. -/
theorem callEffect (pipeline : ControlPipeline F E C M D) (call : ControlCall F R) :
    CallEffect pipeline call (pipeline.runControlPipelineIfNewImu call.input) := by
  unfold runControlPipelineIfNewImu
  cases sample : call.input.sensors.imu with
  | none => exact .noSample (by rw [ControlCall.time, sample]; rfl)
  | some imuPacket =>
    have present : call.time = some imuPacket.header.timestamp := by
      rw [ControlCall.time, sample]
      rfl
    dsimp only
    -- The first sample, a late one and a newer one are told apart by the last timestamp.
    split_ifs with first late
    · exact .started present first
    · refine .refused present ?_
      rintro (none | newer)
      · exact first none
      · omega
    · exact .accepted present first (by omega) (ranControl_runControl _ _ _)

/-- Timestamps a sequence of calls offers. -/
def offeredTimes (calls : List (ControlCall F R)) : List Nat :=
  calls.filterMap ControlCall.time

/-- External attitudes a sequence of calls offers. -/
def offeredAttitudes (calls : List (ControlCall F R)) : List (ExternalAttitudeMsg F) :=
  calls.filterMap ControlCall.offered

/-- A pipeline that records what its estimator and its controller are given. -/
abbrev RecordedPipeline (F R E C M D : Type) :=
  ControlPipeline F (RecordedEstimator F R E) (RecordedController F R C) M D

/-- External attitudes that estimations have consumed. -/
def consumedAttitudes (pipeline : RecordedPipeline F R E C M D) :
    List (ExternalAttitudeMsg F) :=
  pipeline.estimator.contexts.filterMap EstimatorCtx.externalAttitude

/-- A pipeline that has not been called, with nothing recorded and no error of its clock. -/
structure Fresh (pipeline : RecordedPipeline F R E C M D) : Prop where
  lastImuTime : pipeline.resource.lastImuTime = 0
  externalAttitude : pipeline.externalAttitude = none
  contexts : pipeline.estimator.contexts = []
  backwards : .timeGoingBackwards ∉ pipeline.state.getErrors

/-- What holds after any sequence of calls. -/
structure ClockInvariant (calls : List (ControlCall F R))
    (pipeline : RecordedPipeline F R E C M D) : Prop where
  lastImuTime : pipeline.resource.lastImuTime = lastAccepted (offeredTimes calls)
  unflagged : pipeline.resource.lastImuTime = 0 → .timeGoingBackwards ∉ pipeline.state.getErrors
  attitudes : (pipeline.consumedAttitudes ++ pipeline.externalAttitude.toList).Sublist
    (offeredAttitudes calls)

/-- The pipeline after a call. -/
def afterCall (pipeline : ControlPipeline F E C M D) (call : ControlCall F R) :
    ControlPipeline F E C M D :=
  (pipeline.called call).1

/-- What a call after others may do and must do. -/
structure KeepsTime (calls : List (ControlCall F R))
    (pipeline : RecordedPipeline F R E C M D) (call : ControlCall F R)
    (done : RecordedPipeline F R E C M D × Bool) : Prop where
  -- It runs for a timestamp beyond the last accepted one, and only then.
  ran : done.2 = true ↔ lastAccepted (offeredTimes calls) ≠ 0 ∧
    ∃ time, call.time = some time ∧ lastAccepted (offeredTimes calls) < time
  -- It estimates once when it runs, over exactly the time since the last accepted timestamp.
  estimated : done.2 = true → ∀ time, call.time = some time →
    done.1.estimator.contexts = pipeline.estimator.contexts ++
      [{ sensors := call.input.sensors, params := call.input.params
         dt := sampleInterval time (lastAccepted (offeredTimes calls))
         externalAttitude := call.offered.or pipeline.externalAttitude }]
  -- It controls once when it runs, over the same time.
  controlled : done.2 = true → ∀ time, call.time = some time → ∃ stateManager,
    done.1.controller.contexts = pipeline.controller.contexts ++
      [{ stateManager, command := call.input.command.combinedControl
         params := call.input.params, airDensity := call.input.sensors.airDensity
         dt := sampleInterval time (lastAccepted (offeredTimes calls)) }]
  idle : done.2 = false →
    done.1.estimator = pipeline.estimator ∧ done.1.controller = pipeline.controller
  -- It is flagged exactly when its timestamp is refused.
  flagged : ∀ time, call.time = some time →
    (.timeGoingBackwards ∈ done.1.state.getErrors ↔
      ¬ Accepts (lastAccepted (offeredTimes calls)) time)
  -- Each external attitude has gone into at most one estimation.
  attitudes : done.1.consumedAttitudes.Sublist (offeredAttitudes (calls ++ [call]))

omit [FlightFloat F] [FlightFloat R] [FloatCast F R] in
/-- The newest timestamp is accepted or leaves the last accepted one. -/
theorem lastAccepted_concat (calls : List (ControlCall F R)) (call : ControlCall F R) :
    lastAccepted (offeredTimes (calls ++ [call])) =
      match call.time with
      | none => lastAccepted (offeredTimes calls)
      | some time => acceptTime (lastAccepted (offeredTimes calls)) time := by
  rw [offeredTimes, List.filterMap_append, lastAccepted, List.foldl_append]
  -- A call without a sample offers no timestamp.
  cases present : call.time with
  | none => simp [present, offeredTimes, lastAccepted]
  | some time => simp [present, offeredTimes, lastAccepted]

omit [FlightFloat F] [FlightFloat R] [FloatCast F R] [PwmDriver R D] in
/-- What a pipeline has consumed and still holds is offered with what comes in. -/
theorem ClockInvariant.waiting {calls : List (ControlCall F R)}
    {pipeline : RecordedPipeline F R E C M D}
    (invariant : ClockInvariant calls pipeline) (call : ControlCall F R) :
    (pipeline.consumedAttitudes ++ (call.offered.or pipeline.externalAttitude).toList).Sublist
      (offeredAttitudes (calls ++ [call])) := by
  have held := invariant.attitudes
  have offers : offeredAttitudes (calls ++ [call]) =
      offeredAttitudes calls ++ call.offered.toList := by
    rw [offeredAttitudes, List.filterMap_append]
    cases arrived : call.offered with
    | none => simp [arrived, offeredAttitudes]
    | some msg => simp [arrived, offeredAttitudes]
  rw [offers]
  -- A new attitude replaces the one that was waiting.
  cases call.offered with
  | none => simpa using held
  | some msg =>
    have before := (List.sublist_append_left _ _).trans held
    simpa using List.Sublist.append_right before [msg]

omit [FlightFloat F] [PwmDriver R D] in
/-- A call that does not estimate keeps the time if it was not due, and judges the timestamp it
offers. -/
theorem ClockInvariant.rests {calls : List (ControlCall F R)}
    {pipeline after : RecordedPipeline F R E C M D}
    (invariant : ClockInvariant calls pipeline) {call : ControlCall F R}
    (notDue : ∀ time, call.time = some time → lastAccepted (offeredTimes calls) ≠ 0 →
      ¬lastAccepted (offeredTimes calls) < time)
    (estimator : after.estimator = pipeline.estimator)
    (controller : after.controller = pipeline.controller)
    (pending : after.externalAttitude = call.offered.or pipeline.externalAttitude)
    (flagged : ∀ time, call.time = some time →
      (.timeGoingBackwards ∈ after.state.getErrors ↔
        ¬Accepts (lastAccepted (offeredTimes calls)) time))
    (last : after.resource.lastImuTime = lastAccepted (offeredTimes (calls ++ [call])))
    (unflagged : after.resource.lastImuTime = 0 →
      .timeGoingBackwards ∉ after.state.getErrors) :
    KeepsTime calls pipeline call (after, false) ∧ ClockInvariant (calls ++ [call]) after := by
  have waiting := invariant.waiting call
  have same : after.consumedAttitudes = pipeline.consumedAttitudes := by
    rw [consumedAttitudes, estimator, consumedAttitudes]
  have idle : ¬(lastAccepted (offeredTimes calls) ≠ 0 ∧
      ∃ time, call.time = some time ∧ lastAccepted (offeredTimes calls) < time) := by
    rintro ⟨running, time, present, newer⟩
    exact notDue time present running newer
  refine ⟨⟨iff_of_false Bool.false_ne_true idle, ?_, ?_, fun _ => ⟨estimator, controller⟩, flagged,
    ?_⟩, ⟨last, unflagged, ?_⟩⟩
  · intro ran
    cases ran
  · intro ran
    cases ran
  · -- What has been consumed is what had been.
    rw [same]
    exact (List.sublist_append_left _ _).trans waiting
  · rw [same, pending]
    exact waiting

omit [FlightFloat F] [PwmDriver R D] in
/-- A call that estimates keeps the time. -/
theorem ClockInvariant.estimates {calls : List (ControlCall F R)}
    {pipeline after : RecordedPipeline F R E C M D}
    (invariant : ClockInvariant calls pipeline) {call : ControlCall F R} {time : Nat}
    (present : call.time = some time) (running : lastAccepted (offeredTimes calls) ≠ 0)
    (newer : lastAccepted (offeredTimes calls) < time)
    (recorded : after.estimator.contexts = pipeline.estimator.contexts ++
      [{ sensors := call.input.sensors, params := call.input.params
         dt := sampleInterval time (lastAccepted (offeredTimes calls))
         externalAttitude := call.offered.or pipeline.externalAttitude }])
    (controlled : ∃ stateManager, after.controller.contexts = pipeline.controller.contexts ++
      [{ stateManager, command := call.input.command.combinedControl
         params := call.input.params, airDensity := call.input.sensors.airDensity
         dt := sampleInterval time (lastAccepted (offeredTimes calls)) }])
    (spent : after.externalAttitude = none) (moved : after.resource.lastImuTime = time)
    (cleared : .timeGoingBackwards ∉ after.state.getErrors) :
    KeepsTime calls pipeline call (after, true) ∧ ClockInvariant (calls ++ [call]) after := by
  have waiting := invariant.waiting call
  -- The attitude that was waiting goes into this estimation.
  have taken : after.consumedAttitudes = pipeline.consumedAttitudes ++
      (call.offered.or pipeline.externalAttitude).toList := by
    rw [consumedAttitudes, recorded, List.filterMap_append, consumedAttitudes]
    cases call.offered.or pipeline.externalAttitude with
    | none => rfl
    | some msg => rfl
  have last : lastAccepted (offeredTimes (calls ++ [call])) = time := by
    rw [lastAccepted_concat, present]
    exact if_pos (Or.inr newer)
  refine ⟨⟨iff_of_true rfl ⟨running, time, present, newer⟩, ?_, ?_, ?_, ?_, ?_⟩,
    ⟨moved.trans last.symm, fun _ => cleared, ?_⟩⟩
  · intro _ other offered
    obtain rfl := Option.some.inj (present.symm.trans offered)
    exact recorded
  · intro _ other offered
    obtain rfl := Option.some.inj (present.symm.trans offered)
    exact controlled
  · intro rests
    cases rests
  · intro other offered
    obtain rfl := Option.some.inj (present.symm.trans offered)
    exact iff_of_false cleared fun refused => refused (Or.inr newer)
  · rw [taken]
    exact waiting
  · rw [taken, spent, Option.toList_none, List.append_nil]
    exact waiting

/-- A call keeps the time, and leaves the invariant to the next one. -/
theorem ClockInvariant.call {calls : List (ControlCall F R)}
    {pipeline : RecordedPipeline F R E C M D}
    (invariant : ClockInvariant calls pipeline) (call : ControlCall F R) :
    KeepsTime calls pipeline call (pipeline.called call) ∧
      ClockInvariant (calls ++ [call]) (pipeline.afterCall call) := by
  obtain ⟨resource, state, estimator, controller, pending⟩ := pipeline.offer_rest call.offered
  have last := lastAccepted_concat calls call
  have effect : CallEffect (pipeline.offer call.offered) call (pipeline.called call) :=
    callEffect _ call
  unfold afterCall
  generalize pipeline.called call = done at effect ⊢
  -- The four effects are those of a missing, a first, a refused and a newer sample.
  cases effect with
  | noSample absent =>
    rw [absent] at last
    -- Without a sample there is no time to be kept, and nothing changes.
    have untimed {proposition : Prop} {time : Nat} (present : call.time = some time) :
        proposition := by
      rw [absent] at present
      cases present
    refine invariant.rests (fun _ present => untimed present) estimator controller pending
      (fun _ present => untimed present) ?_ ?_
    · rw [resource, last]
      exact invariant.lastImuTime
    · rw [resource, state]
      exact invariant.unflagged
  | @started time present first =>
    rw [resource] at first
    have none : lastAccepted (offeredTimes calls) = 0 := by rw [← invariant.lastImuTime, first]
    -- The first sample starts the clock, at which no error was raised yet.
    have quiet : .timeGoingBackwards ∉ (pipeline.offer call.offered).state.getErrors := by
      rw [state]
      exact invariant.unflagged first
    refine invariant.rests ?_ estimator controller pending ?_ ?_ ?_
    · intro _ _ running
      exact absurd none running
    · intro other _
      rw [none]
      exact iff_of_false quiet fun refused => refused (Or.inl rfl)
    · rw [last, present]
      simp [acceptTime, Accepts, none]
    · intro _
      exact quiet
  | @refused time present late =>
    rw [resource, invariant.lastImuTime] at late
    refine invariant.rests ?_ estimator controller pending ?_ ?_ ?_
    · intro other offered _ newer
      obtain rfl := Option.some.inj (present.symm.trans offered)
      exact late (Or.inr newer)
    · intro other offered
      obtain rfl := Option.some.inj (present.symm.trans offered)
      -- A sample that is no newer raises the error and leaves the clock.
      have raised := StateManager.mem_getErrors_setErrorFlag_self
        (pipeline.offer call.offered).state .timeGoingBackwards true call.input.params
      exact iff_of_true (raised.mpr rfl) late
    · rw [resource, last, present]
      simp only [acceptTime, if_neg late]
      exact invariant.lastImuTime
    · intro first
      rw [resource, invariant.lastImuTime] at first
      exact absurd (Or.inl first) late
  | @accepted time after present running newer ran =>
    rw [resource] at running newer ran
    rw [invariant.lastImuTime] at running newer
    -- A newer sample clears the error, moves the clock and is estimated from once.
    have cleared : ErrorKind.timeGoingBackwards ∉ after.state.getErrors := by
      rw [ran.backwards]
      have cleared := StateManager.mem_getErrors_setErrorFlag_self
        (pipeline.offer call.offered).state .timeGoingBackwards false call.input.params
      exact fun flagged => Bool.false_ne_true (cleared.mp flagged)
    apply invariant.estimates present running newer _ _ ran.externalAttitude ran.lastImuTime cleared
    · rw [ran.estimator, ← invariant.lastImuTime, ← pending, ← estimator]
      rfl
    · obtain ⟨attitude, stateManager, controlled⟩ := ran.controller
      refine ⟨stateManager, ?_⟩
      rw [controlled, ← invariant.lastImuTime, ← controller]
      rfl

omit [FlightFloat F] [FlightFloat R] [FloatCast F R] [PwmDriver R D] in
/-- A fresh pipeline meets the invariant before its first call. -/
theorem Fresh.clockInvariant {pipeline : RecordedPipeline F R E C M D}
    (fresh : pipeline.Fresh) : ClockInvariant [] pipeline := by
  refine ⟨fresh.lastImuTime, fun _ => fresh.backwards, ?_⟩
  rw [consumedAttitudes, fresh.contexts, fresh.externalAttitude]
  exact List.Sublist.refl []

/-- The invariant holds after every sequence of calls. -/
theorem Fresh.clockInvariant_run {pipeline : RecordedPipeline F R E C M D}
    (fresh : pipeline.Fresh) (calls : List (ControlCall F R)) :
    ClockInvariant calls (Library.run afterCall pipeline calls) := by
  -- The induction adds one call at the end.
  induction calls using List.reverseRecOn with
  | nil => exact fresh.clockInvariant
  | append_singleton earlier call ih =>
    rw [Library.run_concat]
    exact (ih.call call).2

/-- After any calls of a fresh pipeline, the next call keeps the time. -/
theorem keepsTime_after (pipeline : RecordedPipeline F R E C M D)
    (fresh : pipeline.Fresh) (calls : List (ControlCall F R)) (call : ControlCall F R) :
    KeepsTime calls (Library.run afterCall pipeline calls) call
      ((Library.run afterCall pipeline calls).called call) :=
  ((fresh.clockInvariant_run calls).call call).1

/-- The pipeline of a bench vehicle, with what its estimator and its controller are given. -/
def benchPipeline : RecordedPipeline ℚ ℚ (IdleEstimator ℚ ℚ) (IdleController ℚ ℚ)
    (MatrixMixer ℚ ℚ) (AcceptingDriver ℚ) where
  resource := {}
  externalAttitude := none
  state := .new
  estimator := { estimator := .mk, contexts := [] }
  controller := { controller := .mk, contexts := [] }
  mixer := .new .new
  pwm := .new 8 fun _ => false

/-- A call of the bench pipeline with a sample of the given time. -/
def benchCall (timestamp : Nat) : ControlCall ℚ ℚ where
  offered := none
  input :=
    { params := .new, sensors := { imu := some (restingSample timestamp) }, auxCommand := none
      command := .new, pwmOutput := .new false }

/-- After a late sample the pipeline runs again over the time since the last accepted one. -/
theorem benchPipeline_recovers :
    KeepsTime [benchCall 10, benchCall 4] (Library.run afterCall benchPipeline
        [benchCall 10, benchCall 4]) (benchCall 12)
      ((Library.run afterCall benchPipeline [benchCall 10, benchCall 4]).called (benchCall 12)) ∧
    lastAccepted (offeredTimes [benchCall 10, benchCall 4]) = 10 := by
  have quiet : ErrorKind.timeGoingBackwards ∉ benchPipeline.state.getErrors := by decide
  exact ⟨keepsTime_after benchPipeline ⟨rfl, rfl, rfl, quiet⟩ _ _, rfl⟩

end ControlPipeline

end Veloxity
