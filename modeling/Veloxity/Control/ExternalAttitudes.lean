import Veloxity.Control.SampleTimes
import Veloxity.Control.UnitAttitude

/-! External attitudes on their way from the companion into the estimator. -/

namespace Veloxity

open Library

/-- An estimator together with everything its estimations have divided by. -/
structure WatchedEstimator (F R : Type) where
  estimator : QuadEstimator F R
  divisors : List R

instance watchedEstimator {F R : Type} [FlightFloat R] [FloatCast F R] :
    Estimator F R (AttitudeState R) (WatchedEstimator F R) where
  estimate watched ctx :=
    let estimated := watched.estimator.estimate ctx
    ({ estimator := (result estimated).1, divisors := watched.divisors ++ written estimated },
      (result estimated).2)
  isHealthy state := state.isHealthy
  updateParams watched params :=
    { watched with estimator := watched.estimator.updateParams params }
  reset watched := { watched with estimator := watched.estimator.resetState }
  resetAdaptiveBias watched := { watched with estimator := watched.estimator.resetAdaptiveBias }

/-- The companion's inputs and the control pipeline, which share the latest external attitude. -/
structure AttitudeLink (F R C M D : Type) where
  inputs : CompanionInputs F
  pipeline : ControlPipeline F (WatchedEstimator F R) C M D

/-- What can happen between a companion that measures the attitude and the estimator. -/
inductive AttitudeEvent (F R : Type) where
  | received (msg : ExternalAttitudeMsg F)
  | applyExternalAttitudes
  | control (input : ControlPipelineInput F R)
  | updateParams (params : Params F)
  | resetAdaptiveBias
  | reset

namespace AttitudeLink

variable {F C M D : Type}

/-- Queue a received external attitude, if there is room for it. -/
def receive {R : Type} (link : AttitudeLink F R C M D) (msg : ExternalAttitudeMsg F) :
    AttitudeLink F R C M D :=
  let events := link.inputs.events
  { link with
    inputs := { link.inputs with
      events := { events with externalAttitudes := (events.externalAttitudes.push msg).1 } } }

/-- Hand the newest external attitude that has been received to the pipeline. -/
def applyExternalAttitudes {R : Type} (link : AttitudeLink F R C M D) : AttitudeLink F R C M D :=
  let applied := CompanionInputs.applyExternalAttitudes
    { link.inputs with externalAttitude := link.pipeline.externalAttitude }
  { inputs := applied
    pipeline := { link.pipeline with externalAttitude := applied.externalAttitude } }

/-- Change the estimator alone. -/
def withEstimator {R : Type} (link : AttitudeLink F R C M D) (estimator : WatchedEstimator F R) :
    AttitudeLink F R C M D :=
  { link with pipeline := { link.pipeline with estimator } }

/-- A link whose estimator has just been reset and has not divided by anything yet. -/
def started {R : Type} [FlightFloat R] (link : AttitudeLink F R C M D) : AttitudeLink F R C M D :=
  link.withEstimator
    { estimator := link.pipeline.estimator.estimator.resetState, divisors := [] }

/-- What the pipeline estimates in, if the input holds a sample newer than the last one. -/
def estimationOf {R : Type} [FlightFloat R] (link : AttitudeLink F R C M D) :
    AttitudeEvent F R → Option (EstimatorCtx F R)
  | .control input =>
    input.sensors.imu.bind fun sample =>
      let last := link.pipeline.resource.lastImuTime
      if last ≠ 0 ∧ last < sample.header.timestamp then
        some
          { sensors := input.sensors, params := input.params
            dt := ControlPipeline.sampleInterval sample.header.timestamp last
            externalAttitude := link.pipeline.externalAttitude }
      else none
  | _ => none

variable [FlightFloat F] [FloatCast F ℝ]

section Events

variable {O : Type} [Controller F ℝ (AttitudeState ℝ) O C] [Mixer F ℝ O M] [PwmDriver ℝ D]

/-- The link after an event. -/
noncomputable def after (link : AttitudeLink F ℝ C M D) :
    AttitudeEvent F ℝ → AttitudeLink F ℝ C M D
  | .received msg => link.receive msg
  | .applyExternalAttitudes => link.applyExternalAttitudes
  | .control input => { link with pipeline := (link.pipeline.runControlPipelineIfNewImu input).1 }
  | .updateParams params =>
    link.withEstimator (Estimator.updateParams link.pipeline.estimator params)
  | .resetAdaptiveBias => link.withEstimator (Estimator.resetAdaptiveBias link.pipeline.estimator)
  | .reset => link.withEstimator (Estimator.reset link.pipeline.estimator)

end Events

omit [FlightFloat F] in
/-- An estimation takes no external attitude of length zero. -/
def TakesDirection (link : AttitudeLink F ℝ C M D) (event : AttitudeEvent F ℝ) : Prop :=
  ∀ ctx ∈ link.estimationOf event, QuadEstimator.Directed ctx.externalAttitude

/-- What the estimation of an event divides by. -/
noncomputable def dividedBy (link : AttitudeLink F ℝ C M D) (event : AttitudeEvent F ℝ) : List ℝ :=
  match link.estimationOf event with
  | some ctx => written (link.pipeline.estimator.estimator.estimate ctx)
  | none => []

section Runs

variable {O : Type} [Controller F ℝ (AttitudeState ℝ) O C] [Mixer F ℝ O M] [PwmDriver ℝ D]

/-- An event estimates in its surroundings, if it has any, and otherwise leaves the attitude and
what it was divided by alone. -/
theorem after_estimator (link : AttitudeLink F ℝ C M D) (event : AttitudeEvent F ℝ) :
    match link.estimationOf event with
    | some ctx => (link.after event).pipeline.estimator =
        (Estimator.estimate link.pipeline.estimator ctx).1
    | none => (link.after event).pipeline.estimator.divisors =
          link.pipeline.estimator.divisors ∧
        (link.pipeline.estimator.estimator.IsUnit →
          (link.after event).pipeline.estimator.estimator.IsUnit) := by
  cases event with
  | received msg => exact ⟨rfl, id⟩
  | applyExternalAttitudes => exact ⟨rfl, id⟩
  | updateParams params => exact ⟨rfl, id⟩
  | resetAdaptiveBias => exact ⟨rfl, id⟩
  | reset => exact ⟨rfl, fun _ => QuadEstimator.isUnit_resetState _⟩
  | control input =>
    have sampled {time : Nat} (present : ControlCall.time ⟨none, input⟩ = some time) :
        ∃ sample, input.sensors.imu = some sample ∧ sample.header.timestamp = time :=
      Option.map_eq_some_iff.mp present
    have effect := ControlPipeline.callEffect link.pipeline { offered := none, input }
    simp only [estimationOf, after]
    -- Only a sample newer than the last one is estimated from.
    generalize link.pipeline.runControlPipelineIfNewImu input = done at effect ⊢
    -- The first sample only starts the clock, and one that is no newer is refused.
    cases effect with
    | noSample absent =>
      rw [Option.map_eq_none_iff.mp absent, Option.bind_none]
      exact ⟨rfl, id⟩
    | started present first =>
      obtain ⟨sample, held, -⟩ := sampled present
      rw [held, Option.bind_some, if_neg fun due => due.1 first]
      exact ⟨rfl, id⟩
    | refused present late =>
      obtain ⟨sample, held, rfl⟩ := sampled present
      rw [held, Option.bind_some, if_neg fun due => late (Or.inr due.2)]
      exact ⟨rfl, id⟩
    | accepted present running newer ran =>
      obtain ⟨sample, held, rfl⟩ := sampled present
      rw [held, Option.bind_some, if_pos ⟨running, newer⟩]
      exact ran.estimator

/-- An event adds what it divides by. -/
theorem divisors_after (link : AttitudeLink F ℝ C M D) (event : AttitudeEvent F ℝ) :
    (link.after event).pipeline.estimator.divisors =
      link.pipeline.estimator.divisors ++ link.dividedBy event := by
  have estimated := link.after_estimator event
  rw [dividedBy]
  -- Only an event that estimates divides by anything.
  cases estimation : link.estimationOf event with
  | some ctx =>
    rw [estimation] at estimated
    rw [estimated]
    rfl
  | none =>
    rw [estimation] at estimated
    rw [estimated.1, List.append_nil]

/-- An estimation without a zero attitude keeps the estimate at unit length. -/
theorem isUnit_after (link : AttitudeLink F ℝ C M D) (event : AttitudeEvent F ℝ)
    (unit : link.pipeline.estimator.estimator.IsUnit) (takes : link.TakesDirection event) :
    (link.after event).pipeline.estimator.estimator.IsUnit := by
  have estimated := link.after_estimator event
  -- An event that does not estimate keeps the estimate, or resets it to the identity.
  cases estimation : link.estimationOf event with
  | some ctx =>
    rw [estimation] at estimated
    have directed := takes ctx estimation
    rw [estimated]
    exact (QuadEstimator.dividesSafely_estimate unit directed).2.1
  | none =>
    rw [estimation] at estimated
    exact estimated.2 unit

end Runs

omit [FlightFloat F] in
/-- An estimation that divides by nothing that is zero has been given no zero attitude. -/
theorem directed_of_written {estimator : QuadEstimator F ℝ} {ctx : EstimatorCtx F ℝ}
    (nonzero : ∀ divisor ∈ written (estimator.estimate ctx), divisor ≠ 0) :
    QuadEstimator.Directed ctx.externalAttitude := by
  intro msg taken none
  -- The length of the attitude is what its components are divided by first.
  have early := ((forall_written_bind _ _).mp nonzero).1
  rw [taken] at early
  have length := ((forall_written_bind _ _).mp early).1
    (QuadEstimator.externalQuaternion msg).norm List.mem_cons_self
  apply length
  rw [FlightQuaternion.norm, none]
  exact Real.sqrt_zero

omit [FlightFloat F] in
/-- From an estimate of unit length, nothing is divided by zero exactly when no zero attitude is
taken. -/
theorem dividedBy_ne_zero_iff {link : AttitudeLink F ℝ C M D} (event : AttitudeEvent F ℝ)
    (unit : link.pipeline.estimator.estimator.IsUnit) :
    (∀ divisor ∈ link.dividedBy event, divisor ≠ 0) ↔ link.TakesDirection event := by
  rw [dividedBy, TakesDirection]
  cases link.estimationOf event with
  | none => simp
  | some ctx =>
    -- The length of the external attitude is itself one of the divisors.
    constructor
    · intro nonzero other same
      obtain rfl := Option.some.inj same
      exact directed_of_written nonzero
    · intro takes
      exact (QuadEstimator.dividesSafely_estimate unit (takes ctx rfl)).1

section Runs

variable {O : Type} [Controller F ℝ (AttitudeState ℝ) O C] [Mixer F ℝ O M] [PwmDriver ℝ D]

/-- From a reset on, no estimation divides by zero exactly as long as none takes an external
attitude of length zero. -/
theorem divisors_ne_zero_iff (link : AttitudeLink F ℝ C M D)
    (events : List (AttitudeEvent F ℝ)) :
    (∀ divisor ∈ (run after link.started events).pipeline.estimator.divisors, divisor ≠ 0) ↔
      Along TakesDirection after link.started events := by
  have fresh : ∀ divisor ∈ link.started.pipeline.estimator.divisors, divisor ≠ 0 := by
    intro divisor member
    exact absurd member List.not_mem_nil
  have unit : link.started.pipeline.estimator.estimator.IsUnit :=
    QuadEstimator.isUnit_resetState _
  -- The estimate is of unit length up to the first zero attitude that is taken.
  have agree := along_congr_while
    (fun reached : AttitudeLink F ℝ C M D => reached.pipeline.estimator.estimator.IsUnit)
    (fun reached event holds takes => reached.isUnit_after event holds takes)
    (fun _ event holds => (dividedBy_ne_zero_iff event holds).symm) unit events
  rw [agree]
  refine (forall_log_run (fun reached : AttitudeLink F ℝ C M D =>
    reached.pipeline.estimator.divisors) divisors_after events).trans ?_
  exact and_iff_right fresh

end Runs

end AttitudeLink

/-- A controller that asks for nothing in any attitude. -/
inductive PassiveController (F R : Type) where
  | mk

noncomputable instance passiveController :
    Controller ℝ ℝ (AttitudeState ℝ) Unit (PassiveController ℝ ℝ) where
  control controller _ _ := (controller, ())
  updateGains controller _ := controller
  calculateEquilibriumTorquesFromRc controller _ _ := (controller, fun _ => 0)

/-- A mixer without outputs. -/
inductive PassiveMixer (F R : Type) where
  | mk

instance passiveMixer : Mixer ℝ ℝ Unit (PassiveMixer ℝ ℝ) where
  mix mixer _ _ := (mixer, { commands := [], status := .healthy })

namespace AttitudeLink

/-- A link as it starts, on a vehicle that only estimates. -/
noncomputable def passiveLink :
    AttitudeLink ℝ ℝ (PassiveController ℝ ℝ) (PassiveMixer ℝ ℝ) (AcceptingDriver ℝ) where
  inputs :=
    { events := {}, commEvents := {}, link := {}, auxCommand := none, externalAttitude := none
      pendingHardError := none }
  pipeline :=
    { resource := {}, externalAttitude := none, state := .new
      estimator := { estimator := .default, divisors := [] }
      controller := .mk, mixer := .mk, pwm := .new 0 fun _ => false }

/-- A sample of a resting vehicle, with nothing else known about it. -/
noncomputable def restingInput (timestamp : Nat) : ControlPipelineInput ℝ ℝ where
  params := .new
  sensors := { imu := some (restingSample timestamp) }
  auxCommand := none
  command := .new
  pwmOutput := .new true

/-- An external attitude all of whose components are zero. -/
noncomputable def zeroAttitude : ExternalAttitudeMsg ℝ := { qw := 0, qx := 0, qy := 0, qz := 0 }

/-- An external attitude without a direction that arrives between two samples. -/
noncomputable def zeroAttitudeEvents : List (AttitudeEvent ℝ ℝ) :=
  [.control (restingInput 1000), .received zeroAttitude, .applyExternalAttitudes,
    .control (restingInput 3500)]

/-- An external attitude without a direction is divided by its length. -/
theorem zeroAttitude_divides :
    ¬ ∀ divisor ∈ (run after passiveLink.started zeroAttitudeEvents).pipeline.estimator.divisors,
      divisor ≠ 0 := by
  intro nonzero
  obtain ⟨-, -, -, -, last, -⟩ := (forall_log_run (fun reached : AttitudeLink ℝ ℝ
    (PassiveController ℝ ℝ) (PassiveMixer ℝ ℝ) (AcceptingDriver ℝ) =>
    reached.pipeline.estimator.divisors) divisors_after zeroAttitudeEvents).mp nonzero
  -- The second sample is newer, and the attitude is waiting for it.
  have directed : QuadEstimator.Directed (some zeroAttitude) := directed_of_written last
  apply directed zeroAttitude rfl
  show (0 * 0 + 0 * 0 + 0 * 0 + 0 * 0 : ℝ) = 0
  norm_num

end AttitudeLink

end Veloxity
