import Veloxity.Mixer.Reflection
import Veloxity.World.OnboardParams

/-! When the reflected mixer parameters say what the vehicle mixes with. -/

namespace Veloxity

open Library (Along along_congr_given)

variable {F R S O E C M D : Type}

/-- None of the parameters that the vehicle sets itself decides whether a choice is reflected. -/
theorem Mirrors.sameButOnboard [FlightFloat F] [ReflectionFormat F] {choice : ParamId}
    {reflects : ParamId → Bool} {holds : Params F → Prop} (mirrors : Mirrors choice reflects holds)
    (apart : choice ∉ onboardParams) (spares : ∀ id, reflects id = true → id ∉ onboardParams)
    {params other : Params F} (same : SameButOnboard params other) : holds other ↔ holds params :=
  mirrors.congr (same choice apart) fun id reflected => same id (spares id reflected)

/-- A parameter that reflects a mixer is none that the vehicle sets itself. -/
theorem not_mem_onboardParams_of_reflects {id : ParamId}
    (reflects : reflectsPrimary id = true ∨ reflectsSecondary id = true) : id ∉ onboardParams := by
  intro own
  -- The vehicle's own parameters are few enough to be looked at.
  have neither :
      ∀ id ∈ onboardParams, ¬(reflectsPrimary id = true ∨ reflectsSecondary id = true) := by
    decide
  exact neither id own reflects

namespace World

section Definitions

variable [FlightFloat F] [FlightFloat R] [FloatCast F R] [ReflectionFormat F] [Estimator F R S E]
  [Controller F R S O C] [Mixer F R O M] [PwmDriver R D]

/-- The companion asks for no change of a parameter that reflects a mixer. -/
def SparesReflected (world : World F R E C M D) (stage : Stage F R) : Prop :=
  ∀ input, stage.received = some input → ∀ request ∈ world.admittedSets input,
    ∀ id, request.accepted = some id → reflectsPrimary id = false ∧ reflectsSecondary id = false

/-- After a communication stage both mixer choices are reflected. -/
def ReflectsMixers (world : World F R E C M D) (stage : Stage F R) : Prop :=
  ∀ input, stage.received = some input → MixersReflected (world.stage stage).params

/-- The companion has a choice reflected by a request that names it. -/
def NamesChoice (world : World F R E C M D) (input : CommStageInput F) (choice : ParamId) : Prop :=
  ∃ request ∈ world.admittedSets input, request.accepted = some choice

/-- What a communication stage reads from storage reflects both choices, as far as no later
request of the same stage has them reflected. -/
def LoadsReflected (world : World F R E C M D) (stage : Stage F R) : Prop :=
  ∀ input, stage.received = some input → ∀ loaded, world.loadedParams input = some loaded →
    (PrimaryReflected loaded ∨ world.NamesChoice input .PARAM_PRIMARY_MIXER) ∧
      (SecondaryReflected loaded ∨ world.NamesChoice input .PARAM_SECONDARY_MIXER)

end Definitions

section Laws

variable [FlightFloat F] [ReflectionFormat F] [Controller F R S O C] [Estimator F R S E]
  [Mixer F R O M]

/-- Where a choice was reflected, a communication stage leaves it reflected exactly if what it
reads from storage reflects it, or a later request has it reflected. -/
theorem mirrors_communication {choice : ParamId} {reflects : ParamId → Bool}
    {holds : Params F → Prop} (mirrors : Mirrors choice reflects holds)
    (apart : choice ∉ onboardParams) (own : ∀ id, reflects id = true → id ∉ onboardParams)
    {world : World F R E C M D} {input : CommStageInput F} (held : holds world.params)
    (spares : ∀ request ∈ world.admittedSets input, ∀ id, request.accepted = some id →
      reflects id = false) :
    holds (world.runCommunicationAndParameterServiceStage input).params ↔
      ∀ loaded, world.loadedParams input = some loaded →
        holds loaded ∨ world.NamesChoice input choice := by
  obtain ⟨base, left, served⟩ := world.params_commanded input
  have based : holds base := by
    rcases left with ⟨_, same⟩ | ⟨_, same⟩
    · exact (mirrors.sameButOnboard apart own same).mpr mirrors.default
    · exact (mirrors.sameButOnboard apart own same).mpr held
  -- The requests find what was read, or else what resets and the vehicle itself have left.
  rw [mirrors.sameButOnboard apart own (world.sameButOnboard_communication input),
    params_serveReceived, mirrors.requestedParams _ spares, served]
  cases read : world.loadedParams input with
  | none => simp [based]
  | some loaded => simp [NamesChoice]

variable [FlightFloat R] [FloatCast F R] [PwmDriver R D]

/-- Where both choices were reflected, a stage leaves them reflected exactly if what it reads from
storage reflects them. -/
theorem reflectsMixers_iff {world : World F R E C M D} (stage : Stage F R)
    (held : MixersReflected world.params) (spares : world.SparesReflected stage) :
    world.ReflectsMixers stage ↔ world.LoadsReflected stage := by
  -- Each choice mirrors its parameters on its own.
  have each (input : CommStageInput F) (receives : stage.received = some input) :
      MixersReflected (world.stage stage).params ↔
        ∀ loaded, world.loadedParams input = some loaded →
          (PrimaryReflected loaded ∨ world.NamesChoice input .PARAM_PRIMARY_MIXER) ∧
            (SecondaryReflected loaded ∨ world.NamesChoice input .PARAM_SECONDARY_MIXER) := by
    have primary := mirrors_communication mirrors_primary (by decide)
      (fun id reflects => not_mem_onboardParams_of_reflects (.inl reflects)) held.primary
      fun request member id accepted => (spares input receives request member id accepted).1
    have secondary := mirrors_communication mirrors_secondary (by decide)
      (fun id reflects => not_mem_onboardParams_of_reflects (.inr reflects)) held.secondary
      fun request member id accepted => (spares input receives request member id accepted).2
    obtain rfl := Stage.eq_communication receives
    constructor
    · intro reflected loaded read
      exact ⟨primary.mp reflected.primary loaded read, secondary.mp reflected.secondary loaded read⟩
    · intro loads
      exact ⟨primary.mpr fun loaded read => (loads loaded read).1,
        secondary.mpr fun loaded read => (loads loaded read).2⟩
  exact forall₂_congr each

/-- A stage after which both choices have to be reflected leaves them so, and any other keeps
them. -/
theorem mixersReflected_stage {world : World F R E C M D} {stage : Stage F R}
    (held : MixersReflected world.params) (reflects : world.ReflectsMixers stage) :
    MixersReflected (world.stage stage).params := by
  -- Other stages set the vehicle's own parameters only.
  cases receives : stage.received with
  | some input => exact reflects input receives
  | none =>
    have same := world.sameButOnboard_of_not_communication receives
    exact ⟨(mirrors_primary.sameButOnboard (by decide)
        (fun id reflects => not_mem_onboardParams_of_reflects (.inl reflects)) same).mpr
          held.primary,
      (mirrors_secondary.sameButOnboard (by decide)
        (fun id reflects => not_mem_onboardParams_of_reflects (.inr reflects)) same).mpr
        held.secondary⟩

omit [Controller F R S O C] [Estimator F R S E] [Mixer F R O M] [FlightFloat R] [FloatCast F R]
  [PwmDriver R D] [FlightFloat F] in
/-- At the start both choices are reflected. -/
theorem mixersReflected_initialParams (params : Params F) :
    MixersReflected (initialParams params) :=
  -- The secondary choice is reflected last, which keeps the primary one's parameters.
  ⟨(primaryReflected_syncSecondary _).mpr (primaryReflected_syncPrimary params),
    secondaryReflected_syncSecondary _⟩

/-- In every run whose requests spare the reflected parameters, both choices are reflected after
every communication stage exactly if everything read from storage reflects them. -/
theorem reflectsMixers_along_iff (params : Params F) (state : StateManager) (estimator : E)
    (controller : C) (mixer : M) (pwm : D) (nowUs : Nat) (backup : Option RosflightHardErrorMsg)
    {stages : List (Stage F R)}
    (spares : Along SparesReflected stage
      (World.init params state estimator controller mixer pwm nowUs backup) stages) :
    Along ReflectsMixers stage
        (World.init params state estimator controller mixer pwm nowUs backup) stages ↔
      Along LoadsReflected stage
        (World.init params state estimator controller mixer pwm nowUs backup) stages :=
  along_congr_given (fun world => MixersReflected world.params)
    (fun _ _ held _ reflects => mixersReflected_stage held reflects)
    (fun _ stage held spared => reflectsMixers_iff stage held spared)
    (mixersReflected_initialParams params) spares

omit [Estimator F R S E] [Mixer F R O M] [FlightFloat R] [FloatCast F R] [PwmDriver R D]
  [ReflectionFormat F] in
/-- A companion that asks for no change spares the reflected parameters. -/
theorem sparesReflected_of_silent {world : World F R E C M D} {input : CommStageInput F}
    (silent : (world.admittedSets input).length = 0) :
    world.SparesReflected (.communication input : Stage F R) := by
  -- There is no request to look at.
  intro given receives request member
  obtain rfl : input = given := Option.some.inj receives
  rw [List.eq_nil_of_length_eq_zero silent] at member
  cases member

omit [Estimator F R S E] [Mixer F R O M] [FlightFloat R] [FloatCast F R] [PwmDriver R D] in
/-- What chooses no mixer reflects its choices. -/
theorem loadsReflected_of_unchosen {world : World F R E C M D} {input : CommStageInput F}
    (unchosen : (world.loadedParams input).map (fun loaded =>
      (mixerParamInt loaded .PARAM_PRIMARY_MIXER, mixerParamInt loaded .PARAM_SECONDARY_MIXER)) =
        some (-1, -1)) :
    world.LoadsReflected (.communication input : Stage F R) := by
  intro given receives loaded read
  obtain rfl : input = given := Option.some.inj receives
  rw [read] at unchosen
  obtain ⟨primary, secondary⟩ := Prod.mk.inj (Option.some.inj unchosen)
  -- No canned mixer has that number.
  refine ⟨.inl fun config canned => ?_, .inl fun config canned => ?_⟩
  · rw [primary] at canned
    cases canned
  · rw [secondary] at canned
    cases canned

end Laws

end World

/-- A companion that has the parameters read from storage as they are. -/
def readingInput : CommStageInput ℚ where
  incoming := [.cmd .readParams]
  clock := { timesyncUs := 1000, offboardUs := 1000 }
  storage := { readParams := fun _ params => (params, true), writeParams := fun _ _ => true }
  reactionUs := 1000

/-- They reflect the mixers they choose before and after. -/
theorem readingInput_reflected :
    Along World.ReflectsMixers World.stage defaultBench [.communication readingInput] := by
  -- The image it reads chooses no mixer.
  have silent : (defaultBench.admittedSets readingInput).length = 0 := by decide +kernel
  have unchosen : (defaultBench.loadedParams readingInput).map (fun loaded =>
      (mixerParamInt loaded .PARAM_PRIMARY_MIXER, mixerParamInt loaded .PARAM_SECONDARY_MIXER)) =
        some (-1, -1) := by
    decide +kernel
  have spares : Along World.SparesReflected World.stage defaultBench
      [.communication readingInput] :=
    ⟨World.sparesReflected_of_silent silent, trivial⟩
  have loads : Along World.LoadsReflected World.stage defaultBench
      [.communication readingInput] :=
    ⟨World.loadsReflected_of_unchosen unchosen, trivial⟩
  exact (World.reflectsMixers_along_iff Params.new StateManager.new IdleEstimator.mk
    IdleController.mk (MatrixMixer.new Params.new) (AcceptingDriver.new 4 fun _ => false) 0 none
    spares).mpr loads

/-- A companion that has parameters read which choose the mixer of a quadrotor and hold none. -/
def staleImageInput : CommStageInput ℚ where
  incoming := [.cmd .readParams]
  clock := { timesyncUs := 1000, offboardUs := 1000 }
  storage :=
    { readParams := fun _ params =>
        (params.setById .PARAM_PRIMARY_MIXER (.int QUAD_X_MIXER_CHOICE), true)
      writeParams := fun _ _ => true }
  reactionUs := 1000

/-- The first output goes on to be reported as an auxiliary one, although it drives a motor. -/
theorem staleImageInput_unreflected :
    ¬ Along World.ReflectsMixers World.stage defaultBench [.communication staleImageInput] := by
  -- The image chooses a mixer whose first output is a motor.
  have chosen : mixerParamInt (defaultBench.stage (.communication staleImageInput)).params
      .PARAM_PRIMARY_MIXER = QUAD_X_MIXER_CHOICE := by
    decide +kernel
  have reported : mixerParamInt (defaultBench.stage (.communication staleImageInput)).params
      (.PARAM_PRIMARY_MIXER_OUTPUT 0) = 0 := by
    decide +kernel
  rintro ⟨reflects, _⟩
  have held := (reflects staleImageInput rfl).primary
  obtain ⟨config, canned⟩ : ∃ config : CannedMixerConfig ℚ,
      cannedMixer QUAD_X_MIXER_CHOICE = some config ∧ config.outputTypes 0 = .motor :=
    ⟨_, rfl, rfl⟩
  have output := (held config (chosen ▸ canned.1)).outputs 0
  rw [mixerParamInt, Params.intOr, output, canned.2] at reported
  exact absurd reported (by decide)

end Veloxity
