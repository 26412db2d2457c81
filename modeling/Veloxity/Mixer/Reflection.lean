import Veloxity.Mixer.Selection
import Veloxity.Params.ServiceLaws

/-! When the reflected parameters hold the canned mixers that the parameters choose. -/

namespace Veloxity

open ReflectionFormat (Double)

variable {F : Type}

/-- A parameter set by one item, and by no later one, holds what that item sets. -/
theorem foldl_getById_of_mem {α : Type} {step : Params F → α → Params F} {id : ParamId} {item : α}
    {value : ParamValue F} (stores : ∀ params, (step params item).getById id = value)
    (keeps : ∀ params other, other ≠ item → (step params other).getById id = params.getById id)
    {items : List α} (member : item ∈ items) (params : Params F) :
    (items.foldl step params).getById id = value := by
  -- Once it holds the value, another item keeps it and the item itself sets it again.
  have held (items : List α) (params : Params F) (holds : params.getById id = value) :
      (items.foldl step params).getById id = value := by
    induction items generalizing params with
    | nil => exact holds
    | cons other rest ih =>
      apply ih
      by_cases same : other = item
      · rw [same]
        exact stores params
      · rw [keeps params other same, holds]
  induction items generalizing params with
  | nil => cases member
  | cons other rest ih =>
    rcases List.mem_cons.mp member with rfl | later
    · exact held rest _ (stores params)
    · exact ih later _

section Stored

variable [ReflectionFormat F]

/-- A stored matrix is found in its cells. -/
theorem saveMixerMatrixParams_cell (params : Params F)
    {cell : Fin NUM_MIXER_OUTPUTS → Fin NUM_MIXER_OUTPUTS → ParamId}
    (injective : ∀ row col row' col', cell row col = cell row' col' → row = row' ∧ col = col')
    (matrix : MixerMatrix (Double F)) (row col : Fin NUM_MIXER_OUTPUTS) :
    (saveMixerMatrixParams params cell matrix).getById (cell row col) =
      .float (FloatCast.toF32Lossy (matrix row col)) := by
  unfold saveMixerMatrixParams
  -- The cell is set in its own column, by its own row.
  refine foldl_getById_of_mem (fun params => ?_) (fun params other differs => ?_)
    (List.mem_finRange col) params
  · refine foldl_getById_of_mem (fun params => ?_) (fun params other differs => ?_)
      (List.mem_finRange row) params
    · exact params.getById_setById_self _ _
    · exact params.getById_setById_of_ne _ fun same => differs (injective _ _ _ _ same).1.symm
  · refine foldl_getById (fun params other' => ?_) params _
    exact params.getById_setById_of_ne _ fun same => differs (injective _ _ _ _ same).2.symm

/-- The parameters of the primary mixer hold this configuration. -/
structure HoldsPrimary (params : Params F) (config : CannedMixerConfig (Double F)) : Prop where
  outputs : ∀ output, params.getById (.PARAM_PRIMARY_MIXER_OUTPUT output) =
    .int (mixerOutputTypeToRosflight (config.outputTypes output))
  rates : ∀ output, params.getById (.PARAM_PRIMARY_MIXER_PWM_RATE output) =
    .float (FloatCast.toF32Lossy (config.defaultPwmRates output))
  matrix : ∀ row col, params.getById (.PARAM_PRIMARY_MIXER_CELL row col) =
    .float (FloatCast.toF32Lossy (config.matrix row col))

/-- The parameters of the secondary mixer hold this matrix. -/
structure HoldsSecondary (params : Params F) (matrix : MixerMatrix (Double F)) : Prop where
  matrix : ∀ row col, params.getById (.PARAM_SECONDARY_MIXER_CELL row col) =
    .float (FloatCast.toF32Lossy (matrix row col))

/-- A stored primary mixer is held. -/
theorem holdsPrimary_savePrimaryMixerParams (params : Params F)
    (config : CannedMixerConfig (Double F)) :
    HoldsPrimary (savePrimaryMixerParams params config) config := by
  have apart (output other : Fin NUM_MIXER_OUTPUTS) :
      ParamId.PARAM_PRIMARY_MIXER_OUTPUT output ≠ .PARAM_PRIMARY_MIXER_PWM_RATE other := nofun
  -- The matrix is set last, and has no cell among the outputs and the rates.
  have before {id : ParamId} (other : ∀ row col, id ≠ .PARAM_PRIMARY_MIXER_CELL row col) :
      (savePrimaryMixerParams params config).getById id = _ :=
    saveMixerMatrixParams_getById _ config.matrix other
  refine ⟨fun output => ?_, fun output => ?_, fun row col => ?_⟩
  · rw [before (by simp)]
    refine foldl_getById_of_mem (fun params => ?_) (fun params other differs => ?_)
      (List.mem_finRange output) params
    · rw [Params.getById_setById_of_ne _ _ (apart output output), Params.getById_setById_self]
    · have distinct : ParamId.PARAM_PRIMARY_MIXER_OUTPUT output ≠
          .PARAM_PRIMARY_MIXER_OUTPUT other :=
        fun same => differs (ParamId.PARAM_PRIMARY_MIXER_OUTPUT.inj same).symm
      rw [Params.getById_setById_of_ne _ _ (apart output other),
        Params.getById_setById_of_ne _ _ distinct]
  · rw [before (by simp)]
    refine foldl_getById_of_mem (fun params => ?_) (fun params other differs => ?_)
      (List.mem_finRange output) params
    · rw [Params.getById_setById_self]
    · have distinct : ParamId.PARAM_PRIMARY_MIXER_PWM_RATE output ≠
          .PARAM_PRIMARY_MIXER_PWM_RATE other :=
        fun same => differs (ParamId.PARAM_PRIMARY_MIXER_PWM_RATE.inj same).symm
      rw [Params.getById_setById_of_ne _ _ distinct,
        Params.getById_setById_of_ne _ _ (apart other output).symm]
  · exact saveMixerMatrixParams_cell _
      (fun _ _ _ _ same => ParamId.PARAM_PRIMARY_MIXER_CELL.inj same) config.matrix row col

/-- A stored secondary mixer is held. -/
theorem holdsSecondary_saveSecondaryMixerParams (params : Params F)
    (matrix : MixerMatrix (Double F)) :
    HoldsSecondary (saveSecondaryMixerParams params matrix) matrix :=
  ⟨saveMixerMatrixParams_cell params
    (fun _ _ _ _ same => ParamId.PARAM_SECONDARY_MIXER_CELL.inj same) matrix⟩

end Stored

section Reflected

variable [ReflectionFormat F]

/-- If the primary choice is a canned mixer, its parameters hold that mixer. -/
def PrimaryReflected (params : Params F) : Prop :=
  ∀ config, cannedMixer (mixerParamInt params .PARAM_PRIMARY_MIXER) = some config →
    HoldsPrimary params config

/-- If the secondary choice is a canned mixer, its parameters hold that mixer's matrix. -/
def SecondaryReflected (params : Params F) : Prop :=
  ∀ config, cannedSecondaryMixer (mixerParamInt params .PARAM_SECONDARY_MIXER) = some config →
    HoldsSecondary params config.matrix

/-- Both choices are reflected. -/
structure MixersReflected (params : Params F) : Prop where
  primary : PrimaryReflected params
  secondary : SecondaryReflected params

/-- Whether the primary choice is reflected depends on it and its parameters alone. -/
theorem primaryReflected_congr {params other : Params F}
    (choice : other.getById .PARAM_PRIMARY_MIXER = params.getById .PARAM_PRIMARY_MIXER)
    (reflected : ∀ id, reflectsPrimary id = true → other.getById id = params.getById id) :
    PrimaryReflected other ↔ PrimaryReflected params := by
  -- Holding a canned mixer only reads reflected parameters.
  have chosen : mixerParamInt other .PARAM_PRIMARY_MIXER =
      mixerParamInt params .PARAM_PRIMARY_MIXER := by
    simp only [mixerParamInt, Params.intOr, choice]
  have holds (config : CannedMixerConfig (Double F)) :
      HoldsPrimary other config ↔ HoldsPrimary params config := by
    constructor
    · rintro ⟨outputs, rates, matrix⟩
      exact ⟨fun output => (reflected _ rfl).symm.trans (outputs output),
        fun output => (reflected _ rfl).symm.trans (rates output),
        fun row col => (reflected _ rfl).symm.trans (matrix row col)⟩
    · rintro ⟨outputs, rates, matrix⟩
      exact ⟨fun output => (reflected _ rfl).trans (outputs output),
        fun output => (reflected _ rfl).trans (rates output),
        fun row col => (reflected _ rfl).trans (matrix row col)⟩
  simp only [PrimaryReflected, chosen, holds]

/-- Whether the secondary choice is reflected depends on it and its parameters alone. -/
theorem secondaryReflected_congr {params other : Params F}
    (choice : other.getById .PARAM_SECONDARY_MIXER = params.getById .PARAM_SECONDARY_MIXER)
    (reflected : ∀ id, reflectsSecondary id = true → other.getById id = params.getById id) :
    SecondaryReflected other ↔ SecondaryReflected params := by
  -- Holding a canned matrix only reads reflected parameters.
  have chosen : mixerParamInt other .PARAM_SECONDARY_MIXER =
      mixerParamInt params .PARAM_SECONDARY_MIXER := by
    simp only [mixerParamInt, Params.intOr, choice]
  have holds (matrix : MixerMatrix (Double F)) :
      HoldsSecondary other matrix ↔ HoldsSecondary params matrix :=
    ⟨fun held => ⟨fun row col => (reflected _ rfl).symm.trans (held.matrix row col)⟩,
      fun held => ⟨fun row col => (reflected _ rfl).trans (held.matrix row col)⟩⟩
  simp only [SecondaryReflected, chosen, holds]

/-- Every canned mixer has a known number. -/
theorem known_of_cannedSecondaryMixer {choice : Int} {config : CannedMixerConfig (Double F)}
    (canned : cannedSecondaryMixer choice = some config) : 0 ≤ choice ∧ choice < NUM_MIXERS := by
  have raw : (rawCannedMixerMatrix choice).isSome = true := by
    unfold cannedSecondaryMixer at canned
    split at canned
    · rename_i rows found
      rw [found]
      rfl
    · cases canned
  -- The table lists the numbers from zero on, up to the one before the custom mixer.
  unfold rawCannedMixerMatrix at raw
  split at raw
  case h_12 => cases raw
  all_goals decide

/-- Reflecting the primary choice leaves it reflected. -/
theorem primaryReflected_syncPrimary (params : Params F) :
    PrimaryReflected (syncReflectedMixerParams params .PARAM_PRIMARY_MIXER) := by
  intro config canned
  have chosen : mixerParamInt (syncReflectedMixerParams params .PARAM_PRIMARY_MIXER)
      .PARAM_PRIMARY_MIXER = mixerParamInt params .PARAM_PRIMARY_MIXER :=
    mixerParamInt_syncReflectedMixerParams params _ rfl rfl
  rw [chosen] at canned
  have held := holdsPrimary_savePrimaryMixerParams params config
  -- A stored secondary mixer keeps what reflects the primary one.
  simp only [syncReflectedMixerParams, canned]
  split
  · exact held
  · exact ⟨fun output => (saveSecondaryMixerParams_getById _ _ rfl).trans (held.outputs output),
      fun output => (saveSecondaryMixerParams_getById _ _ rfl).trans (held.rates output),
      fun row col => (saveSecondaryMixerParams_getById _ _ rfl).trans (held.matrix row col)⟩

/-- Reflecting the secondary choice leaves it reflected. -/
theorem secondaryReflected_syncSecondary (params : Params F) :
    SecondaryReflected (syncReflectedMixerParams params .PARAM_SECONDARY_MIXER) := by
  -- The chosen matrix is saved, and the choice stays.
  intro config canned
  have chosen : mixerParamInt (syncReflectedMixerParams params .PARAM_SECONDARY_MIXER)
      .PARAM_SECONDARY_MIXER = mixerParamInt params .PARAM_SECONDARY_MIXER :=
    mixerParamInt_syncReflectedMixerParams params _ rfl rfl
  rw [chosen] at canned
  simp only [syncReflectedMixerParams, canned]
  exact holdsSecondary_saveSecondaryMixerParams params config.matrix

/-- Reflecting the secondary choice keeps what reflects the primary one. -/
theorem primaryReflected_syncSecondary (params : Params F) :
    PrimaryReflected (syncReflectedMixerParams params .PARAM_SECONDARY_MIXER) ↔
      PrimaryReflected params := by
  have kept {id : ParamId} (other : reflectsSecondary id = false) :
      (syncReflectedMixerParams params .PARAM_SECONDARY_MIXER).getById id = params.getById id := by
    dsimp only [syncReflectedMixerParams]
    split
    · rfl
    · exact saveSecondaryMixerParams_getById params _ other
  refine primaryReflected_congr (kept rfl) fun id reflects => kept ?_
  -- No parameter reflects both.
  cases id with
  | PARAM_SECONDARY_MIXER_CELL row col => cases reflects
  | _ => rfl

/-- Reflecting the primary choice keeps what reflects the secondary one, if that is canned. -/
theorem secondaryReflected_syncPrimary (params : Params F) :
    SecondaryReflected (syncReflectedMixerParams params .PARAM_PRIMARY_MIXER) ↔
      SecondaryReflected params := by
  -- A known secondary choice is spared when the primary one is reflected.
  have chosen : mixerParamInt (syncReflectedMixerParams params .PARAM_PRIMARY_MIXER)
      .PARAM_SECONDARY_MIXER = mixerParamInt params .PARAM_SECONDARY_MIXER :=
    mixerParamInt_syncReflectedMixerParams params _ rfl rfl
  by_cases known : 0 ≤ mixerParamInt params .PARAM_SECONDARY_MIXER ∧
      mixerParamInt params .PARAM_SECONDARY_MIXER < NUM_MIXERS
  · have kept {id : ParamId} (other : reflectsPrimary id = false) :
        (syncReflectedMixerParams params .PARAM_PRIMARY_MIXER).getById id = params.getById id :=
      syncPrimary_getById_of_known params known other
    refine secondaryReflected_congr (kept rfl) fun id reflects => kept ?_
    cases id with
    | PARAM_SECONDARY_MIXER_CELL row col => rfl
    | _ => cases reflects
  · -- An unknown choice is not canned, so nothing has to reflect it.
    have unknown (other : Params F) (same : mixerParamInt other .PARAM_SECONDARY_MIXER =
        mixerParamInt params .PARAM_SECONDARY_MIXER) : SecondaryReflected other := by
      intro config canned
      rw [same] at canned
      exact absurd (known_of_cannedSecondaryMixer canned) known
    exact iff_of_true (unknown _ chosen) (unknown _ rfl)

end Reflected

section Requested

variable [FlightFloat F] [ReflectionFormat F]

/-- A property of the parameters says that a choice is reflected: it depends on the choice and its
parameters alone, reflecting the choice establishes it and reflecting another one keeps it. -/
structure Mirrors (choice : ParamId) (reflects : ParamId → Bool) (holds : Params F → Prop) :
    Prop where
  congr : ∀ {params other : Params F}, other.getById choice = params.getById choice →
    (∀ id, reflects id = true → other.getById id = params.getById id) →
      (holds other ↔ holds params)
  synced : ∀ params, holds (syncReflectedMixerParams params choice)
  kept : ∀ params changed, changed ≠ choice →
    (holds (syncReflectedMixerParams params changed) ↔ holds params)
  default : holds Params.new

/-- Being reflected is such a property of the primary choice. -/
theorem mirrors_primary :
    Mirrors .PARAM_PRIMARY_MIXER reflectsPrimary (PrimaryReflected : Params F → Prop) where
  congr := primaryReflected_congr
  synced := primaryReflected_syncPrimary
  kept params changed other := by
    by_cases secondary : changed = .PARAM_SECONDARY_MIXER
    · rw [secondary]
      exact primaryReflected_syncSecondary params
    · rw [syncReflectedMixerParams_of_other params (by simp [isMixerChoiceParam, other, secondary])]
  -- No canned mixer has the default number.
  default := nofun

/-- Being reflected is such a property of the secondary choice. -/
theorem mirrors_secondary :
    Mirrors .PARAM_SECONDARY_MIXER reflectsSecondary (SecondaryReflected : Params F → Prop) where
  congr := secondaryReflected_congr
  synced := secondaryReflected_syncSecondary
  kept params changed other := by
    -- The primary choice writes fields of its own, and other parameters write none.
    by_cases primary : changed = .PARAM_PRIMARY_MIXER
    · rw [primary]
      exact secondaryReflected_syncPrimary params
    · rw [syncReflectedMixerParams_of_other params (by simp [isMixerChoiceParam, other, primary])]
  default := nofun

variable {choice : ParamId} {reflects : ParamId → Bool} {holds : Params F → Prop}

/-- Setting a parameter that neither is the choice nor reflects it keeps the property. -/
theorem Mirrors.setById (mirrors : Mirrors choice reflects holds) (params : Params F) {id : ParamId}
    (value : ParamValue F) (other : id ≠ choice) (spared : reflects id = false) :
    holds (params.setById id value) ↔ holds params := by
  -- The written parameter is none of those the property reads.
  refine mirrors.congr (params.getById_setById_of_ne value other.symm) fun named reflected => ?_
  refine params.getById_setById_of_ne value ?_
  rintro rfl
  rw [spared] at reflected
  cases reflected

/-- After a request a choice is reflected exactly if it was before, or the request names it. -/
theorem Mirrors.commit (mirrors : Mirrors choice reflects holds) (params : Params F)
    {request : ParamSetRequested F}
    (spares : ∀ id, request.accepted = some id → reflects id = false) :
    holds (request.commit params) ↔ holds params ∨ request.accepted = some choice := by
  unfold ParamSetRequested.commit
  cases accepted : request.accepted with
  | none => simp
  | some id =>
    by_cases named : id = choice
    · rw [named]
      exact iff_of_true (mirrors.synced _) (.inr rfl)
    · have apart : (some id : Option ParamId) ≠ some choice := fun same =>
        named (Option.some.inj same)
      -- Another parameter is set, and another choice reflected.
      rw [or_iff_left apart]
      dsimp only
      rw [mirrors.kept _ id named]
      split
      · exact Iff.rfl
      · exact mirrors.setById params request.value named (spares id accepted)

/-- After some requests a choice is reflected exactly if it was before, or one of them names it. -/
theorem Mirrors.requestedParams (mirrors : Mirrors choice reflects holds) (params : Params F)
    {requests : List (ParamSetRequested F)}
    (spares : ∀ request ∈ requests, ∀ id, request.accepted = some id → reflects id = false) :
    holds (requestedParams params requests) ↔
      holds params ∨ ∃ request ∈ requests, request.accepted = some choice := by
  induction requests generalizing params with
  | nil => simp [Veloxity.requestedParams]
  | cons request rest ih =>
    have later := ih (request.commit params) fun other member =>
      spares other (List.mem_cons_of_mem _ member)
    have first := mirrors.commit params (spares request List.mem_cons_self)
    -- The rest finds what the first request leaves.
    simp only [List.mem_cons, exists_eq_or_imp, ← or_assoc, ← first, ← later]
    rfl

end Requested

end Veloxity
