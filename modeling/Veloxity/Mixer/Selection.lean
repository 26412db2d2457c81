import Veloxity.Mixer.Matrix

/-! Which parameters the choice of a mixer depends on, and which only reflect it. -/

namespace Veloxity

open ReflectionFormat (Double)

variable {F R : Type}

/-- Parameters that reflect the primary mixer. -/
def reflectsPrimary : ParamId → Bool
  | .PARAM_PRIMARY_MIXER_OUTPUT _ | .PARAM_PRIMARY_MIXER_PWM_RATE _
  | .PARAM_PRIMARY_MIXER_CELL _ _ => true
  | _ => false

/-- Parameters that reflect the secondary mixer. -/
def reflectsSecondary : ParamId → Bool
  | .PARAM_SECONDARY_MIXER_CELL _ _ => true
  | _ => false

/-- Setting parameters one after another keeps what none of them sets. -/
theorem foldl_getById {α : Type} {step : Params F → α → Params F} {id : ParamId}
    (keeps : ∀ params item, (step params item).getById id = params.getById id)
    (params : Params F) (items : List α) :
    (items.foldl step params).getById id = params.getById id := by
  induction items generalizing params with
  | nil => rfl
  | cons item rest ih => exact (ih (step params item)).trans (keeps params item)

section Reflection

variable [ReflectionFormat F]

/-- Storing a matrix keeps the parameters that are none of its cells. -/
theorem saveMixerMatrixParams_getById (params : Params F)
    {cell : Fin NUM_MIXER_OUTPUTS → Fin NUM_MIXER_OUTPUTS → ParamId}
    (matrix : MixerMatrix (Double F)) {id : ParamId} (other : ∀ row col, id ≠ cell row col) :
    (saveMixerMatrixParams params cell matrix).getById id = params.getById id := by
  -- The cells are set row by row in each column.
  exact foldl_getById (fun params col => foldl_getById
    (fun params row => params.getById_setById_of_ne _ (other row col)) params _) params _

/-- Storing a primary mixer keeps the parameters that do not reflect it. -/
theorem savePrimaryMixerParams_getById (params : Params F)
    (config : CannedMixerConfig (Double F)) {id : ParamId} (other : reflectsPrimary id = false) :
    (savePrimaryMixerParams params config).getById id = params.getById id := by
  have differs {reflecting : ParamId} (reflects : reflectsPrimary reflecting = true) :
      id ≠ reflecting := by
    rintro rfl
    exact absurd (reflects.symm.trans other) (by simp)
  -- Outputs and rates are set first, and the matrix after them.
  unfold savePrimaryMixerParams
  rw [saveMixerMatrixParams_getById _ _ fun row col => differs rfl]
  exact foldl_getById (fun params output =>
    ((params.setById _ _).getById_setById_of_ne _ (differs rfl)).trans
      (params.getById_setById_of_ne _ (differs rfl))) params _

/-- Storing a secondary mixer keeps the parameters that do not reflect it. -/
theorem saveSecondaryMixerParams_getById (params : Params F) (matrix : MixerMatrix (Double F))
    {id : ParamId} (other : reflectsSecondary id = false) :
    (saveSecondaryMixerParams params matrix).getById id = params.getById id := by
  -- Every cell it sets reflects the secondary mixer.
  refine saveMixerMatrixParams_getById params matrix fun row col same => ?_
  rw [same] at other
  exact nomatch other

/-- Reflecting a choice keeps the parameters that reflect neither mixer. -/
theorem syncReflectedMixerParams_getById (params : Params F) (changed : ParamId) {id : ParamId}
    (primary : reflectsPrimary id = false) (secondary : reflectsSecondary id = false) :
    (syncReflectedMixerParams params changed).getById id = params.getById id := by
  unfold syncReflectedMixerParams
  -- A choice is stored in the primary parameters, in the secondary ones or in both.
  split
  · split
    · rfl
    · dsimp only
      split
      · exact savePrimaryMixerParams_getById params _ primary
      · rw [saveSecondaryMixerParams_getById _ _ secondary]
        exact savePrimaryMixerParams_getById params _ primary
  · split
    · rfl
    · exact saveSecondaryMixerParams_getById params _ secondary
  · rfl

/-- Reflecting a choice keeps the integers of parameters that reflect neither mixer. -/
theorem mixerParamInt_syncReflectedMixerParams (params : Params F) (changed : ParamId)
    {id : ParamId} (primary : reflectsPrimary id = false)
    (secondary : reflectsSecondary id = false) :
    mixerParamInt (syncReflectedMixerParams params changed) id = mixerParamInt params id := by
  simp only [mixerParamInt, Params.intOr,
    syncReflectedMixerParams_getById params changed primary secondary]

/-- Reflecting a choice keeps the parameters of a custom primary mixer. -/
theorem syncReflectedMixerParams_primary (params : Params F) (changed : ParamId) {id : ParamId}
    (custom : mixerParamInt params .PARAM_PRIMARY_MIXER = CUSTOM_MIXER)
    (secondary : reflectsSecondary id = false) :
    (syncReflectedMixerParams params changed).getById id = params.getById id := by
  unfold syncReflectedMixerParams
  -- A custom primary mixer is not canned.
  split
  · rw [custom]
    rfl
  · split
    · rfl
    · exact saveSecondaryMixerParams_getById params _ secondary
  · rfl

/-- Reflecting the primary choice keeps the parameters of a secondary mixer with a known number. -/
theorem syncPrimary_getById_of_known (params : Params F) {id : ParamId}
    (known : 0 ≤ mixerParamInt params .PARAM_SECONDARY_MIXER ∧
      mixerParamInt params .PARAM_SECONDARY_MIXER < NUM_MIXERS)
    (primary : reflectsPrimary id = false) :
    (syncReflectedMixerParams params .PARAM_PRIMARY_MIXER).getById id = params.getById id := by
  dsimp only [syncReflectedMixerParams]
  split
  · rfl
  · rename_i config canned
    have chosen : mixerParamInt (savePrimaryMixerParams params config) .PARAM_SECONDARY_MIXER =
        mixerParamInt params .PARAM_SECONDARY_MIXER := by
      simp only [mixerParamInt, Params.intOr]
      rw [savePrimaryMixerParams_getById params config rfl]
    -- Only an unknown secondary choice is replaced by the primary mixer.
    rw [chosen, if_pos known]
    exact savePrimaryMixerParams_getById params config primary

/-- Reflecting a choice keeps the parameters of a custom secondary mixer. -/
theorem syncReflectedMixerParams_secondary (params : Params F) (changed : ParamId) {id : ParamId}
    (custom : mixerParamInt params .PARAM_SECONDARY_MIXER = CUSTOM_MIXER)
    (primary : reflectsPrimary id = false) :
    (syncReflectedMixerParams params changed).getById id = params.getById id := by
  have known : 0 ≤ mixerParamInt params .PARAM_SECONDARY_MIXER ∧
      mixerParamInt params .PARAM_SECONDARY_MIXER < NUM_MIXERS := by
    rw [custom]
    decide
  unfold syncReflectedMixerParams
  -- A custom secondary mixer is known but not canned.
  split
  · exact syncPrimary_getById_of_known params known primary
  · rw [custom]
    rfl
  · rfl

end Reflection

/-- What the chosen mixers make of the outputs. -/
structure MixerSelection (R : Type) where
  outputTypes : MixerOutputs MixerOutputType
  defaultPwmRates : MixerOutputs R
  primaryMixer : MixerMatrix R
  secondaryMixer : MixerMatrix R

variable [FlightFloat R] [FloatCast F R]

section Selection

variable [Svd R]

/-- The mixers the parameters choose, unless the choice is beyond the last one. -/
def mixerSelection (params : Params F) : Option (MixerSelection R) :=
  let primaryChoice := mixerParamInt params .PARAM_PRIMARY_MIXER
  if NUM_MIXERS ≤ primaryChoice then none
  else
    let primary : CannedMixerConfig R := (cannedMixer primaryChoice).getD
      { outputTypes := (outputTypesFromParams params).getD QUAD_X_OUTPUT_TYPES
        defaultPwmRates := (pwmRatesFromParams params).getD fun _ => FlightFloat.lit 50
        matrix := (mixerFromParams params .PARAM_PRIMARY_MIXER .PARAM_PRIMARY_MIXER_CELL).getD
          (matrixFromDefault ((rawCannedMixerMatrix QUAD_X_MIXER_CHOICE).getD [])) }
    some
      { outputTypes := primary.outputTypes
        defaultPwmRates := primary.defaultPwmRates
        primaryMixer := primary.matrix
        secondaryMixer :=
          ((cannedSecondaryMixer (mixerParamInt params .PARAM_SECONDARY_MIXER)).map
            CannedMixerConfig.matrix).getD
            ((mixerFromParams params .PARAM_SECONDARY_MIXER .PARAM_SECONDARY_MIXER_CELL).getD
              primary.matrix) }

/-- A mixer takes over what the parameters choose, or is invalid. -/
theorem MatrixMixer.refreshMixerConfig_eq (mixer : MatrixMixer F R) (params : Params F) :
    mixer.refreshMixerConfig params =
      match mixerSelection params with
      | none => (mixer, .invalidMixer)
      | some selection =>
        ({ mixer with
            outputTypes := selection.outputTypes, defaultPwmRates := selection.defaultPwmRates
            primaryMixer := selection.primaryMixer, secondaryMixer := selection.secondaryMixer },
          .healthy) := by
  unfold refreshMixerConfig mixerSelection
  -- Both read the same choices.
  by_cases beyond : NUM_MIXERS ≤ mixerParamInt params .PARAM_PRIMARY_MIXER
  · simp only [if_pos beyond]
  · simp only [if_neg beyond]
    cases cannedMixer (R := R) (mixerParamInt params .PARAM_PRIMARY_MIXER) <;>
      cases cannedSecondaryMixer (R := R) (mixerParamInt params .PARAM_SECONDARY_MIXER) <;> rfl

omit [Svd R] in
/-- A matrix is only read from the parameters when its choice is custom. -/
theorem mixerFromParams_congr {params other : Params F} {choice : ParamId}
    {cell : Fin NUM_MIXER_OUTPUTS → Fin NUM_MIXER_OUTPUTS → ParamId}
    (chosen : mixerParamInt other choice = mixerParamInt params choice)
    (cells : mixerParamInt params choice = CUSTOM_MIXER →
      ∀ row col, other.getById (cell row col) = params.getById (cell row col)) :
    mixerFromParams (R := R) other choice cell = mixerFromParams params choice cell := by
  unfold mixerFromParams
  rw [chosen]
  by_cases custom : mixerParamInt params choice = CUSTOM_MIXER
  · -- Both read the same cells.
    simp only [mixerParamFloat, cells custom]
  · rw [if_pos custom, if_pos custom]

/-- Parameters that agree on both choices, and on the cells of a custom one, choose alike. -/
theorem mixerSelection_congr {params other : Params F}
    (primary : mixerParamInt other .PARAM_PRIMARY_MIXER =
      mixerParamInt params .PARAM_PRIMARY_MIXER)
    (secondary : mixerParamInt other .PARAM_SECONDARY_MIXER =
      mixerParamInt params .PARAM_SECONDARY_MIXER)
    (primaryCells : mixerParamInt params .PARAM_PRIMARY_MIXER = CUSTOM_MIXER →
      ∀ id, reflectsPrimary id = true → other.getById id = params.getById id)
    (secondaryCells : mixerParamInt params .PARAM_SECONDARY_MIXER = CUSTOM_MIXER →
      ∀ id, reflectsSecondary id = true → other.getById id = params.getById id) :
    mixerSelection (R := R) other = mixerSelection params := by
  -- What a custom mixer is read from is the same, and a canned one is not read.
  have types : outputTypesFromParams other = outputTypesFromParams params := by
    unfold outputTypesFromParams
    rw [primary]
    by_cases custom : mixerParamInt params .PARAM_PRIMARY_MIXER = CUSTOM_MIXER
    · have read (output : Fin NUM_MIXER_OUTPUTS) :
          mixerParamInt other (.PARAM_PRIMARY_MIXER_OUTPUT output) =
            mixerParamInt params (.PARAM_PRIMARY_MIXER_OUTPUT output) := by
        simp only [mixerParamInt, Params.intOr,
          primaryCells custom (.PARAM_PRIMARY_MIXER_OUTPUT output) rfl]
      simp only [read]
    · rw [if_pos custom, if_pos custom]
  have rates : pwmRatesFromParams (R := R) other = pwmRatesFromParams params := by
    unfold pwmRatesFromParams
    rw [primary]
    by_cases custom : mixerParamInt params .PARAM_PRIMARY_MIXER = CUSTOM_MIXER
    · have read (output : Fin NUM_MIXER_OUTPUTS) :=
        primaryCells custom (.PARAM_PRIMARY_MIXER_PWM_RATE output) rfl
      simp only [mixerParamFloat, read]
    · rw [if_pos custom, if_pos custom]
  have primaryMatrix := mixerFromParams_congr (R := R) primary fun custom row col =>
    primaryCells custom (.PARAM_PRIMARY_MIXER_CELL row col) rfl
  have secondaryMatrix := mixerFromParams_congr (R := R) secondary fun custom row col =>
    secondaryCells custom (.PARAM_SECONDARY_MIXER_CELL row col) rfl
  simp only [mixerSelection, primary, secondary, types, rates, primaryMatrix, secondaryMatrix]

/-- Reflecting a choice does not change it. -/
theorem mixerSelection_syncReflectedMixerParams [ReflectionFormat F] (params : Params F)
    (changed : ParamId) :
    mixerSelection (R := R) (syncReflectedMixerParams params changed) = mixerSelection params := by
  refine mixerSelection_congr (mixerParamInt_syncReflectedMixerParams params changed rfl rfl)
    (mixerParamInt_syncReflectedMixerParams params changed rfl rfl) ?_ ?_
  -- Only canned mixers are reflected, and only custom ones are read.
  · intro custom id reflects
    exact syncReflectedMixerParams_primary params changed custom (by
      cases id <;> first | rfl | exact nomatch reflects)
  · intro custom id reflects
    exact syncReflectedMixerParams_secondary params changed custom (by
      cases id <;> first | rfl | exact nomatch reflects)

/-- A parameter that does not decide on the mixer does not change what is chosen. -/
theorem mixerSelection_setById (params : Params F) {id : ParamId} (value : ParamValue F)
    (other : isMixerConfigParam id = false) :
    mixerSelection (R := R) (params.setById id value) = mixerSelection params := by
  have kept {read : ParamId} (decides : isMixerConfigParam read = true) :
      (params.setById id value).getById read = params.getById read := by
    refine params.getById_setById_of_ne value ?_
    rintro rfl
    exact absurd (decides.symm.trans other) (by simp)
  have keptInt {read : ParamId} (decides : isMixerConfigParam read = true) :
      mixerParamInt (params.setById id value) read = mixerParamInt params read := by
    simp only [mixerParamInt, Params.intOr, kept decides]
  -- Choices and cells all decide on the mixer.
  refine mixerSelection_congr (keptInt rfl) (keptInt rfl) ?_ ?_
  · intro _ read reflects
    exact kept (by cases read <;> first | rfl | exact nomatch reflects)
  · intro _ read reflects
    exact kept (by cases read <;> first | rfl | exact nomatch reflects)

end Selection

end Veloxity
