import Veloxity.Library.Run
import Veloxity.Params.ServiceLaws

/-! Parameters whose integers are signed machine words, as the companion can set them. -/

namespace Veloxity

open ReflectionFormat (Double)

variable {F : Type}

/-- The value is a signed 32-bit word if it is an integer. -/
def ParamValue.IsWord (value : ParamValue F) : Prop :=
  ∀ word, value = .int word → -2147483648 ≤ word ∧ word < 2147483648

/-- Floating-point numbers are no integers. -/
theorem ParamValue.isWord_float (value : F) : (ParamValue.float value).IsWord := nofun

/-- A table of parameters whose integers are signed 32-bit words. -/
structure WordParams (F : Type) where
  params : Params F
  words : ∀ id, (params.getById id).IsWord

/-- An integer read from the table is a word if the one to fall back on is. -/
theorem WordParams.intOr_lt (table : WordParams F) (id : ParamId) {fallback : Int}
    (small : fallback < 2147483648) : table.params.intOr id fallback < 2147483648 := by
  unfold Params.intOr
  -- A parameter of another type falls back.
  cases value : table.params.getById id with
  | int word => exact (table.words id word value).2
  | _ => exact small

/-- The defaults are words. -/
def WordParams.new [FlightFloat F] : WordParams F where
  params := Params.new
  words id := by
    rintro word same
    cases id <;> cases same <;> decide

/-- A request to change a parameter, as it comes over the link. -/
structure WordRequest (F : Type) where
  request : ParamSetRequested F
  word : request.value.IsWord

/-- A parameter set to a word leaves a table of words. -/
theorem words_setById {params : Params F} (words : ∀ id, (params.getById id).IsWord)
    {changed : ParamId} {value : ParamValue F} (word : value.IsWord) (id : ParamId) :
    ((params.setById changed value).getById id).IsWord := by
  -- Only the parameter that is set has a new value.
  by_cases same : id = changed
  · subst same
    rw [Params.getById_setById_self]
    exact word
  · rw [Params.getById_setById_of_ne _ _ same]
    exact words id

/-- Setting parameters one after another keeps a table of words if each setting does. -/
theorem words_foldl {α : Type} {step : Params F → α → Params F}
    (keeps : ∀ params item, (∀ id, (params.getById id).IsWord) →
      ∀ id, ((step params item).getById id).IsWord)
    {params : Params F} (words : ∀ id, (params.getById id).IsWord) (items : List α) :
    ∀ id, ((items.foldl step params).getById id).IsWord := by
  induction items generalizing params with
  | nil => exact words
  | cons item rest ih => exact ih (keeps params item words)

variable [ReflectionFormat F]

/-- Storing a matrix sets floating-point numbers only. -/
theorem words_saveMixerMatrixParams {params : Params F} (words : ∀ id, (params.getById id).IsWord)
    (cell : Fin NUM_MIXER_OUTPUTS → Fin NUM_MIXER_OUTPUTS → ParamId)
    (matrix : MixerMatrix (Double F)) :
    ∀ id, ((saveMixerMatrixParams params cell matrix).getById id).IsWord :=
  words_foldl (fun _ _ words => words_foldl
    (fun _ _ words => words_setById words (ParamValue.isWord_float _)) words _) words _

/-- Storing a primary mixer sets small integers and floating-point numbers. -/
theorem words_savePrimaryMixerParams {params : Params F}
    (words : ∀ id, (params.getById id).IsWord) (config : CannedMixerConfig (Double F)) :
    ∀ id, ((savePrimaryMixerParams params config).getById id).IsWord := by
  have small (outputType : MixerOutputType) :
      (ParamValue.int (F := F) (mixerOutputTypeToRosflight outputType)).IsWord := by
    rintro word same
    obtain rfl := ParamValue.int.inj same
    cases outputType <;> decide
  -- The output types and rates are set one after another, then the matrix.
  exact words_saveMixerMatrixParams (words_foldl (fun _ _ words =>
    words_setById (words_setById words (small _)) (ParamValue.isWord_float _)) words _) _ _

/-- Reflecting the choice of a mixer keeps a table of words. -/
theorem words_syncReflectedMixerParams {params : Params F}
    (words : ∀ id, (params.getById id).IsWord) (changed : ParamId) :
    ∀ id, ((syncReflectedMixerParams params changed).getById id).IsWord := by
  unfold syncReflectedMixerParams
  split
  · split
    · exact words
    · dsimp only
      -- The secondary mixer follows the primary one unless it has a choice of its own.
      split
      · exact words_savePrimaryMixerParams words _
      · exact words_saveMixerMatrixParams (words_savePrimaryMixerParams words _) _ _
  · split
    · exact words
    · exact words_saveMixerMatrixParams words _ _
  · exact words

/-- The table as a request leaves it. -/
def WordParams.commit [FlightFloat F] (table : WordParams F) (request : WordRequest F) :
    WordParams F where
  params := request.request.commit table.params
  words := by
    unfold ParamSetRequested.commit
    split
    · exact table.words
    · -- An accepted value is a word as the others are.
      apply words_syncReflectedMixerParams
      split
      · exact table.words
      · exact words_setById table.words request.word

/-- The table as requests leave it, one after another. -/
def WordParams.requested [FlightFloat F] (table : WordParams F) (requests : List (WordRequest F)) :
    WordParams F :=
  Library.run WordParams.commit table requests

end Veloxity
