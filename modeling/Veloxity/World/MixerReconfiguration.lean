import Veloxity.World.ReactionLaws

/-! Reacting to the reported changes of the parameters leaves the mixer as a refresh would. -/

namespace Veloxity

open Library

variable {F R : Type} [FlightFloat F] [FlightFloat R] [FloatCast F R] [ReflectionFormat F] [Svd R]

namespace MatrixMixer

omit [FlightFloat F] [FlightFloat R] [FloatCast F R] [ReflectionFormat F] [Svd R] in
/-- A mixer is its runtime parameters and its choice. -/
theorem eq_of_parts {mixer other : MatrixMixer F R} (params : mixer.params = other.params)
    (choice : mixer.choice = other.choice) : mixer = other := by
  -- Between them the two parts name every field of the mixer.
  cases mixer
  cases other
  simp only [MatrixMixer.choice, Prod.mk.injEq, MixerSelection.mk.injEq] at params choice
  simp only [params, choice]

end MatrixMixer

/-- Requests to change parameters, and the changes reported to the mixer once they are served. -/
structure MixerRound (F : Type) where
  requests : List (ParamSetRequested F)
  reported : List ParamId

/-- A mixer beside the parameters. -/
structure ConfiguredMixer (F R : Type) where
  mixer : MatrixMixer F R
  params : Params F

namespace ConfiguredMixer

/-- Serve the requests, then have the mixer react to the reported changes one after another. -/
def round (configured : ConfiguredMixer F R) (round : MixerRound F) : ConfiguredMixer F R :=
  let params := requestedParams configured.params round.requests
  { mixer := round.reported.foldl (fun mixer id => (mixer.onParamChanged params id).1)
      configured.mixer
    params }

/-- Every change of a parameter is reported, in whatever order, the rewritten ones aside. -/
def ReportsChanges (configured : ConfiguredMixer F R) (round : MixerRound F) : Prop :=
  ∀ id ∈ changedIds configured.params round.requests, id ∈ round.reported

/-- Whether every change is reported is decided by looking through the changes. -/
instance (configured : ConfiguredMixer F R) (round : MixerRound F) :
    Decidable (configured.ReportsChanges round) :=
  inferInstanceAs (Decidable (∀ id ∈ changedIds configured.params round.requests,
    id ∈ round.reported))

/-- The mixer is left as a refresh from the resulting parameters leaves it. Where these choose a
valid mixer, so is every other mixer that is refreshed from them; where they do not, such mixers
agree on the verdict and the runtime parameters, and the matrices, output types and rates are the
ones from before. -/
def Refreshes (configured : ConfiguredMixer F R) (round : MixerRound F) : Prop :=
  let after := configured.round round
  after.mixer = configured.mixer.refresh after.params ∧
    (mixerParamInt after.params .PARAM_PRIMARY_MIXER < NUM_MIXERS →
      ∀ other : MatrixMixer F R, after.mixer = other.refresh after.params) ∧
    (NUM_MIXERS ≤ mixerParamInt after.params .PARAM_PRIMARY_MIXER →
      (∀ other : MatrixMixer F R, after.mixer.status = (other.refresh after.params).status ∧
        after.mixer.params = (other.refresh after.params).params) ∧
      after.mixer.choice = (.invalidMixer, configured.mixer.choice.2))

/-- The mixer is left as every mixer is that is refreshed from the resulting parameters, whatever
these choose. -/
def RefreshesAlike (configured : ConfiguredMixer F R) (round : MixerRound F) : Prop :=
  ∀ other : MatrixMixer F R,
    (configured.round round).mixer = other.refresh (configured.round round).params

/-- Refreshing the mixer would change nothing. -/
def UpToDate (configured : ConfiguredMixer F R) : Prop :=
  configured.mixer.refresh configured.params = configured.mixer

omit [FlightFloat F] [ReflectionFormat F] in
/-- A mixer that has been refreshed is up to date, whatever it was before. -/
theorem upToDate_refresh (mixer : MatrixMixer F R) (params : Params F) :
    UpToDate ⟨mixer.refresh params, params⟩ := by
  obtain ⟨_, first⟩ := mixer.refresh_parts params
  obtain ⟨_, second⟩ := (mixer.refresh params).refresh_parts params
  -- Choosing again under the same parameters settles on the same choice.
  rw [UpToDate]
  refine MatrixMixer.eq_of_parts rfl ?_
  rw [second, first]
  exact mixerChoiceValue.settled params mixer.choice

/-- Where a part of the mixer reacts to all it is computed from, a change it is computed from is
reported, or the resulting parameters configure it alike. -/
theorem reacts_or_same {configured : ConfiguredMixer F R} {round : MixerRound F}
    (reports : configured.ReportsChanges round) {piece : DerivedPiece}
    (follows : ∀ id, piece.reads id = true → piece.reactsTo id = true) :
    round.reported.any piece.reactsTo = true ∨
      piece.SameUnder R configured.params (configured.round round).params := by
  by_cases reacted : round.reported.any piece.reactsTo = true
  · exact .inl reacted
  · -- What is computed from would be reported and reacted to.
    apply Or.inr
    apply DerivedPiece.sameUnder_requestedParams
    intro id changed
    rw [Bool.eq_false_iff]
    intro read
    exact reacted (List.any_eq_true.mpr ⟨id, reports id changed, follows id read⟩)

/-- A mixer that is up to date is refreshed by its reactions to the reported changes. -/
theorem mixer_round {configured : ConfiguredMixer F R} {round : MixerRound F}
    (current : configured.UpToDate) (reports : configured.ReportsChanges round) :
    (configured.round round).mixer =
      configured.mixer.refresh (configured.round round).params := by
  obtain ⟨params, choice⟩ := configured.mixer.refresh_parts configured.params
  obtain ⟨laterParams, laterChoice⟩ :=
    configured.mixer.refresh_parts (configured.round round).params
  rw [current] at params choice
  have reactedParams : (configured.round round).mixer.params =
      mixerParamsValue.react (configured.round round).params configured.mixer.params
        round.reported :=
    mixerParamsValue.react_of_step _ MatrixMixer.params
      (fun mixer id => mixer.onParamChanged_params _ id) configured.mixer round.reported
  have reactedChoice : (configured.round round).mixer.choice =
      mixerChoiceValue.react (configured.round round).params configured.mixer.choice
        round.reported :=
    mixerChoiceValue.react_of_step _ MatrixMixer.choice
      (fun mixer id => mixer.onParamChanged_choice _ id) configured.mixer round.reported
  -- Each of the two parts reacts to all it is computed from.
  apply MatrixMixer.eq_of_parts
  · rw [laterParams, reactedParams]
    apply (mixerParamsValue.react_eq_iff_of_settled configured.params _ params.symm _).mpr
    exact reacts_or_same reports fun _ => DerivedPiece.mixerParams_reactsTo
  · rw [laterChoice, reactedChoice]
    apply (mixerChoiceValue.react_eq_iff_of_settled configured.params _ choice.symm _).mpr
    rw [mixerChoiceValue_eq_iff]
    exact @reacts_or_same _ _ _ _ _ _ _ _ _ reports .mixerChoice fun _ read => read

omit [FlightFloat F] [ReflectionFormat F] in
/-- Refreshing from a valid choice leaves nothing of the mixer there was before. -/
theorem refresh_of_valid {params : Params F}
    (valid : mixerParamInt params .PARAM_PRIMARY_MIXER < NUM_MIXERS)
    (mixer other : MatrixMixer F R) : mixer.refresh params = other.refresh params := by
  refine MatrixMixer.eq_of_parts rfl ?_
  rw [(mixer.refresh_parts params).2, (other.refresh_parts params).2]
  -- Only an invalid choice keeps what was chosen before.
  cases selected : mixerSelection (R := R) params with
  | none =>
    rw [mixerSelection, if_neg (by omega)] at selected
    cases selected
  | some selection => simp only [mixerChoiceValue, selected]

omit [FlightFloat F] [ReflectionFormat F] in
/-- Refreshing from an invalid choice settles the verdict and the runtime parameters, and keeps what
was chosen before. -/
theorem refresh_of_invalid {params : Params F}
    (invalid : NUM_MIXERS ≤ mixerParamInt params .PARAM_PRIMARY_MIXER) (mixer : MatrixMixer F R) :
    (∀ other : MatrixMixer F R, (mixer.refresh params).status = (other.refresh params).status ∧
        (mixer.refresh params).params = (other.refresh params).params) ∧
      (mixer.refresh params).choice = (.invalidMixer, mixer.choice.2) := by
  have unselected : mixerSelection (R := R) params = none := by
    rw [mixerSelection, if_pos invalid]
  have kept (other : MatrixMixer F R) :
      (other.refresh params).choice = (.invalidMixer, other.choice.2) := by
    rw [(other.refresh_parts params).2]
    simp only [mixerChoiceValue, unselected]
  -- The verdict is the first part of the choice.
  have verdict (other : MatrixMixer F R) : (other.refresh params).status = .invalidMixer :=
    congrArg Prod.fst (kept other)
  refine ⟨fun other => ⟨?_, ?_⟩, kept mixer⟩
  · rw [verdict, verdict]
  · rw [(mixer.refresh_parts params).1, (other.refresh_parts params).1]

/-- In every run of requests and reactions to the changes they report, from any mixer configured
from any parameters, every reaction leaves the mixer as a refresh would. -/
theorem refreshes_along (start : MatrixMixer F R) (params : Params F)
    {rounds : List (MixerRound F)}
    (reports : Along ReportsChanges round ⟨start.refresh params, params⟩ rounds) :
    Along Refreshes round ⟨start.refresh params, params⟩ rounds := by
  -- The invariant is that the mixer is what a refresh under its parameters would leave.
  apply along_of_along UpToDate ?_ (upToDate_refresh start params) reports
  intro configured round current reports
  have refreshed := mixer_round current reports
  refine ⟨⟨refreshed, fun valid other => ?_, fun invalid => ?_⟩, ?_⟩
  · rw [refreshed]
    exact refresh_of_valid valid _ _
  · rw [refreshed]
    exact refresh_of_invalid invalid _
  · -- A refreshed mixer is up to date for the next round.
    have current := upToDate_refresh configured.mixer (configured.round round).params
    rwa [← refreshed] at current

/-- A round in which one parameter is set to a whole number and reported. -/
def setRound (id : ParamId) (value : Int) : MixerRound ℚ where
  requests := [setRequest id value]
  reported := [id]

/-- The custom mixer is given an entry, and a needless report comes first. -/
def entryRound : MixerRound ℚ where
  requests := [{ setRequest (.PARAM_PRIMARY_MIXER_CELL 0 0) 0 with value := .float (1 / 2) }]
  reported := [.PARAM_SECONDARY_MIXER, .PARAM_PRIMARY_MIXER_CELL 0 0]

/-- The first mixer is changed to another one, to an invalid one, to the custom one and back to a
known one, and last the number of motors is changed. -/
def mixerRounds : List (MixerRound ℚ) :=
  [setRound .PARAM_PRIMARY_MIXER HEX_X_MIXER, setRound .PARAM_PRIMARY_MIXER 99,
    setRound .PARAM_PRIMARY_MIXER CUSTOM_MIXER, entryRound,
    setRound .PARAM_PRIMARY_MIXER QUAD_PLUS_MIXER, setRound .PARAM_NUM_MOTORS 6]

/-- A mixer of the default parameters. -/
def defaultMixer : ConfiguredMixer ℚ ℚ :=
  ⟨(MatrixMixer.new Params.new).refresh Params.new, Params.new⟩

/-- A mixer of the default parameters after it has been changed to a hexarotor's. -/
def hexMixer : ConfiguredMixer ℚ ℚ :=
  run round defaultMixer [setRound .PARAM_PRIMARY_MIXER HEX_X_MIXER]

/-- All these changes are reported, and the invalid choice leaves the fifth output with the motor it
drove before, where a mixer made from the same parameters drives none. -/
theorem mixerRounds_outputs :
    Along ReportsChanges round defaultMixer mixerRounds ∧
      (hexMixer.round (setRound .PARAM_PRIMARY_MIXER 99)).mixer.outputTypes 4 = .motor ∧
      ((MatrixMixer.new (hexMixer.round (setRound .PARAM_PRIMARY_MIXER 99)).params :
        MatrixMixer ℚ ℚ).refresh
          (hexMixer.round (setRound .PARAM_PRIMARY_MIXER 99)).params).outputTypes 4 ≠ .motor := by
  decide +kernel

/-- All these changes are taken over as a refresh would. -/
theorem mixerRounds_refresh :
    Along Refreshes round ⟨(MatrixMixer.new Params.new : MatrixMixer ℚ ℚ).refresh Params.new,
      Params.new⟩ mixerRounds :=
  refreshes_along (MatrixMixer.new Params.new) Params.new mixerRounds_outputs.1

/-- All changes are reported, and after the invalid choice the mixer is not as one that is made and
refreshed anew. -/
theorem mixerRounds_unlike :
    Along ReportsChanges round defaultMixer mixerRounds ∧
      ¬ Along RefreshesAlike round defaultMixer mixerRounds := by
  obtain ⟨reports, drives, idle⟩ := mixerRounds_outputs
  refine ⟨reports, fun alike => ?_⟩
  -- The second round is the one with the invalid choice.
  have second : RefreshesAlike hexMixer (setRound .PARAM_PRIMARY_MIXER 99) :=
    along_iff_split.mp alike [setRound .PARAM_PRIMARY_MIXER HEX_X_MIXER] _ _ rfl
  have same := congrArg MatrixMixer.outputTypes
    (second (MatrixMixer.new (hexMixer.round (setRound .PARAM_PRIMARY_MIXER 99)).params))
  exact idle ((congrFun same 4).symm.trans drives)

end ConfiguredMixer

end Veloxity
