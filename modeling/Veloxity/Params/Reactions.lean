import Veloxity.Control.Pipeline
import Veloxity.Core.Events

/-! What changed parameters set off. -/

namespace Veloxity

/-- What reactions change. -/
structure ParamReaction (F E C M : Type) where
  rc : Rc F
  command : CommandManager F
  state : StateManager
  estimator : E
  controller : C
  mixer : M
  resource : ControlPipelineResource

namespace ParamReaction

variable {F R S O E C M : Type}

/-- Take over a mixer's verdict on itself. -/
def adoptMixer (reaction : ParamReaction F E C M) (params : Params F)
    (refreshed : M × Option MixerStatus) : ParamReaction F E C M :=
  match refreshed.2 with
  | none => { reaction with mixer := refreshed.1 }
  | some status =>
    { reaction with
      mixer := refreshed.1
      resource := { reaction.resource with pwmRatesConfigured := false }
      state :=
        match status with
        | .healthy => reaction.state.update (.ERROR_CLEARED ErrorFlag.INVALID_MIXER) params
        | .invalidMixer => reaction.state.update (.ERROR_OCCURRED ErrorFlag.INVALID_MIXER) params }

/-- Rebuild the mixer from all parameters. -/
def mixerRefreshParams [Mixer F R O M] (reaction : ParamReaction F E C M) (params : Params F) :
    ParamReaction F E C M :=
  reaction.adoptMixer params (Mixer.refreshParams reaction.mixer params)

/-- Let the mixer react to each changed parameter. -/
def mixerOnParamChanged [Mixer F R O M] (reaction : ParamReaction F E C M) (params : Params F)
    (changes : List (ParamChanged F)) : ParamReaction F E C M :=
  changes.foldl (fun reaction change =>
    reaction.adoptMixer params (Mixer.onParamChanged reaction.mixer params change.id)) reaction

/-- Let the receiver react to each changed parameter. -/
def rcOnParamChanged (reaction : ParamReaction F E C M) (params : Params F)
    (changes : List (ParamChanged F)) : ParamReaction F E C M :=
  { reaction with
    rc := changes.foldl (fun rc change => rc.paramChangeCallback change.id params) reaction.rc }

variable [FlightFloat F]

/-- Configure the failsafe again. -/
def updateFailsafe (reaction : ParamReaction F E C M) (params : Params F) :
    ParamReaction F E C M :=
  let updated := reaction.command.updateFailsafeConfig params reaction.state
  { reaction with command := updated.1, state := updated.2 }

/-- Let the command manager react to each changed parameter that bears on the failsafe. -/
def commandOnParamChanged (reaction : ParamReaction F E C M) (params : Params F)
    (changes : List (ParamChanged F)) : ParamReaction F E C M :=
  changes.foldl (fun reaction change =>
    match change.id with
    | .PARAM_FAILSAFE_THROTTLE | .PARAM_FIXED_WING => reaction.updateFailsafe params
    | _ => reaction) reaction

variable [Estimator F R S E] [Controller F R S O C]

/-- Hand the parameters to the estimator and the controller. -/
def updateGains (reaction : ParamReaction F E C M) (params : Params F) : ParamReaction F E C M :=
  { reaction with
    estimator := Estimator.updateParams reaction.estimator params
    controller := Controller.updateGains reaction.controller params }

/-- Set off every reaction to the queued changes, or all of them at once. -/
def applyParamReactions [Mixer F R O M] (reaction : ParamReaction F E C M) (params : Params F)
    (events : ParamEventQueues F) : ParamReaction F E C M × ParamEventQueues F :=
  let reacted :=
    if events.fullRefresh then
      let mixed := reaction.mixerRefreshParams params
      { mixed with rc := mixed.rc.init params }.updateFailsafe params
    else
      ((reaction.mixerOnParamChanged params events.changes.items).rcOnParamChanged params
        events.changes.items).commandOnParamChanged params events.changes.items
  let updated :=
    if events.fullRefresh || !events.changes.isEmpty then reacted.updateGains params else reacted
  (updated, { events with changes := .empty, fullRefresh := false })

end ParamReaction

end Veloxity
