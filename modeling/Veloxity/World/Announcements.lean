import Veloxity.Command.FailsafeCommand
import Veloxity.World.StageEffects

/-! What a communication stage has done before it sets off reactions, and what those reach. -/

namespace Veloxity

open Library (BoundedQueue)

variable {F R S O E C M D : Type}

/-- Changes of these parameters have the failsafe configured again. -/
def bearsOnFailsafe : ParamId → Bool
  | .PARAM_FAILSAFE_THROTTLE | .PARAM_FIXED_WING => true
  | _ => false

/-- Among the news are all parameters, or one that bears on the failsafe. -/
def ParamEventQueues.announcesFailsafe (events : ParamEventQueues F) : Bool :=
  events.fullRefresh || events.changes.items.any fun change => bearsOnFailsafe change.id

section Service

namespace CommandService

/-- Draining a queue keeps the failsafe commands when serving each request does. -/
theorem drain_failsafeCommands {α : Type} {capacity : Nat}
    {act : CommandService F C → α → CommandService F C}
    (keeps : ∀ service request,
      (act service request).command.failsafeCommands = service.command.failsafeCommands)
    (service : CommandService F C) (queue : BoundedQueue capacity α) :
    (queue.drain act service).1.command.failsafeCommands = service.command.failsafeCommands := by
  -- The commands of the start are the invariant.
  show (fun served : CommandService F C =>
    served.command.failsafeCommands = service.command.failsafeCommands) _
  exact BoundedQueue.drain_invariant
    (fun served request same => (keeps served request).trans same) rfl queue

/-- Serving a request for the board keeps the command manager. -/
theorem applyBoardCommandRequest_command (state : StateManager) (storage : BoardStorage F)
    (service : CommandService F C) (command : RosflightCmd) :
    (applyBoardCommandRequest state storage service command).command = service.command := by
  -- An armed vehicle refuses, and otherwise the board answers.
  unfold applyBoardCommandRequest
  split
  · rfl
  · split <;> rfl

variable [FlightFloat F]

/-- Opening calibration windows keeps the command manager. -/
theorem startCalibration_command (service : CommandService F C) (command : RosflightCmd) :
    (service.startCalibration command).command = service.command := by
  -- Parameters and flags change.
  cases command <;> rfl

/-- Serving the companion's commands keeps the failsafe commands. -/
theorem applyCommandRequests_failsafeCommands [Controller F R S O C]
    (service : CommandService F C) (state : StateManager) (storage : BoardStorage F) :
    (service.applyCommandRequests state storage).command.failsafeCommands =
      service.command.failsafeCommands := by
  -- Of all requests only the offboard commands reach the manager.
  have calibrations (service : CommandService F C) :
      (service.applyCalibrationRequests state).command.failsafeCommands =
        service.command.failsafeCommands := by
    refine drain_failsafeCommands (fun service command => ?_) service _
    unfold applyCalibrationRequest
    split
    · rfl
    · exact congrArg CommandManager.failsafeCommands (service.startCalibration_command command)
  have offboard (service : CommandService F C) :
      service.applyOffboardControlRequests.command.failsafeCommands =
        service.command.failsafeCommands := by
    refine drain_failsafeCommands (fun service _ => ?_) service _
    rfl
  have defaults (service : CommandService F C) :
      (service.applyParamDefaultsRequests state).command.failsafeCommands =
        service.command.failsafeCommands := by
    refine drain_failsafeCommands (fun service command => ?_) service _
    unfold applyParamDefaultsRequest
    split <;> rfl
  have trims (service : CommandService F C) :
      (service.applyRcTrimCalibrationRequests state).command.failsafeCommands =
        service.command.failsafeCommands := by
    refine drain_failsafeCommands (fun service command => ?_) service _
    unfold applyRcTrimCalibrationRequest
    split <;> rfl
  have board (service : CommandService F C) :
      (service.applyBoardCommandRequests state storage).command.failsafeCommands =
        service.command.failsafeCommands :=
    drain_failsafeCommands (fun service command => congrArg CommandManager.failsafeCommands
      (applyBoardCommandRequest_command state storage service command)) service _
  have versions (service : CommandService F C) :
      (service.applyVersionRequests state).command.failsafeCommands =
        service.command.failsafeCommands := by
    refine drain_failsafeCommands (fun service command => ?_) service _
    unfold applyVersionRequest
    split <;> rfl
  have origins (service : CommandService F C) :
      service.applyResetOriginRequests.command.failsafeCommands =
        service.command.failsafeCommands := by
    refine drain_failsafeCommands (fun service _ => ?_) service _
    rfl
  have infos (service : CommandService F C) :
      service.applyConfigInfoRequests.command.failsafeCommands =
        service.command.failsafeCommands := by
    refine drain_failsafeCommands (fun service _ => ?_) service _
    rfl
  -- The queues are served one after another.
  rw [applyCommandRequests, infos, origins, versions, board, trims, defaults, offboard,
    calibrations]

end CommandService

end Service

section Reactions

variable [FlightFloat F]

namespace ParamReaction

/-- Reacting to changes takes the first one first. -/
theorem commandOnParamChanged_cons (reaction : ParamReaction F E C M) (params : Params F)
    (change : ParamChanged F) (rest : List (ParamChanged F)) :
    reaction.commandOnParamChanged params (change :: rest) =
      (if bearsOnFailsafe change.id then reaction.updateFailsafe params
        else reaction).commandOnParamChanged params rest := by
  -- The two identifiers are those that bear on the failsafe.
  have chosen (id : ParamId) :
      (match id with
        | .PARAM_FAILSAFE_THROTTLE | .PARAM_FIXED_WING => reaction.updateFailsafe params
        | _ => reaction) = if bearsOnFailsafe id then reaction.updateFailsafe params
        else reaction := by
    unfold bearsOnFailsafe
    split
    · rfl
    · rfl
    · simp
  exact congrArg (fun reacted : ParamReaction F E C M =>
    reacted.commandOnParamChanged params rest) (chosen change.id)

/-- Reacting to changes configures the failsafe when one bears on it, and else keeps it. -/
theorem commandOnParamChanged_failsafeCommands (reaction : ParamReaction F E C M)
    (configurable : CommandManager.Configurable reaction.command.failsafeCommands)
    (params : Params F) (changes : List (ParamChanged F)) :
    (reaction.commandOnParamChanged params changes).command.failsafeCommands =
      if changes.any fun change => bearsOnFailsafe change.id then
        CommandManager.configuredCommands params
      else reaction.command.failsafeCommands := by
  -- Once configured, the failsafe stays as the parameters have it.
  induction changes generalizing reaction with
  | nil => rfl
  | cons change rest ih =>
    rw [commandOnParamChanged_cons, List.any_cons]
    cases bears : bearsOnFailsafe change.id with
    | false => exact ih reaction configurable
    | true =>
      have updated : (reaction.updateFailsafe params).command.failsafeCommands =
          CommandManager.configuredCommands params :=
        CommandManager.updateFailsafeConfig_commands configurable params reaction.state
      have again := CommandManager.configurable_configured params
      rw [← updated] at again
      rw [if_pos rfl, ih _ again, updated, ite_self, Bool.true_or, if_pos rfl]

omit [FlightFloat F] in
/-- The mixer's reactions keep the command manager. -/
theorem mixerOnParamChanged_command [Mixer F R O M] (reaction : ParamReaction F E C M)
    (params : Params F) (changes : List (ParamChanged F)) :
    (reaction.mixerOnParamChanged params changes).command = reaction.command := by
  have adopted (reaction : ParamReaction F E C M) (refreshed : M × Option MixerStatus) :
      (reaction.adoptMixer params refreshed).command = reaction.command := by
    unfold adoptMixer
    cases refreshed.2 <;> rfl
  -- The changes are taken one after another.
  unfold mixerOnParamChanged
  induction changes generalizing reaction with
  | nil => rfl
  | cons change rest ih => exact (ih _).trans (adopted reaction _)

/-- All reactions configure the failsafe when the news announces it, and else keep it. -/
theorem applyParamReactions_failsafeCommands [Estimator F R S E] [Controller F R S O C]
    [Mixer F R O M] {reaction : ParamReaction F E C M}
    (configurable : CommandManager.Configurable reaction.command.failsafeCommands)
    (params : Params F) (events : ParamEventQueues F) :
    (reaction.applyParamReactions params events).1.command.failsafeCommands =
      if events.announcesFailsafe then CommandManager.configuredCommands params
      else reaction.command.failsafeCommands := by
  -- Handing the parameters on leaves the command manager alone.
  have kept (reacted : ParamReaction F E C M) (update : Bool) :
      (if update then reacted.updateGains params else reacted).command = reacted.command := by
    cases update <;> rfl
  have refreshed : (reaction.mixerRefreshParams params).command = reaction.command := by
    unfold mixerRefreshParams adoptMixer
    cases (Mixer.refreshParams reaction.mixer params).2 <;> rfl
  have mixed := reaction.mixerOnParamChanged_command params events.changes.items
  simp only [applyParamReactions, kept]
  cases full : events.fullRefresh with
  | true =>
    rw [if_pos rfl, ParamEventQueues.announcesFailsafe, full, Bool.true_or, if_pos rfl]
    rw [← refreshed] at configurable
    exact CommandManager.updateFailsafeConfig_commands configurable params
      (reaction.mixerRefreshParams params).state
  | false =>
    rw [if_neg Bool.false_ne_true, ParamEventQueues.announcesFailsafe, full, Bool.false_or]
    rw [← mixed] at configurable ⊢
    exact commandOnParamChanged_failsafeCommands
      ((reaction.mixerOnParamChanged params events.changes.items).rcOnParamChanged params
        events.changes.items) configurable params events.changes.items

end ParamReaction

namespace World

variable [ReflectionFormat F] [Controller F R S O C]

/-- What a communication stage has done before it sets off reactions. -/
def requested (world : World F R E C M D) (input : CommStageInput F) : World F R E C M D :=
  (world.serveReceived input).requestGyroCalibrationIfNeeded

/-- Before the reactions nothing touches the parts that fly the vehicle. -/
theorem requested_flightPart (world : World F R E C M D) (input : CommStageInput F) :
    (world.requested input).flightPart = world.flightPart :=
  (requestGyroCalibrationIfNeeded_flightPart _).trans (serveReceived_flightPart world input)

/-- Before the reactions nothing touches the failsafe commands. -/
theorem requested_failsafeCommands (world : World F R E C M D) (input : CommStageInput F) :
    (world.requested input).command.failsafeCommands = world.command.failsafeCommands := by
  have received : (world.processCommStage input).command = world.command := by
    unfold processCommStage
    dsimp only
    split <;> rfl
  have companion (served : World F R E C M D) :
      (if served.hasPendingCompanionWork then served.applyCompanionEvents else served).command =
        served.command := by
    rw [apply_ite World.command]
    simp only [applyCompanionEvents, ite_self]
  have commands (served : World F R E C M D) :
      (if !served.commandEvents.isEmpty then served.applyCommandEvents input.storage
        else served).command.failsafeCommands = served.command.failsafeCommands := by
    split
    · simp only [applyCommandEvents, CommandService.applyCommandRequests_failsafeCommands]
    · rfl
  have parameters (served : World F R E C M D) :
      (if served.hasPendingParamWork then served.serviceParamEvents else served).command =
        served.command := by
    rw [apply_ite World.command]
    simp only [serviceParamEvents, ite_self]
  have opened (served : World F R E C M D) :
      served.requestGyroCalibrationIfNeeded.command = served.command := by
    unfold requestGyroCalibrationIfNeeded
    split <;> rfl
  -- Each part of the service runs or is skipped.
  rw [requested, opened]
  unfold serveReceived
  dsimp only
  rw [parameters, commands, companion, received]

variable [Estimator F R S E] [Mixer F R O M]

/-- The reactions of a communication stage keep its parameters. -/
theorem communication_params (world : World F R E C M D) (input : CommStageInput F) :
    (world.runCommunicationAndParameterServiceStage input).params =
      (world.requested input).params := by
  -- The reactions run, or there is no news.
  unfold runCommunicationAndParameterServiceStage
  dsimp only
  rw [apply_ite World.params]
  exact ite_self _

/-- A communication stage configures the failsafe when the news announces it, and else keeps it. -/
theorem communication_failsafeCommands {world : World F R E C M D}
    (configurable : CommandManager.Configurable world.command.failsafeCommands)
    (input : CommStageInput F) :
    (world.runCommunicationAndParameterServiceStage input).command.failsafeCommands =
      if (world.requested input).paramEvents.announcesFailsafe then
        CommandManager.configuredCommands (world.requested input).params
      else world.command.failsafeCommands := by
  have kept := world.requested_failsafeCommands input
  have reacted (before : World F R E C M D) :
      (before.applyParamReactions input.reactionUs).command =
      (before.reaction.applyParamReactions before.params before.paramEvents).1.command := rfl
  rw [← kept] at configurable ⊢
  -- Without any news there is nothing to announce.
  show (if _ then (world.requested input).applyParamReactions input.reactionUs
    else world.requested input).command.failsafeCommands = _
  split
  · rw [reacted]
    exact ParamReaction.applyParamReactions_failsafeCommands configurable _ _
  · rename_i silent
    rw [Bool.or_eq_true, not_or, Bool.not_eq_true, Bool.not_eq_true, Bool.not_eq_false'] at silent
    have full : (world.requested input).paramEvents.fullRefresh = false := silent.1
    have none : (world.requested input).paramEvents.changes.items = [] :=
      List.isEmpty_iff.mp silent.2
    rw [ParamEventQueues.announcesFailsafe, full, none]
    rfl

end World

end Reactions

end Veloxity
