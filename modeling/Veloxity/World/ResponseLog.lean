import Veloxity.Command.Acknowledgements
import Veloxity.World.Bench
import Veloxity.World.StageFrames

/-! The responses sent and waiting form a log that no stage shortens or reorders. -/

namespace Veloxity

open CommEventQueues (Appends appends_respond)

variable {F R S O E C M D : Type}

namespace Stage

/-- What the board gives a communication stage. -/
def received : Stage F R → Option (CommStageInput F)
  | .communication input => some input
  | _ => none

/-- A communication stage receives what the board gives it. -/
@[simp] theorem received_communication (input : CommStageInput F) :
    (Stage.communication input : Stage F R).received = some input := rfl

/-- Only a communication stage receives. -/
theorem eq_communication {stage : Stage F R} {input : CommStageInput F}
    (receives : stage.received = some input) : stage = .communication input := by
  cases stage with
  | communication given => exact congrArg _ (Option.some.inj receives)
  | _ => cases receives

/-- The log text that a stage is given to queue, and how many responses it sends at most. -/
def drained : Stage F R → Option (Option StatustextMsg × Nat)
  | .sensors _ log => some (log, COMM_RESPONSE_QUEUE_CAPACITY)
  | .responses log maxResponses => some (log, maxResponses)
  | _ => none

end Stage

/-- One heartbeat is enough to know of a companion. -/
theorem CompanionInputs.connected_applyCompanionHeartbeats (inputs : CompanionInputs F) :
    inputs.applyCompanionHeartbeats.link.connected =
      (inputs.link.connected || !inputs.events.heartbeats.isEmpty) := by
  have heard (heartbeats : List HeartbeatMsg) (link : CompanionLinkState) :
      (heartbeats.foldl (fun _ msg => { connected := true, lastHeartbeat := some msg }) link
        ).connected = (link.connected || !heartbeats.isEmpty) := by
    -- Whatever follows, the link stays known.
    induction heartbeats generalizing link with
    | nil => simp
    | cons msg rest ih =>
      rw [List.foldl_cons, ih]
      simp
  exact heard inputs.events.heartbeats.items inputs.link

/-- The report of a hard fault is queued for a companion that listens. -/
theorem CompanionInputs.appends_emitPendingHardErrorIfConnected (inputs : CompanionInputs F) :
    Appends inputs.commEvents inputs.emitPendingHardErrorIfConnected.commEvents
      (if inputs.link.connected then inputs.pendingHardError.toList.map .hardError else []) := by
  unfold CompanionInputs.emitPendingHardErrorIfConnected
  split
  · rename_i msg connected waiting
    rw [if_pos connected, waiting]
    exact appends_respond _ _
  · rename_i silent
    -- Nobody listens, or there is nothing to report.
    by_cases connected : inputs.link.connected = true
    · have nothing : inputs.pendingHardError = none :=
        Option.eq_none_iff_forall_ne_some.mpr fun msg => silent msg connected
      rw [if_pos connected, nothing]
      exact .refl _
    · rw [if_neg connected]
      exact .refl _

/-- Once a companion listens nothing is left to report. -/
theorem CompanionInputs.pendingHardError_emit (inputs : CompanionInputs F) :
    inputs.emitPendingHardErrorIfConnected.pendingHardError =
      if inputs.link.connected then none else inputs.pendingHardError := by
  unfold CompanionInputs.emitPendingHardErrorIfConnected
  -- A report is queued once, when somebody listens.
  cases connected : inputs.link.connected with
  | false => rfl
  | true =>
    cases pending : inputs.pendingHardError with
    | none => exact pending
    | some msg => rfl

namespace World

/-- Every response sent so far or waiting to be sent, in order. -/
def responseLog (world : World F R E C M D) : List (CommResponse F) :=
  world.comm.responseLog world.commEvents

/-- The log is kept where the companion is served. -/
theorem responseLog_congr {before after : World F R E C M D}
    (same : after.companionPart = before.companionPart) :
    after.responseLog = before.responseLog := by
  have replies : after.comm.replies = before.comm.replies := congrArg CompanionPart.replies same
  have events : after.commEvents = before.commEvents := congrArg CompanionPart.commEvents same
  rw [responseLog, responseLog, CommManager.responseLog, CommManager.responseLog, replies, events]

/-- Nothing is sent, and these responses are queued as far as there is room. -/
structure Responds (before after : World F R E C M D) (added : List (CommResponse F)) : Prop where
  sent : after.comm.replies.filterMap Reply.carried = before.comm.replies.filterMap Reply.carried
  sysid : after.comm.sysid = before.comm.sysid
  queued : Appends before.commEvents after.commEvents added

/-- Nothing is queued. -/
theorem Responds.refl (world : World F R E C M D) : Responds world world [] := ⟨rfl, rfl, .refl _⟩

/-- Some responses are queued, and then others. -/
theorem Responds.trans {before middle after : World F R E C M D}
    {first second : List (CommResponse F)}
    (earlier : Responds before middle first) (later : Responds middle after second) :
    Responds before after (first ++ second) :=
  ⟨later.sent.trans earlier.sent, later.sysid.trans earlier.sysid,
    earlier.queued.trans later.queued⟩

/-- The log grows by as many of the queued responses as there is room for. -/
theorem Responds.responseLog {before after : World F R E C M D} {added : List (CommResponse F)}
    (responds : Responds before after added) :
    after.responseLog = before.responseLog ++ added.take
      (COMM_RESPONSE_QUEUE_CAPACITY - before.commEvents.responses.items.length) := by
  -- What has been sent stays in front.
  unfold World.responseLog CommManager.responseLog
  rw [responds.sent, responds.queued.grown, List.append_assoc]

/-- Whoever serves nobody queues nothing. -/
theorem Unserved.responds {before after : World F R E C M D} (unserved : Unserved before after) :
    Responds before after [] := by
  -- Its replies, its name and its queue are the same.
  have replies := congrArg CompanionPart.replies unserved.companion
  have sysid := congrArg CompanionPart.sysid unserved.companion
  have events := congrArg CompanionPart.commEvents unserved.companion
  refine ⟨congrArg _ replies, sysid, ?_⟩
  have same : after.commEvents = before.commEvents := events
  rw [same]
  exact .refl _

section Sending

/-- The log text that finds a companion to listen. -/
def heardTexts (world : World F R E C M D) (log : Option StatustextMsg) : List StatustextMsg :=
  if world.companionLink.connected then log.toList else []

/-- A log text is queued when a companion listens. -/
theorem responds_drainLogs (world : World F R E C M D) (log : Option StatustextMsg) :
    Responds world (world.drainLogs log) ((world.heardTexts log).map .statustext) := by
  unfold drainLogs heardTexts
  -- Without a companion, or without a text, nothing is queued.
  cases connected : world.companionLink.connected with
  | false => exact .refl world
  | true =>
    cases log with
    | none => exact .refl world
    | some text => exact ⟨rfl, rfl, appends_respond _ _⟩

/-- Draining logs and sending responses adds to the log what was drained, as far as there is
room. -/
theorem responseLog_drainLogsAndSendResponsesLimited (world : World F R E C M D)
    (log : Option StatustextMsg) (maxResponses : Nat) :
    (world.drainLogsAndSendResponsesLimited log maxResponses).responseLog =
      world.responseLog ++ ((world.heardTexts log).take
        (COMM_RESPONSE_QUEUE_CAPACITY - world.commEvents.responses.items.length)).map
          .statustext := by
  -- Sending only moves responses within the log.
  have sent : (world.drainLogsAndSendResponsesLimited log maxResponses).responseLog =
      (world.drainLogs log).responseLog :=
    CommManager.responseLog_sendCommResponsesLimited maxResponses _ _
  rw [sent, (world.responds_drainLogs log).responseLog, List.map_take]

end Sending

section Communication

/-- The received messages and the queues they are passed on to. -/
def dispatch (world : World F R E C M D) (input : CommStageInput F) : MessageDispatch F where
  comm := world.comm.processIncomingMessages input.incoming
  paramEvents := world.paramEvents
  commEvents := world.commEvents
  commandEvents := world.commandEvents
  companionEvents := world.companionEvents

/-- Received messages queue responses only to refuse a command. -/
theorem responds_processCommStage (world : World F R E C M D) (input : CommStageInput F) :
    ∃ added, (∀ response ∈ added, response.isAnswer = true) ∧
      Responds world (world.processCommStage input) added := by
  -- Only the command that was received can be refused.
  unfold processCommStage
  dsimp only
  split
  · exact ⟨[], by simp, rfl, rfl, .refl _⟩
  · -- The command is acted on last.
    have prepares := (world.dispatch input).prepares_prepared input.clock
    obtain ⟨replies, sysid, _, appends⟩ := ((world.dispatch input).prepared input.clock).appends_cmd
    rw [prepares.commEvents] at appends
    refine ⟨_, ?_, (congrArg _ replies).trans prepares.sent, sysid.trans prepares.sysid, appends⟩
    intro response member
    unfold MessageDispatch.refused at member
    split at member
    · cases member
    · split at member
      · cases member
      · rw [List.mem_singleton.mp member]
        rfl

/-- What the companion's inputs find in the world. -/
def companionInputs (world : World F R E C M D) : CompanionInputs F where
  events := world.companionEvents
  commEvents := world.commEvents
  link := world.companionLink
  auxCommand := world.auxCommand
  externalAttitude := world.externalAttitude
  pendingHardError := world.pendingHardError

/-- The report of a hard fault, if it waits and a companion is heard of. -/
def hardErrorReport (world : World F R E C M D) : List (CommResponse F) :=
  if world.companionLink.connected || !world.companionEvents.heartbeats.isEmpty then
    world.pendingHardError.toList.map .hardError
  else []

/-- Without companion work no report of a hard fault is due. -/
theorem hardErrorReport_of_idle {world : World F R E C M D}
    (idle : ¬ world.hasPendingCompanionWork = true) : world.hardErrorReport = [] := by
  unfold hardErrorReport
  split
  · rename_i heard
    cases pending : world.pendingHardError with
    | none => rfl
    | some msg =>
      refine absurd ?_ idle
      -- A heartbeat is work, and so is a fault to be reported to a companion that listens.
      rw [hasPendingCompanionWork, pending, CompanionEventQueues.isEmpty]
      cases connected : world.companionLink.connected with
      | true => simp
      | false =>
        rw [connected, Bool.false_or, Bool.not_eq_true'] at heard
        simp [heard]
  · rfl

/-- Taking in the companion's inputs queues the report of a hard fault. -/
theorem responds_applyCompanionEvents (world : World F R E C M D) :
    Responds world world.applyCompanionEvents world.hardErrorReport := by
  have emitted := CompanionInputs.appends_emitPendingHardErrorIfConnected
    world.companionInputs.applyCompanionHeartbeats
  rw [CompanionInputs.connected_applyCompanionHeartbeats] at emitted
  exact ⟨rfl, rfl, emitted⟩

/-- Taking in the companion's inputs leaves a hard fault pending while nobody is heard of. -/
theorem pendingHardError_applyCompanionEvents (world : World F R E C M D) :
    world.applyCompanionEvents.pendingHardError =
      if world.companionLink.connected || !world.companionEvents.heartbeats.isEmpty then none
      else world.pendingHardError := by
  have emitted := world.companionInputs.applyCompanionHeartbeats.pendingHardError_emit
  rw [CompanionInputs.connected_applyCompanionHeartbeats] at emitted
  exact emitted

/-- The world once messages have been acted on and the companion's inputs taken in. -/
def informed (world : World F R E C M D) (input : CommStageInput F) : World F R E C M D :=
  let received := world.processCommStage input
  if received.hasPendingCompanionWork then received.applyCompanionEvents else received

/-- The informed world once its commands have been served. -/
def commanded [FlightFloat F] [Controller F R S O C] (world : World F R E C M D)
    (input : CommStageInput F) : World F R E C M D :=
  let informed := world.informed input
  if !informed.commandEvents.isEmpty then informed.applyCommandEvents input.storage else informed

/-- What parameter service finds in the world. -/
def paramService (world : World F R E C M D) : ParamService F where
  params := world.params
  listState := world.paramListState
  events := world.paramEvents
  comm := world.commEvents

/-- What is received informs of nothing but the report of a hard fault. -/
theorem responds_informed (world : World F R E C M D) (input : CommStageInput F) :
    Responds (world.processCommStage input) (world.informed input)
      (world.processCommStage input).hardErrorReport := by
  unfold informed
  dsimp only
  split
  · exact responds_applyCompanionEvents _
  · rename_i idle
    -- Nobody waits for a report.
    rw [hardErrorReport_of_idle idle]
    exact .refl _

section

variable [FlightFloat F]

/-- Serving commands answers them, and sends nothing. -/
theorem responds_applyCommandEvents [Controller F R S O C] (world : World F R E C M D)
    (storage : BoardStorage F) :
    (world.applyCommandEvents storage).commandEvents = {} ∧
      ∃ added, Answers (world.commandEvents.owedAnswers world.state) added ∧
        Responds world (world.applyCommandEvents storage) added := by
  -- The world's queues are served as the service serves them.
  have served := CommandService.answered_applyCommandRequests
    { requests := world.commandEvents, paramEvents := world.paramEvents
      commEvents := world.commEvents, command := world.command, controller := world.controller
      flags := world.calFlags, params := world.params, boardCalls := [] } world.state storage
  obtain ⟨added, answered, appends⟩ := served.responses
  refine ⟨?_, added, answered, ⟨?_, ?_, ?_⟩⟩
  · simpa only [applyCommandEvents] using served.requests
  · simp only [applyCommandEvents]
  · simp only [applyCommandEvents]
  · simpa only [applyCommandEvents] using appends

/-- Once informed the vehicle answers commands. -/
theorem responds_commanded [Controller F R S O C] (world : World F R E C M D)
    (input : CommStageInput F) :
    ∃ added, (∀ response ∈ added, response.isAnswer = true) ∧
      Responds (world.informed input) (world.commanded input) added := by
  unfold commanded
  dsimp only
  split
  · obtain ⟨_, added, answered, commanded⟩ :=
      (world.informed input).responds_applyCommandEvents input.storage
    exact ⟨added, answered.isAnswer_of_leading (CommandEventQueues.isAnswer_owedAnswers _ _),
      commanded⟩
  · -- No command waits.
    exact ⟨[], by simp, .refl _⟩

/-- Before parameters are served no report of a parameter is queued. -/
theorem responds_beforeParams [Controller F R S O C] (world : World F R E C M D)
    (input : CommStageInput F) :
    ∃ added, (∀ response ∈ added, response.reportedIndex = none) ∧
      Responds world (world.commanded input) added := by
  obtain ⟨early, refusals, received⟩ := world.responds_processCommStage input
  obtain ⟨late, answers, commanded⟩ := world.responds_commanded input
  refine ⟨_, ?_, (received.trans (world.responds_informed input)).trans commanded⟩
  intro response member
  rcases List.mem_append.mp member with first | last
  · rcases List.mem_append.mp first with refusal | report
    · exact CommResponse.reportedIndex_of_isAnswer (refusals response refusal)
    · -- The report of a fault is none of a parameter.
      unfold hardErrorReport at report
      split at report
      · obtain ⟨msg, _, rfl⟩ := List.mem_map.mp report
        rfl
      · cases report
  · exact CommResponse.reportedIndex_of_isAnswer (answers response last)

variable [ReflectionFormat F]

/-- Parameter service serves whatever waits, and would change nothing if nothing does. -/
theorem paramService_serveReceived [Controller F R S O C] (world : World F R E C M D)
    (input : CommStageInput F) :
    (world.serveReceived input).paramService =
        (world.commanded input).paramService.serviceParamEvents ∧
      (world.serveReceived input).comm = (world.commanded input).comm ∧
      (world.serveReceived input).commandEvents = (world.commanded input).commandEvents := by
  -- Only idle service is skipped.
  have served (ready after : World F R E C M D)
      (serves : after = if ready.hasPendingParamWork then ready.serviceParamEvents else ready) :
      after.paramService = ready.paramService.serviceParamEvents ∧ after.comm = ready.comm ∧
        after.commandEvents = ready.commandEvents := by
    rw [serves]
    split
    · exact ⟨rfl, rfl, rfl⟩
    · rename_i idle
      simp only [hasPendingParamWork, Bool.or_eq_true, not_or, Bool.not_eq_true, Bool.not_eq_false']
        at idle
      obtain ⟨⟨⟨sets, reads⟩, lists⟩, inactive⟩ := idle
      exact ⟨(ParamService.serviceParamEvents_of_idle sets reads lists inactive).symm, rfl, rfl⟩
  exact served (world.commanded input) (world.serveReceived input) rfl

variable [FlightFloat R] [FloatCast F R] [Estimator F R S E] [Controller F R S O C] [Mixer F R O M]
  [PwmDriver R D]

omit [FlightFloat R] [FloatCast F R] [PwmDriver R D] in
/-- Once the commands have been served the communication stage reports what it is asked for. -/
theorem responds_afterCommands (world : World F R E C M D) (input : CommStageInput F) :
    ∃ added, ReportsEach added (world.commanded input).paramService.answers ∧
      Responds (world.commanded input) (world.runCommunicationAndParameterServiceStage input)
        added := by
  -- After the parameters nobody is served.
  obtain ⟨service, comm, _⟩ := world.paramService_serveReceived input
  obtain ⟨added, reports, appends⟩ :=
    (world.commanded input).paramService.appends_serviceParamEvents
  have served : Responds (world.commanded input) (world.serveReceived input) added := by
    refine ⟨by rw [comm], by rw [comm], ?_⟩
    rw [← service] at appends
    exact appends
  have all := served.trans (world.unserved_communication input).responds
  rw [List.append_nil] at all
  exact ⟨added, reports, all⟩

/-- Every stage but communication drains a log and sends responses, or serves nobody. -/
theorem companionPart_stage (world : World F R E C M D) {stage : Stage F R}
    (other : stage.received = none) :
    (∃ (ready : World F R E C M D) (log : Option StatustextMsg) (maxResponses : Nat),
        stage.drained = some (log, maxResponses) ∧ ready.companionPart = world.companionPart ∧
          world.stage stage = ready.drainLogsAndSendResponsesLimited log maxResponses) ∨
      stage.drained = none ∧ (world.stage stage).companionPart = world.companionPart := by
  -- A stage that asks for control notes it afterwards.
  have controlled {ready : World F R E C M D} {nowUs : Nat}
      (asks : world.paced stage = some (ready, nowUs)) (finishedUs : Nat) :
      (noteControl (ready.runControlAndMixingStageIfControlDue nowUs) finishedUs).companionPart =
        world.companionPart := by
    have noted := (unserved_noteControl (ready.runControlAndMixingStageIfControlDue nowUs)
      finishedUs).companion
    have ran := (ready.runControlAndMixingStageIfControlDue_schedule nowUs).1
    exact (noted.trans ran).trans (world.unserved_paced asks).companion
  -- Only the sensor stage and the one for responses serve the companion.
  cases stage with
  | communication input => cases other
  | sensors input log =>
    have processed := (world.unserved_processSensorBusAfterUpdate input.raw input.nowMs).trans
      (unserved_updateSensorHealthAndCalibration _ input.nowUs)
    exact .inl ⟨_, log, COMM_RESPONSE_QUEUE_CAPACITY, rfl, processed.companion, rfl⟩
  | serviceSensors input =>
    have processed := world.unserved_sensed
      (show world.sensed (.serviceSensors input) = some (_, input.nowUs) from rfl)
    have settled := processed.trans (unserved_updateSensorHealthAndCalibration _ input.nowUs)
    exact .inr ⟨rfl, settled.companion⟩
  | imuTick input =>
    exact .inr ⟨rfl, controlled
      (show world.paced (.imuTick input) = some (_, input.nowUs) from rfl) input.finishedUs⟩
  | controlUpdate nowUs finishedUs =>
    exact .inr ⟨rfl, controlled
      (show world.paced (.controlUpdate nowUs finishedUs) = some (world, nowUs) from rfl)
        finishedUs⟩
  | rcCommand nowMs freshRc =>
    exact .inr ⟨rfl, (world.unserved_runRcCommandStateStages nowMs freshRc).companion⟩
  | control => exact .inr ⟨rfl, world.unserved_runControlAndMixingStageIfNewImu.companion⟩
  | telemetry nowUs => exact .inr ⟨rfl, (world.unserved_runTelemetryStage nowUs).companion⟩
  | realtimeTelemetry nowUs => exact .inr ⟨rfl, rfl⟩
  | responses log maxResponses => exact .inl ⟨world, log, maxResponses, rfl, rfl, rfl⟩
  | controlRate controlHz nowUs => exact .inr ⟨rfl, rfl⟩
  | serviceOpportunity nextUs => exact .inr ⟨rfl, rfl⟩

/-- Every stage but communication adds at most log texts to the log. -/
theorem responseLog_of_not_communication (world : World F R E C M D) {stage : Stage F R}
    (other : stage.received = none) :
    ∃ texts : List StatustextMsg,
      (world.stage stage).responseLog = world.responseLog ++ texts.map .statustext := by
  -- A stage that answers nobody may still send what waits.
  rcases world.companionPart_stage other with ⟨ready, log, maxResponses, _, same, sent⟩ | ⟨_, same⟩
  · have grown := ready.responseLog_drainLogsAndSendResponsesLimited log maxResponses
    rw [sent, grown, responseLog_congr same]
    exact ⟨_, rfl⟩
  · refine ⟨[], ?_⟩
    rw [responseLog_congr same, List.map_nil, List.append_nil]

/-- No stage loses, repeats or reorders a response. -/
theorem responseLog_stage (world : World F R E C M D) (stage : Stage F R) :
    world.responseLog <+: (world.stage stage).responseLog := by
  -- Every stage only adds to the log.
  cases receives : stage.received with
  | some input =>
    obtain ⟨_, _, commanded⟩ := world.responds_beforeParams input
    obtain ⟨_, _, served⟩ := world.responds_afterCommands input
    rw [Stage.eq_communication receives]
    exact ⟨_, (commanded.trans served).responseLog.symm⟩
  | none =>
    obtain ⟨texts, grown⟩ := world.responseLog_of_not_communication receives
    exact ⟨_, grown.symm⟩

end

end Communication

end World

/-- A bench vehicle at the default parameters. -/
def defaultBench : BenchWorld ℚ ℚ := benchWorld Params.new 4

/-- A companion that reads the first parameter as often as responses can wait, and says one thing
more. -/
def crowdedInput (last : IncomingMessage ℚ) : CommStageInput ℚ where
  incoming :=
    List.replicate 512 (.paramRequestRead
      { targetSystem := 1, targetComponent := 0, paramIdentifier := .index 0 }) ++ [last]
  clock := { timesyncUs := 1000, offboardUs := 1000 }
  storage := { readParams := fun _ params => (params, true), writeParams := fun _ _ => true }
  reactionUs := 1000

end Veloxity
