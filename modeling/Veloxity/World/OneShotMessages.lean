import Veloxity.Log.Drain
import Veloxity.World.ResponseLog

/-! Reports of hard faults and log texts on their way into the responses, over runs. -/

namespace Veloxity

open Library (Along along_congr run)

variable {F R S O E C M D : Type}

/-- The hard fault that a response reports. -/
def CommResponse.hardErrorMsg : CommResponse F → Option RosflightHardErrorMsg
  | .hardError msg => some msg
  | _ => none

/-- The log text that a response carries. -/
def CommResponse.statustextMsg : CommResponse F → Option StatustextMsg
  | .statustext msg => some msg
  | _ => none

/-- The hard faults that responses report. -/
def hardErrors (responses : List (CommResponse F)) : List RosflightHardErrorMsg :=
  responses.filterMap CommResponse.hardErrorMsg

/-- The log texts that responses carry. -/
def statustexts (responses : List (CommResponse F)) : List StatustextMsg :=
  responses.filterMap CommResponse.statustextMsg

@[simp] theorem hardErrors_append (first second : List (CommResponse F)) :
    hardErrors (first ++ second) = hardErrors first ++ hardErrors second :=
  List.filterMap_append

@[simp] theorem statustexts_append (first second : List (CommResponse F)) :
    statustexts (first ++ second) = statustexts first ++ statustexts second :=
  List.filterMap_append

@[simp] theorem hardErrors_map_hardError (msgs : List RosflightHardErrorMsg) :
    hardErrors (msgs.map (CommResponse.hardError (F := F))) = msgs := by
  rw [hardErrors, List.filterMap_map]
  exact List.filterMap_some

@[simp] theorem hardErrors_map_statustext (msgs : List StatustextMsg) :
    hardErrors (msgs.map (CommResponse.statustext (F := F))) = [] := by
  rw [hardErrors, List.filterMap_map]
  exact List.filterMap_eq_nil_iff.mpr fun _ _ => rfl

@[simp] theorem statustexts_map_statustext (msgs : List StatustextMsg) :
    statustexts (msgs.map (CommResponse.statustext (F := F))) = msgs := by
  rw [statustexts, List.filterMap_map]
  exact List.filterMap_some

@[simp] theorem statustexts_map_hardError (msgs : List RosflightHardErrorMsg) :
    statustexts (msgs.map (CommResponse.hardError (F := F))) = [] := by
  rw [statustexts, List.filterMap_map]
  exact List.filterMap_eq_nil_iff.mpr fun _ _ => rfl

/-- These responses neither report a hard fault nor carry a log text. -/
structure Recurring (responses : List (CommResponse F)) : Prop where
  hardErrors : hardErrors responses = []
  statustexts : statustexts responses = []

/-- Answers to commands and reports of parameters do neither, however many are queued. -/
theorem recurring_take {responses : List (CommResponse F)}
    (served : ∀ response ∈ responses,
      response.isAnswer = true ∨ response.reportedIndex.isSome = true) (count : Nat) :
    Recurring (responses.take count) := by
  refine ⟨List.filterMap_eq_nil_iff.mpr ?_, List.filterMap_eq_nil_iff.mpr ?_⟩
  all_goals
    intro response member
    have kind := served response (List.mem_of_mem_take member)
    -- The two kinds of one-shot messages are neither.
    cases response with
    | hardError msg => simp [CommResponse.isAnswer, CommResponse.reportedIndex] at kind
    | statustext msg => simp [CommResponse.isAnswer, CommResponse.reportedIndex] at kind
    | _ => rfl

/-- Such responses behind one another. -/
theorem Recurring.append {first second : List (CommResponse F)} (earlier : Recurring first)
    (later : Recurring second) : Recurring (first ++ second) :=
  ⟨by rw [hardErrors_append, earlier.hardErrors, later.hardErrors]; rfl,
    by rw [statustexts_append, earlier.statustexts, later.statustexts]; rfl⟩

/-- What is cut to the room left in front of a rest is whole if and only if there is room for it,
when there is at most one of it. -/
theorem append_take_append_eq_iff {α : Type} (first : List α) (taken : Option α) (rest : List α)
    (capacity used : Nat) :
    first ++ taken.toList.take (capacity - used) ++ rest = first ++ (taken.toList ++ rest) ↔
      (taken ≠ none → used < capacity) := by
  rw [List.append_assoc, List.append_cancel_left_eq, List.append_cancel_right_eq,
    List.take_eq_self_iff]
  -- Nothing always finds room.
  cases taken with
  | none => simp
  | some item =>
    simp only [Option.toList_some, List.length_singleton, ne_eq, reduceCtorEq, not_false_eq_true,
      forall_const]
    omega

/-- The same stage with another log text to queue. -/
def Stage.withLog (stage : Stage F R) (log : Option StatustextMsg) : Stage F R :=
  match stage with
  | .sensors input _ => .sensors input log
  | .responses _ maxResponses => .responses log maxResponses
  | other => other

/-- It still sends as many responses. -/
theorem Stage.drained_withLog (stage : Stage F R) (log : Option StatustextMsg) :
    (stage.withLog log).drained = stage.drained.map fun drained => (log, drained.2) := by
  cases stage <;> rfl

/-- It still receives the same messages. -/
theorem Stage.received_withLog (stage : Stage F R) (log : Option StatustextMsg) :
    (stage.withLog log).received = stage.received := by
  cases stage <;> rfl

/-- A world with the log entries that wait. -/
structure LoggingWorld (F R E C M D : Type) where
  world : World F R E C M D
  logs : LogQueue

/-- Anything may log at any time, and stages run. -/
inductive LoggingStep (F R : Type) where
  | log (entry : LogEntry)
  | stage (stage : Stage F R)

/-- What the board gives the step, if it is a communication stage. -/
def LoggingStep.received : LoggingStep F R → Option (CommStageInput F)
  | .log _ => none
  | .stage next => next.received

/-- The step drains log entries. -/
def LoggingStep.drains : LoggingStep F R → Bool
  | .log _ => false
  | .stage next => next.drained.isSome

/-- The entries that wait once the step has logged. -/
def LoggingStep.logged (logs : LogQueue) : LoggingStep F R → LogQueue
  | .log entry => logs.push entry
  | .stage _ => logs

namespace LoggingWorld

/-- The hard faults reported by a response sent or waiting, or still to be reported. -/
def reports (logging : LoggingWorld F R E C M D) : List RosflightHardErrorMsg :=
  hardErrors logging.world.responseLog ++ logging.world.pendingHardError.toList

/-- The log texts in a response sent or waiting. -/
def sentTexts (logging : LoggingWorld F R E C M D) : List StatustextMsg :=
  statustexts logging.world.responseLog

/-- The log texts in a response sent or waiting, or still in the queue of entries. -/
def texts (logging : LoggingWorld F R E C M D) : List StatustextMsg :=
  logging.sentTexts ++ logging.logs.contents.map LogEntry.statustext

/-- There is room for a hard fault to be reported when it is, and for the text of an entry when it
is drained. -/
structure HasRoom (logging : LoggingWorld F R E C M D) (input : LoggingStep F R) : Prop where
  report : ∀ received, input.received = some received →
    (logging.world.processCommStage received).hardErrorReport ≠ [] →
    (logging.world.processCommStage received).commEvents.responses.items.length <
      COMM_RESPONSE_QUEUE_CAPACITY
  text : input.drains = true → logging.world.companionLink.connected = true →
    logging.logs.contents ≠ [] →
    logging.world.commEvents.responses.items.length < COMM_RESPONSE_QUEUE_CAPACITY

variable [FlightFloat F] [FlightFloat R] [FloatCast F R] [ReflectionFormat F] [Estimator F R S E]
  [Controller F R S O C] [Mixer F R O M] [PwmDriver R D]

/-- Log an entry, or run a stage, which drains the entries if it drains any. -/
def step (logging : LoggingWorld F R E C M D) : LoggingStep F R → LoggingWorld F R E C M D
  | .log entry => { logging with logs := logging.logs.push entry }
  | .stage stage =>
    -- Until it drains, a stage touches neither the responses nor the link.
    let connected := logging.world.companionLink.connected
    { world := logging.world.stage (stage.withLog (logging.logs.drainedText connected))
      logs :=
        if stage.drained.isSome then
          (logging.logs.drainLogsToCommResponses logging.world.commEvents connected).1
        else logging.logs }

/-- Every hard fault and every log entry is either still where it comes from or, once, among the
responses sent or waiting. -/
structure Keeps (logging : LoggingWorld F R E C M D) (input : LoggingStep F R) : Prop where
  reports : (logging.step input).reports = logging.reports
  texts : (logging.step input).texts =
    logging.sentTexts ++ (input.logged logging.logs).contents.map LogEntry.statustext

end LoggingWorld

namespace World

/-- At most one hard fault is reported. -/
theorem hardErrorReport_eq (world : World F R E C M D) :
    ∃ taken : Option RosflightHardErrorMsg,
      world.hardErrorReport = taken.toList.map .hardError := by
  unfold hardErrorReport
  split
  · exact ⟨_, rfl⟩
  · exact ⟨none, rfl⟩

section

variable [FlightFloat F] [FlightFloat R] [FloatCast F R] [ReflectionFormat F] [Estimator F R S E]
  [Controller F R S O C] [Mixer F R O M] [PwmDriver R D]

/-- Once a communication stage has informed, it keeps the link and the pending hard fault. -/
theorem communication_of_informed (world : World F R E C M D) (input : CommStageInput F) :
    (world.stage (.communication input)).companionLink = (world.informed input).companionLink ∧
      (world.stage (.communication input)).pendingHardError =
        (world.informed input).pendingHardError := by
  have later := (world.unserved_communication input).companion
  -- Commands, parameters and responses come afterwards, and none of them touches the link.
  have commanded : (world.commanded input).companionLink = (world.informed input).companionLink ∧
      (world.commanded input).pendingHardError = (world.informed input).pendingHardError := by
    unfold commanded
    dsimp only
    split
    · simp only [applyCommandEvents, and_self]
    · exact ⟨rfl, rfl⟩
  have served : (world.serveReceived input).companionLink = (world.commanded input).companionLink ∧
      (world.serveReceived input).pendingHardError =
        (world.commanded input).pendingHardError := by
    show (if (world.commanded input).hasPendingParamWork then
        (world.commanded input).serviceParamEvents else world.commanded input).companionLink = _ ∧
      (if (world.commanded input).hasPendingParamWork then
        (world.commanded input).serviceParamEvents else world.commanded input).pendingHardError = _
    split
    · simp only [serviceParamEvents, and_self]
    · exact ⟨rfl, rfl⟩
  exact ⟨(congrArg CompanionPart.companionLink later).trans (served.1.trans commanded.1),
    (congrArg CompanionPart.pendingHardError later).trans (served.2.trans commanded.2)⟩

/-- As many reads as responses can wait leave no room. -/
theorem full_of_reads {world : World F R E C M D} {input : CommStageInput F}
    (reads : (world.commanded input).paramService.events.readRequests.items =
      List.replicate COMM_RESPONSE_QUEUE_CAPACITY (.index 0)) :
    (world.stage (.communication input)).commEvents.responses.items.length =
      COMM_RESPONSE_QUEUE_CAPACITY := by
  obtain ⟨added, reported, served⟩ := world.responds_afterCommands input
  -- Each read is answered with a value, and there are as many reads as places.
  have answered : COMM_RESPONSE_QUEUE_CAPACITY ≤ added.length := by
    have lengths := congrArg List.length reported
    have read : (List.replicate COMM_RESPONSE_QUEUE_CAPACITY (ParamIdentifier.index 0)).filterMap
        paramIdFromIdentifier = List.replicate COMM_RESPONSE_QUEUE_CAPACITY .PARAM_BAUD_RATE :=
      List.filterMap_replicate_of_some rfl
    rw [List.length_map, List.length_map, ParamService.answers, reads, read, List.length_append,
      List.length_map, List.length_append, List.length_replicate] at lengths
    omega
  show (world.runCommunicationAndParameterServiceStage input).commEvents.responses.items.length = _
  rw [served.queued.items, List.length_take, List.length_append]
  omega

/-- A hard fault that was pending is reported or still pending. -/
theorem pendingHardError_communication (world : World F R E C M D) (input : CommStageInput F) :
    hardErrors (world.processCommStage input).hardErrorReport ++
        (world.stage (.communication input)).pendingHardError.toList =
      world.pendingHardError.toList := by
  have received : (world.processCommStage input).pendingHardError = world.pendingHardError := by
    unfold processCommStage
    dsimp only
    split <;> rfl
  rw [(world.communication_of_informed input).2, informed, ← received]
  split
  · rw [pendingHardError_applyCompanionEvents, hardErrorReport]
    -- It is reported exactly when it is taken.
    split
    · rw [hardErrors_map_hardError, Option.toList_none, List.append_nil]
    · rfl
  · rename_i idle
    rw [hardErrorReport_of_idle idle]
    rfl

/-- A communication stage queues the report of a hard fault between other responses. -/
theorem responseLog_communication (world : World F R E C M D) (input : CommStageInput F) :
    ∃ early late : List (CommResponse F), Recurring early ∧ Recurring late ∧
      (world.stage (.communication input)).responseLog = world.responseLog ++ early ++
        (world.processCommStage input).hardErrorReport.take (COMM_RESPONSE_QUEUE_CAPACITY -
          (world.processCommStage input).commEvents.responses.items.length) ++ late := by
  obtain ⟨refusals, refused, received⟩ := world.responds_processCommStage input
  obtain ⟨answers, answered, commanded⟩ := world.responds_commanded input
  obtain ⟨reports, reported, served⟩ := world.responds_afterCommands input
  have refusing := recurring_take (fun response member => .inl (refused response member))
    (COMM_RESPONSE_QUEUE_CAPACITY - world.commEvents.responses.items.length)
  have answering := recurring_take (fun response member => .inl (answered response member))
    (COMM_RESPONSE_QUEUE_CAPACITY - (world.informed input).commEvents.responses.items.length)
  have reporting := recurring_take
    (fun response member => .inr (reported.isSome_reportedIndex response member))
    (COMM_RESPONSE_QUEUE_CAPACITY - (world.commanded input).commEvents.responses.items.length)
  refine ⟨_, _, refusing, answering.append reporting, ?_⟩
  -- Each part of the stage adds to the log what it finds room for.
  show (world.runCommunicationAndParameterServiceStage input).responseLog = _
  rw [served.responseLog, commanded.responseLog, (world.responds_informed input).responseLog,
    received.responseLog]
  simp only [List.append_assoc]

/-- A stage that drains log entries queues the text it is given as far as there is room, and
reports no hard fault. -/
theorem stage_of_drained (world : World F R E C M D) {stage : Stage F R}
    (other : stage.received = none) (drains : stage.drained.isSome = true)
    (log : Option StatustextMsg) :
    (world.stage (stage.withLog log)).responseLog = world.responseLog ++
        ((world.heardTexts log).take (COMM_RESPONSE_QUEUE_CAPACITY -
          world.commEvents.responses.items.length)).map .statustext ∧
      (world.stage (stage.withLog log)).pendingHardError = world.pendingHardError := by
  obtain ⟨⟨given, maxResponses⟩, drained⟩ := Option.isSome_iff_exists.mp drains
  have renewed : (stage.withLog log).drained = some (log, maxResponses) := by
    rw [Stage.drained_withLog, drained]
    rfl
  have silent : (stage.withLog log).received = none := by rw [Stage.received_withLog, other]
  rcases world.companionPart_stage silent with
    ⟨ready, text, budget, drains, same, sent⟩ | ⟨idle, _⟩
  · rw [renewed] at drains
    obtain ⟨rfl, rfl⟩ := Prod.mk.inj (Option.some.inj drains)
    have link : ready.companionLink = world.companionLink :=
      congrArg CompanionPart.companionLink same
    have events : ready.commEvents = world.commEvents := congrArg CompanionPart.commEvents same
    have pending : ready.pendingHardError = world.pendingHardError :=
      congrArg CompanionPart.pendingHardError same
    refine ⟨?_, ?_⟩
    · rw [sent, responseLog_drainLogsAndSendResponsesLimited, responseLog_congr same, heardTexts,
        link, events, heardTexts]
    · -- Neither draining nor sending reports.
      obtain ⟨commEvents, queued⟩ := ready.drainLogs_eq log
      rw [sent, drainLogsAndSendResponsesLimited, queued]
      exact pending
  · rw [renewed] at idle
    cases idle

end

end World

namespace LoggingWorld

variable [FlightFloat F] [FlightFloat R] [FloatCast F R] [ReflectionFormat F] [Estimator F R S E]
  [Controller F R S O C] [Mixer F R O M] [PwmDriver R D]

/-- A communication stage keeps the hard faults if and only if it finds room for their report, and
keeps the log texts. -/
theorem keeps_communication_iff (logging : LoggingWorld F R E C M D) (input : CommStageInput F) :
    logging.Keeps (.stage (.communication input)) ↔
      logging.HasRoom (.stage (.communication input)) := by
  obtain ⟨early, late, quiet, silent, grown⟩ := logging.world.responseLog_communication input
  obtain ⟨taken, reported⟩ := (logging.world.processCommStage input).hardErrorReport_eq
  have pending := logging.world.pendingHardError_communication input
  rw [reported, ← List.map_take] at grown
  rw [reported, hardErrors_map_hardError] at pending
  -- A communication stage sends no text.
  have texts : statustexts (logging.world.stage (.communication input)).responseLog =
      logging.sentTexts := by
    rw [grown]
    simp only [statustexts_append, quiet.statustexts, statustexts_map_hardError,
      silent.statustexts, List.append_nil, sentTexts]
  -- Only the report of the fault that is taken can be cut.
  have reports : (logging.step (.stage (.communication input))).reports = logging.reports ↔
      (taken ≠ none → (logging.world.processCommStage input).commEvents.responses.items.length <
        COMM_RESPONSE_QUEUE_CAPACITY) := by
    rw [← append_take_append_eq_iff (hardErrors logging.world.responseLog) taken
      (logging.world.stage (.communication input)).pendingHardError.toList, pending]
    show hardErrors (logging.world.stage (.communication input)).responseLog ++ _ = _ ↔ _
    rw [grown]
    simp only [hardErrors_append, quiet.hardErrors, hardErrors_map_hardError, silent.hardErrors,
      List.append_nil, LoggingWorld.reports]
    exact Iff.rfl
  have due : (logging.world.processCommStage input).hardErrorReport ≠ [] ↔ taken ≠ none := by
    rw [reported]
    cases taken <;> simp
  constructor
  · intro keeps
    refine ⟨?_, nofun⟩
    intro received receives reporting
    obtain rfl : input = received := Option.some.inj receives
    exact reports.mp keeps.reports (due.mp reporting)
  · intro room
    refine ⟨reports.mpr fun waits => room.report input rfl (due.mpr waits), ?_⟩
    show statustexts (logging.world.stage (.communication input)).responseLog ++ _ = _
    rw [texts]
    rfl

/-- A stage that drains log entries keeps their texts if and only if it finds room for one, and
keeps the hard faults. -/
theorem keeps_draining_iff (logging : LoggingWorld F R E C M D) {stage : Stage F R}
    (other : stage.received = none) (drains : stage.drained.isSome = true) :
    logging.Keeps (.stage stage) ↔ logging.HasRoom (.stage stage) := by
  have left := logging.logs.drainedText_append logging.world.commEvents
    logging.world.companionLink.connected
  have heard : logging.world.heardTexts
      (logging.logs.drainedText logging.world.companionLink.connected) =
        (logging.logs.drainedText logging.world.companionLink.connected).toList := by
    unfold World.heardTexts LogQueue.drainedText
    -- Nothing is taken while nobody listens.
    cases logging.world.companionLink.connected <;> rfl
  obtain ⟨grown, pending⟩ := logging.world.stage_of_drained other drains
    (logging.logs.drainedText logging.world.companionLink.connected)
  rw [heard] at grown
  have world : (logging.step (.stage stage)).world = logging.world.stage
      (stage.withLog (logging.logs.drainedText logging.world.companionLink.connected)) := rfl
  have logs : (logging.step (.stage stage)).logs = (logging.logs.drainLogsToCommResponses
      logging.world.commEvents logging.world.companionLink.connected).1 := if_pos drains
  have kept : (logging.step (.stage stage)).reports = logging.reports := by
    rw [reports, world, grown, pending, hardErrors_append, hardErrors_map_statustext,
      List.append_nil, reports]
  have placed : (logging.step (.stage stage)).texts =
        logging.sentTexts ++ logging.logs.contents.map LogEntry.statustext ↔
      (logging.logs.drainedText logging.world.companionLink.connected ≠ none →
        logging.world.commEvents.responses.items.length < COMM_RESPONSE_QUEUE_CAPACITY) := by
    rw [← append_take_append_eq_iff logging.sentTexts, left, texts, sentTexts, world, logs, grown,
      statustexts_append, statustexts_map_statustext, sentTexts]
  rw [LogQueue.drainedText_ne_none_iff] at placed
  constructor
  · intro keeps
    refine ⟨fun received receives => ?_, fun _ connected waits => ?_⟩
    · -- Such a stage receives nothing.
      rw [LoggingStep.received, other] at receives
      cases receives
    · exact placed.mp keeps.texts ⟨connected, waits⟩
  · intro room
    exact ⟨kept, placed.mpr fun ⟨connected, waits⟩ => room.text drains connected waits⟩

/-- A stage that neither communicates nor drains log entries keeps both. -/
theorem keeps_other (logging : LoggingWorld F R E C M D) {stage : Stage F R}
    (other : stage.received = none) (idle : stage.drained = none) :
    logging.Keeps (.stage stage) := by
  have same : (logging.step (.stage stage)).world.companionPart = logging.world.companionPart := by
    have silent (log : Option StatustextMsg) : (stage.withLog log).received = none := by
      rw [Stage.received_withLog, other]
    have undrained (log : Option StatustextMsg) : (stage.withLog log).drained = none := by
      rw [Stage.drained_withLog, idle]
      rfl
    rcases logging.world.companionPart_stage (silent (logging.logs.drainedText
      logging.world.companionLink.connected)) with ⟨_, _, _, drains, _⟩ | ⟨_, same⟩
    · rw [undrained] at drains
      cases drains
    · exact same
  have pending : (logging.step (.stage stage)).world.pendingHardError =
      logging.world.pendingHardError := congrArg CompanionPart.pendingHardError same
  have logs : (logging.step (.stage stage)).logs = logging.logs := by
    simp only [step, idle, Option.isSome_none, Bool.false_eq_true, ↓reduceIte]
  -- It serves nobody.
  refine ⟨?_, ?_⟩
  · rw [reports, World.responseLog_congr same, pending, reports]
  · rw [texts, sentTexts, World.responseLog_congr same, logs]
    rfl

/-- A step keeps the hard faults and the log texts if and only if it finds room for them. -/
theorem keeps_iff (logging : LoggingWorld F R E C M D) (input : LoggingStep F R) :
    logging.Keeps input ↔ logging.HasRoom input := by
  cases input with
  | log entry =>
    -- Nothing is taken where something is logged.
    exact iff_of_true ⟨rfl, rfl⟩ ⟨nofun, nofun⟩
  | stage next =>
    cases receives : next.received with
    | some input =>
      have same := Stage.eq_communication receives
      subst same
      exact logging.keeps_communication_iff input
    | none =>
      cases drains : next.drained.isSome with
      | true => exact logging.keeps_draining_iff receives drains
      | false =>
        have idle := Option.isSome_eq_false_iff.mp drains
        refine iff_of_true (logging.keeps_other receives (Option.isNone_iff_eq_none.mp idle)) ?_
        refine ⟨fun received given => ?_, fun draining => ?_⟩
        · rw [LoggingStep.received, receives] at given
          cases given
        · rw [LoggingStep.drains, drains] at draining
          cases draining

/-- A text that is drained for a companion that is heard of while it reads more than it can be told
is lost. -/
theorem not_keeps_of_reads {world : World F R E C M D} {logs : LogQueue}
    {input : CommStageInput F} (waits : logs.contents ≠ [])
    (reads : (world.commanded input).paramService.events.readRequests.items =
      List.replicate COMM_RESPONSE_QUEUE_CAPACITY (.index 0))
    (connected : (world.informed input).companionLink.connected = true)
    {stage : Stage F R} (drains : stage.drained.isSome = true) :
    ¬ (step ⟨world, logs⟩ (.stage (.communication input))).Keeps (.stage stage) := by
  have linked := congrArg CompanionLinkState.connected (world.communication_of_informed input).1
  -- The stage leaves no room, and the entry still waits.
  have full := World.full_of_reads reads
  intro keeps
  have room := ((keeps_iff _ _).mp keeps).text drains (linked.trans connected) waits
  exact absurd full (Nat.ne_of_lt room)

/-- Along every run the hard faults and the log texts are kept, none lost and none repeated, if and
only if each finds room among the responses when it is taken. -/
theorem keeps_along_iff (start : LoggingWorld F R E C M D) (inputs : List (LoggingStep F R)) :
    Along Keeps step start inputs ↔ Along HasRoom step start inputs :=
  along_congr (fun _ => True) (fun _ _ _ => trivial)
    (fun logging input _ => logging.keeps_iff input) trivial inputs

end LoggingWorld

/-- A companion that is heard of when the responses to its reads have taken all room. -/
def crowdedHeartbeat : CommStageInput ℚ :=
  crowdedInput (.heartbeat
    { vehicleType := 1, autopilot := 2, baseMode := 3, customMode := 4, systemStatus := 5
      mavlinkVersion := 6 })

/-- An entry that waits for a companion leaves its queue for a response that finds no room. -/
theorem crowdedHeartbeat_loses_text :
    ¬ Along LoggingWorld.Keeps LoggingWorld.step ⟨defaultBench, .new⟩
      [.log .empty, .stage (.communication crowdedHeartbeat), .stage (.responses none 1)] := by
  have reads : (defaultBench.commanded crowdedHeartbeat).paramService.events.readRequests.items =
      List.replicate COMM_RESPONSE_QUEUE_CAPACITY (.index 0) := by
    decide +kernel
  have connected : (defaultBench.informed crowdedHeartbeat).companionLink.connected = true := by
    decide +kernel
  have waits : (LogQueue.new.push .empty).contents ≠ [] := by
    rw [LogQueue.contents_push]
    exact List.append_ne_nil_of_right_ne_nil _ (List.cons_ne_nil _ _)
  -- The entry waits for the companion that reads.
  intro keeps
  exact LoggingWorld.not_keeps_of_reads waits reads connected rfl keeps.2.2.1

end Veloxity
