import Veloxity.World.ResponseLog

/-! Which commands are acknowledged over runs of the stages. -/

namespace Veloxity

open Library (Along along_congr run)

variable {F R S O E C M D : Type}

/-- The commands a stage receives, in order. -/
def Stage.commands (stage : Stage F R) : List RosflightCmd :=
  match stage.received with
  | none => []
  | some input => receivedCommands input.incoming

/-- The commands that responses acknowledge, in order. -/
def acknowledgements (responses : List (CommResponse F)) : List RosflightCmd :=
  responses.filterMap CommResponse.acknowledged

/-- The last item of a list, if it is kept, is the whole list when that is one kept item or none. -/
theorem filter_getLast_perm_iff {α : Type} (items : List α) (kept : α → Prop) [DecidablePred kept] :
    (items.getLast?.toList.filter fun item => kept item).Perm items ↔
      items.length ≤ 1 ∧ ∀ item ∈ items, kept item := by
  rcases items with _ | ⟨first, _ | ⟨second, rest⟩⟩
  · simp
  · by_cases keeps : kept first
    · simp [keeps]
    · simp [keeps]
  · constructor
    · intro perm
      -- At most one item is left of two or more.
      have lengths := perm.length_eq
      have bound := List.length_filter_le (fun item => decide (kept item))
        (first :: second :: rest).getLast?.toList
      have last : (first :: second :: rest).getLast?.toList.length ≤ 1 := by
        cases (first :: second :: rest).getLast? <;> simp
      rw [lengths, List.length_cons, List.length_cons] at bound
      omega
    · rintro ⟨short, _⟩
      simp at short

/-- Responses that acknowledge nothing do so however many of them there are. -/
theorem acknowledgements_take_of_silent {responses : List (CommResponse F)}
    (silent : ∀ response ∈ responses, response.acknowledged = none) (count : Nat) :
    acknowledgements (responses.take count) = [] :=
  List.filterMap_eq_nil_iff.mpr fun response member => silent response (List.mem_of_mem_take member)

/-- Acknowledgements of some responses come before those of later ones. -/
theorem acknowledgements_append (first second : List (CommResponse F)) :
    acknowledgements (first ++ second) = acknowledgements first ++ acknowledgements second :=
  List.filterMap_append

/-- Behind what leads it, an acknowledgement is among the first responses if they are enough. -/
theorem acknowledgements_take {leading reports : List (CommResponse F)}
    {msg : RosflightCmdAckMsg} (quiet : ∀ response ∈ leading, response.acknowledged = none)
    (silent : ∀ response ∈ reports, response.acknowledged = none) (count : Nat) :
    acknowledgements ((leading ++ [CommResponse.cmdAck msg] ++ reports).take count) =
      if leading.length < count then [msg.command] else [] := by
  split
  · rename_i reached
    -- The cut falls behind the acknowledgement.
    have whole : (leading ++ [CommResponse.cmdAck msg]).length ≤ count := by
      rw [List.length_append]
      exact reached
    have first := acknowledgements_take_of_silent quiet leading.length
    rw [List.take_length] at first
    rw [List.take_append, List.take_of_length_le whole, acknowledgements_append,
      acknowledgements_append, first, acknowledgements_take_of_silent silent]
    rfl
  · rename_i missed
    rw [List.append_assoc, List.take_append_of_le_length (Nat.not_lt.mp missed)]
    exact acknowledgements_take_of_silent quiet count

/-- Only empty queues hold no command. -/
theorem CommandEventQueues.eq_of_isEmpty {requests : CommandEventQueues F}
    (empty : requests.isEmpty = true) : requests = {} := by
  rcases requests with ⟨⟨_, _⟩, ⟨_, _⟩, ⟨_, _⟩, ⟨_, _⟩, ⟨_, _⟩, ⟨_, _⟩, ⟨_, _⟩, ⟨_, _⟩⟩
  simp only [isEmpty, Library.BoundedQueue.isEmpty, Bool.and_eq_true, List.isEmpty_iff] at empty
  -- Queues with the same items are the same.
  obtain ⟨⟨⟨⟨⟨⟨⟨rfl, rfl⟩, rfl⟩, rfl⟩, rfl⟩, rfl⟩, rfl⟩, rfl⟩ := empty
  rfl

/-- A command that finds its queue idle is queued without an answer. -/
theorem MessageDispatch.cmd_of_idle {dispatch : MessageDispatch F} {offboardControlRequests}
    (idle : dispatch.commandEvents = { offboardControlRequests }) (state : StateManager) :
    dispatch.refused = [] ∧ dispatch.cmd.commandEvents.owedAnswers state =
      dispatch.comm.msgs.cmd.toList.map fun command =>
        (CommandService.leadOf state command, command) := by
  -- Only a command that was received is acted on.
  unfold refused cmd
  cases waiting : dispatch.comm.msgs.cmd with
  | none =>
    refine ⟨rfl, ?_⟩
    dsimp only
    rw [idle]
    rfl
  | some command =>
    obtain ⟨room, owed⟩ :=
      CommandEventQueues.route_of_idle offboardControlRequests state command
    dsimp only
    rw [idle, room]
    exact ⟨rfl, owed⟩

namespace World

/-- No command waits anywhere. -/
structure Settled (world : World F R E C M D) : Prop where
  slot : world.comm.msgs.cmd = none
  queues : world.commandEvents = {}

/-- Acting on messages queues the last command, and answers none. -/
theorem processCommStage_of_settled {world : World F R E C M D} (settled : world.Settled)
    (input : CommStageInput F) :
    Responds world (world.processCommStage input) [] ∧
      (world.processCommStage input).comm.msgs.cmd = none ∧
      (world.processCommStage input).state = world.state ∧
      (world.processCommStage input).commandEvents.owedAnswers world.state =
        (receivedCommands input.incoming).getLast?.toList.map fun command =>
          (CommandService.leadOf world.state command, command) := by
  have stored : (world.dispatch input).comm.msgs.cmd =
      (receivedCommands input.incoming).getLast? := by
    have slot := cmd_store world.comm.msgs input.incoming
    rw [settled.slot, Option.or_none] at slot
    exact slot
  unfold processCommStage
  dsimp only
  split
  · rename_i nothing
    -- Without a pending message there was no command.
    have pending : (world.dispatch input).comm.msgs.hasPending = false :=
      (Bool.not_eq_true' _).mp nothing
    have none : (world.dispatch input).comm.msgs.cmd = none := by
      simp only [Messages.hasPending, Bool.or_eq_false_iff, Option.isSome_eq_false_iff,
        Option.isNone_iff_eq_none] at pending
      exact pending.1.1.2
    rw [none] at stored
    refine ⟨⟨rfl, rfl, .refl _⟩, none, rfl, ?_⟩
    rw [settled.queues, ← stored]
    rfl
  · -- Otherwise the command goes to its own queue, and the messages before it answer nothing.
    have prepares := (world.dispatch input).prepares_prepared input.clock
    obtain ⟨replies, sysid, slot, appends⟩ :=
      ((world.dispatch input).prepared input.clock).appends_cmd
    obtain ⟨offboardControlRequests, requests⟩ := prepares.requests
    have idle : ((world.dispatch input).prepared input.clock).commandEvents =
        { offboardControlRequests } := by
      rw [requests, show (world.dispatch input).commandEvents = _ from settled.queues]
    obtain ⟨unrefused, owed⟩ := MessageDispatch.cmd_of_idle idle world.state
    rw [prepares.cmd, stored] at owed
    rw [prepares.commEvents, unrefused] at appends
    exact ⟨⟨(congrArg _ replies).trans prepares.sent, sysid.trans prepares.sysid, appends⟩, slot,
      rfl, owed⟩

/-- Being informed acknowledges nothing, and leaves the last command to be answered. -/
theorem informed_of_settled {world : World F R E C M D} (settled : world.Settled)
    (input : CommStageInput F) :
    ∃ added, (∀ response ∈ added, response.acknowledged = none) ∧
      Responds world (world.informed input) added ∧ (world.informed input).comm.msgs.cmd = none ∧
      (world.informed input).state = world.state ∧
      (world.informed input).commandEvents.owedAnswers world.state =
        (receivedCommands input.incoming).getLast?.toList.map fun command =>
          (CommandService.leadOf world.state command, command) := by
  obtain ⟨received, slot, state, owed⟩ := processCommStage_of_settled settled input
  unfold informed
  dsimp only
  split
  · have reported := responds_applyCompanionEvents (world.processCommStage input)
    refine ⟨_, ?_, received.trans reported, slot, state, owed⟩
    intro response member
    -- The only response is the report of a fault.
    rw [List.nil_append, hardErrorReport] at member
    split at member
    · obtain ⟨msg, _, rfl⟩ := List.mem_map.mp member
      rfl
    · cases member
  · exact ⟨[], by simp, received, slot, state, owed⟩

section

variable [FlightFloat F] [Controller F R S O C]

/-- Serving answers what is owed and leaves no command waiting. -/
theorem commanded_answers (world : World F R E C M D) (input : CommStageInput F) :
    (world.commanded input).commandEvents = {} ∧
      (world.commanded input).comm = (world.informed input).comm ∧
      ∃ added, Answers ((world.informed input).commandEvents.owedAnswers
          (world.informed input).state) added ∧
        Responds (world.informed input) (world.commanded input) added := by
  unfold commanded
  dsimp only
  split
  · obtain ⟨emptied, added, answered, responds⟩ :=
      (world.informed input).responds_applyCommandEvents input.storage
    exact ⟨emptied, by simp only [applyCommandEvents], added, answered, responds⟩
  · rename_i nothing
    -- Nothing is owed by empty queues.
    have none : (world.informed input).commandEvents = {} :=
      CommandEventQueues.eq_of_isEmpty (by simpa using nothing)
    refine ⟨none, rfl, [], ?_, .refl _⟩
    rw [none]
    exact .nothing

/-- The acknowledgement of a command, behind what leads it, finds room when the commands are
served. -/
def HasRoomForAck (world : World F R E C M D) (input : CommStageInput F) (command : RosflightCmd) :
    Prop :=
  (world.informed input).commEvents.responses.items.length +
    (CommandService.leadOf (F := F) world.state command).length < COMM_RESPONSE_QUEUE_CAPACITY

instance (world : World F R E C M D) (input : CommStageInput F) (command : RosflightCmd) :
    Decidable (world.HasRoomForAck input command) :=
  inferInstanceAs (Decidable (_ < _))

end

variable [FlightFloat F] [FlightFloat R] [FloatCast F R] [ReflectionFormat F] [Estimator F R S E]
  [Controller F R S O C] [Mixer F R O M] [PwmDriver R D]

/-- A stage adds to the log one acknowledgement of each command it receives, in some order. -/
def AcknowledgesCommands (world : World F R E C M D) (stage : Stage F R) : Prop :=
  (acknowledgements (world.stage stage).responseLog).Perm
    (acknowledgements world.responseLog ++ stage.commands)

/-- A stage receives one command at most, and finds room for its acknowledgement. -/
def ReceivesOneWithRoom (world : World F R E C M D) (stage : Stage F R) : Prop :=
  stage.commands.length ≤ 1 ∧
    ∀ input, stage.received = some input → ∀ command ∈ receivedCommands input.incoming,
      world.HasRoomForAck input command

omit [FlightFloat R] [FloatCast F R] [PwmDriver R D] in
/-- A communication stage acknowledges the last command it receives, if there is room. -/
theorem acknowledgements_communication {world : World F R E C M D} (settled : world.Settled)
    (input : CommStageInput F) :
    acknowledgements (world.runCommunicationAndParameterServiceStage input).responseLog =
      acknowledgements world.responseLog ++ (receivedCommands input.incoming).getLast?.toList.filter
        fun command => world.HasRoomForAck input command := by
  obtain ⟨faults, silent, informed, _, state, owed⟩ := informed_of_settled settled input
  obtain ⟨_, _, answers, answered, commanded⟩ := world.commanded_answers input
  obtain ⟨reports, reported, served⟩ := world.responds_afterCommands input
  have quiet : ∀ response ∈ reports, response.acknowledged = none := fun response member =>
    CommResponse.acknowledged_of_report (reported.isSome_reportedIndex response member)
  have before : acknowledgements (world.informed input).responseLog =
      acknowledgements world.responseLog := by
    rw [informed.responseLog, acknowledgements_append, acknowledgements_take_of_silent silent,
      List.append_nil]
  rw [(commanded.trans served).responseLog, acknowledgements_append, before]
  rw [state, owed] at answered
  congr 1
  -- There is at most one command to be answered.
  cases last : (receivedCommands input.incoming).getLast? with
  | none =>
    rw [last] at answered
    cases answered
    exact acknowledgements_take_of_silent quiet _
  | some command =>
    rw [last] at answered
    obtain ⟨success, rfl⟩ := answered.single
    have lead : ∀ response ∈ CommandService.leadOf (F := F) world.state command,
        response.acknowledged = none := CommandService.acknowledged_leadOf world.state command
    rw [acknowledgements_take lead quiet, Option.toList_some]
    -- The acknowledgement comes behind the lead of its command, so it needs room behind that.
    by_cases room : world.HasRoomForAck input command
    · have reached : (CommandService.leadOf (F := F) world.state command).length <
          COMM_RESPONSE_QUEUE_CAPACITY -
            (world.informed input).commEvents.responses.items.length :=
        Nat.lt_sub_of_add_lt (by rw [Nat.add_comm]; exact room)
      rw [if_pos reached]
      simp [room]
    · have missed : ¬ (CommandService.leadOf (F := F) world.state command).length <
          COMM_RESPONSE_QUEUE_CAPACITY -
            (world.informed input).commEvents.responses.items.length := by
        unfold HasRoomForAck at room
        omega
      rw [if_neg missed]
      simp [room]

/-- Between stages no command waits. -/
theorem settled_stage {world : World F R E C M D} (settled : world.Settled) (stage : Stage F R) :
    (world.stage stage).Settled := by
  cases receives : stage.received with
  | some input =>
    rw [Stage.eq_communication receives]
    obtain ⟨_, _, _, slot, _⟩ := informed_of_settled settled input
    obtain ⟨queues, comm, _⟩ := world.commanded_answers input
    obtain ⟨_, kept, left⟩ := world.paramService_serveReceived input
    -- Nothing behind the service of commands touches them.
    have rest := (world.unserved_communication input).companion
    have msgs : (world.stage (.communication input)).comm.msgs =
        (world.serveReceived input).comm.msgs := congrArg CompanionPart.msgs rest
    have requests : (world.stage (.communication input)).commandEvents =
        (world.serveReceived input).commandEvents := congrArg CompanionPart.commandEvents rest
    refine ⟨?_, requests.trans (left.trans queues)⟩
    rw [msgs, kept, comm]
    exact slot
  | none =>
    have part {after : World F R E C M D} (same : after.companionPart = world.companionPart) :
        after.Settled := by
      have msgs : after.comm.msgs = world.comm.msgs := congrArg CompanionPart.msgs same
      have requests : after.commandEvents = world.commandEvents :=
        congrArg CompanionPart.commandEvents same
      exact ⟨by rw [msgs]; exact settled.slot, by rw [requests]; exact settled.queues⟩
    rcases world.companionPart_stage receives with ⟨ready, log, maxResponses, _, same, sent⟩ |
      ⟨_, same⟩
    · -- Sending responses touches neither.
      obtain ⟨commEvents, drained⟩ := ready.drainLogs_eq log
      rw [sent, drainLogsAndSendResponsesLimited, drained]
      refine ⟨?_, (part same).queues⟩
      dsimp only
      rw [CommManager.msgs_sendCommResponsesLimited]
      exact (part same).slot
    · exact part same

/-- What a stage acknowledges is what it receives exactly when that is one command with room. -/
theorem acknowledgesCommands_iff {world : World F R E C M D} (settled : world.Settled)
    (stage : Stage F R) : world.AcknowledgesCommands stage ↔ world.ReceivesOneWithRoom stage := by
  cases receives : stage.received with
  | some input =>
    have acknowledged := acknowledgements_communication settled input
    have ran : world.stage stage = world.runCommunicationAndParameterServiceStage input := by
      rw [Stage.eq_communication receives]
      rfl
    have commands : stage.commands = receivedCommands input.incoming := by
      rw [Stage.commands, receives]
    rw [AcknowledgesCommands, ran, acknowledged, List.perm_append_left_iff, commands,
      filter_getLast_perm_iff, ReceivesOneWithRoom, commands]
    simp [receives]
  | none =>
    -- No other stage receives a command or adds an acknowledgement.
    obtain ⟨texts, grown⟩ := world.responseLog_of_not_communication receives
    have commands : stage.commands = [] := by rw [Stage.commands, receives]
    have silent : acknowledgements (texts.map (CommResponse.statustext (F := F))) = [] := by
      simp [acknowledgements, CommResponse.acknowledged]
    rw [AcknowledgesCommands, grown, acknowledgements_append, silent, ReceivesOneWithRoom, commands]
    simp [receives]

/-- From the start on, every command is acknowledged once exactly when no pass receives a second
one and each acknowledgement finds room. -/
theorem acknowledgesCommands_along_iff (params : Params F) (state : StateManager) (estimator : E)
    (controller : C) (mixer : M) (pwm : D) (nowUs : Nat) (backup : Option RosflightHardErrorMsg)
    (stages : List (Stage F R)) :
    Along AcknowledgesCommands stage
        (World.init params state estimator controller mixer pwm nowUs backup) stages ↔
      Along ReceivesOneWithRoom stage
        (World.init params state estimator controller mixer pwm nowUs backup) stages := by
  apply along_congr Settled
  · -- Every stage leaves the queues of requests empty, and from such a state both sides agree.
    intro world stage settled
    exact settled_stage settled stage
  · intro world stage settled
    exact acknowledgesCommands_iff settled stage
  · exact ⟨rfl, rfl⟩

end World

/-- A companion that sends two commands before it is served. -/
def pairedCommands : CommStageInput ℚ where
  incoming := [.cmd .writeParams, .cmd .sendVersion]
  clock := { timesyncUs := 1000, offboardUs := 1000 }
  storage := { readParams := fun _ params => (params, true), writeParams := fun _ _ => true }
  reactionUs := 1000

/-- Only the second is acknowledged. -/
theorem pairedCommands_unacknowledged :
    ¬ Along World.AcknowledgesCommands World.stage defaultBench
      [.communication pairedCommands] := by
  -- The first of the two commands is never queued.
  have slot : defaultBench.comm.msgs.cmd = none := rfl
  intro acknowledges
  have received := (World.acknowledgesCommands_iff ⟨slot, rfl⟩ _).mp acknowledges.1
  exact absurd received.1 (by decide)

end Veloxity
