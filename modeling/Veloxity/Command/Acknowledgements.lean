import Veloxity.Comm.DispatchLaws
import Veloxity.Command.Service
import Veloxity.Params.Acknowledgements

/-! Which responses serving the commands queues. -/

namespace Veloxity

open CommEventQueues (Appends appends_respond)
open Library (BoundedQueue)

variable {F : Type}

/-- The command that a response acknowledges. -/
def CommResponse.acknowledged : CommResponse F → Option RosflightCmd
  | .cmdAck msg => some msg.command
  | _ => none

/-- Responses that answer commands one after another, each with its acknowledgement behind what
leads it. -/
inductive Answers :
    List (List (CommResponse F) × RosflightCmd) → List (CommResponse F) → Prop where
  | nothing : Answers [] []
  | next (leading : List (CommResponse F)) (command : RosflightCmd) (success : RosflightCmdResponse)
      {rest : List (List (CommResponse F) × RosflightCmd)} {later : List (CommResponse F)}
      (answered : Answers rest later) :
      Answers ((leading, command) :: rest) (leading ++ .cmdAck { command, success } :: later)

/-- The response acknowledges a command, or gives the version that one asks for. -/
def CommResponse.isAnswer : CommResponse F → Bool
  | .cmdAck _ | .version _ => true
  | _ => false

/-- Answers to commands report no parameter. -/
theorem CommResponse.reportedIndex_of_isAnswer {response : CommResponse F}
    (answers : response.isAnswer = true) : response.reportedIndex = none := by
  cases response with
  | paramValue msg => cases answers
  | _ => rfl

namespace Answers

/-- Answers to some commands, and then to others. -/
theorem append {first second : List (List (CommResponse F) × RosflightCmd)}
    {earlier later : List (CommResponse F)} (answered : Answers first earlier)
    (continued : Answers second later) : Answers (first ++ second) (earlier ++ later) := by
  -- The induction is on the first answers.
  induction answered with
  | nothing => exact continued
  | next leading command success _ ih =>
    rw [List.append_assoc, List.cons_append, List.cons_append]
    exact .next leading command success ih

/-- A single command is acknowledged last. -/
theorem single {leading added : List (CommResponse F)} {command : RosflightCmd}
    (answered : Answers [(leading, command)] added) :
    ∃ success, added = leading ++ [.cmdAck { command, success }] := by
  -- There are no further answers.
  cases answered with
  | next _ _ success rest =>
    cases rest
    exact ⟨success, rfl⟩

/-- Answers to commands are such when all that leads them is. -/
theorem isAnswer_of_leading {owed : List (List (CommResponse F) × RosflightCmd)}
    {added : List (CommResponse F)} (answered : Answers owed added)
    (leading : ∀ answer ∈ owed, ∀ response ∈ answer.1, response.isAnswer = true) :
    ∀ response ∈ added, response.isAnswer = true := by
  -- The induction is on the answered commands.
  induction answered with
  | nothing => simp
  | next lead command success _ ih =>
    intro response member
    rcases List.mem_append.mp member with early | late
    · exact leading _ List.mem_cons_self response early
    · rcases List.mem_cons.mp late with rfl | later
      · rfl
      · exact ih (fun answer listed => leading answer (List.mem_cons_of_mem _ listed)) response
          later

end Answers

/-- Reports of parameters acknowledge no command. -/
theorem CommResponse.acknowledged_of_report {response : CommResponse F}
    (report : response.reportedIndex.isSome = true) : response.acknowledged = none := by
  cases response with
  | paramValue msg => rfl
  | _ => cases report

namespace CommandService

variable {R S O C : Type}

/-- A handler that keeps the waiting requests and acknowledges its command behind a lead. -/
def AnswersWith (leading : List (CommResponse F))
    (act : CommandService F C → RosflightCmd → CommandService F C) : Prop :=
  ∀ service command, (act service command).requests = service.requests ∧
    ∃ success, Appends service.commEvents (act service command).commEvents
      (leading ++ [.cmdAck { command, success }])

/-- Draining a queue answers its commands in order. -/
theorem drain_answers {capacity : Nat} {leading : List (CommResponse F)}
    {act : CommandService F C → RosflightCmd → CommandService F C}
    (answers : AnswersWith leading act)
    (service : CommandService F C) (queue : BoundedQueue capacity RosflightCmd) :
    (queue.drain act service).1.requests = service.requests ∧
      ∃ added, Answers (queue.items.map (leading, ·)) added ∧
        Appends service.commEvents (queue.drain act service).1.commEvents added := by
  rcases queue with ⟨commands, bounded⟩
  simp only [BoundedQueue.drain]
  clear bounded
  -- The induction is on the commands, with the service moving along.
  induction commands generalizing service with
  | nil => exact ⟨rfl, [], .nothing, .refl _⟩
  | cons command rest ih =>
    obtain ⟨kept, success, first⟩ := answers service command
    obtain ⟨unchanged, added, answered, later⟩ := ih (act service command)
    refine ⟨unchanged.trans kept, leading ++ .cmdAck { command, success } :: added, ?_, ?_⟩
    · exact .next leading command success answered
    · have both := first.trans later
      rw [List.append_assoc] at both
      exact both

section

variable [FlightFloat F]

omit [FlightFloat F] in
/-- An acknowledgement alone. -/
theorem appends_emitCmdAck (service : CommandService F C) (command : RosflightCmd)
    (success : Bool) :
    (service.emitCmdAck command success).requests = service.requests ∧
      ∃ outcome, Appends service.commEvents (service.emitCmdAck command success).commEvents
        ([] ++ [.cmdAck { command, success := outcome }]) :=
  ⟨rfl, _, appends_respond _ _⟩

/-- Calibration requests are acknowledged. -/
theorem answersWith_applyCalibrationRequest (state : StateManager) :
    AnswersWith (F := F) (C := C) [] (applyCalibrationRequest state) := by
  intro service command
  unfold applyCalibrationRequest
  split
  · exact service.appends_emitCmdAck command false
  · -- Opening windows queues no response.
    have quiet : (service.startCalibration command).requests = service.requests ∧
        (service.startCalibration command).commEvents = service.commEvents := by
      cases command <;> exact ⟨rfl, rfl⟩
    have answered := (service.startCalibration command).appends_emitCmdAck command true
    rw [quiet.1, quiet.2] at answered
    exact answered

/-- Resets to the defaults are acknowledged. -/
theorem answersWith_applyParamDefaultsRequest (state : StateManager) :
    AnswersWith (F := F) (C := C) [] (applyParamDefaultsRequest state) := by
  intro service command
  unfold applyParamDefaultsRequest
  -- An armed vehicle refuses, and any other one answers with the outcome.
  split
  · exact service.appends_emitCmdAck command false
  · exact ⟨rfl, _, appends_respond _ _⟩

/-- Trims are acknowledged. -/
theorem answersWith_applyRcTrimCalibrationRequest [Controller F R S O C] (state : StateManager) :
    AnswersWith (F := F) (C := C) [] (applyRcTrimCalibrationRequest state) := by
  intro service command
  unfold applyRcTrimCalibrationRequest
  -- An armed vehicle refuses, and any other one answers with the outcome.
  split
  · exact service.appends_emitCmdAck command false
  · exact ⟨rfl, _, appends_respond _ _⟩

omit [FlightFloat F] in
/-- Requests for the board are acknowledged. -/
theorem answersWith_applyBoardCommandRequest (state : StateManager) (storage : BoardStorage F) :
    AnswersWith (F := F) (C := C) [] (applyBoardCommandRequest state storage) := by
  intro service command
  unfold applyBoardCommandRequest
  -- An armed vehicle refuses, and any other one answers each command at once.
  split
  · exact service.appends_emitCmdAck command false
  · cases command <;> exact ⟨rfl, _, appends_respond _ _⟩

/-- What leads the acknowledgement of a request for the version. -/
def versionLead (state : StateManager) : List (CommResponse F) :=
  if state.isArmed then [] else [.version { version := versionText }]

omit [FlightFloat F] in
/-- Requests for the version are acknowledged, behind the version itself unless armed. -/
theorem answersWith_applyVersionRequest (state : StateManager) :
    AnswersWith (F := F) (C := C) (versionLead state) (applyVersionRequest state) := by
  intro service command
  unfold applyVersionRequest versionLead
  -- An armed vehicle refuses, and any other one sends the version first.
  split
  · exact service.appends_emitCmdAck command false
  · exact ⟨rfl, _, (appends_respond _ _).trans (appends_respond _ _)⟩

end

end CommandService

/-- Waiting commands with what leads their acknowledgements, in the order of service. -/
def CommandEventQueues.owedAnswers (requests : CommandEventQueues F) (state : StateManager) :
    List (List (CommResponse F) × RosflightCmd) :=
  requests.calibrationRequests.items.map ([], ·) ++
    requests.paramDefaultsRequests.items.map ([], ·) ++
    requests.rcTrimCalibrationRequests.items.map ([], ·) ++
    requests.boardCommandRequests.items.map ([], ·) ++
    requests.versionRequests.items.map (CommandService.versionLead state, ·) ++
    requests.resetOriginRequests.items.map ([], ·) ++
    requests.configInfoRequests.items.map ([], ·)

/-- What leads the acknowledgement of a command. -/
def CommandService.leadOf (state : StateManager) (command : RosflightCmd) : List (CommResponse F) :=
  if command = .sendVersion then versionLead state else []

/-- What leads an acknowledgement acknowledges nothing. -/
theorem CommandService.acknowledged_leadOf (state : StateManager) (command : RosflightCmd) :
    ∀ response ∈ leadOf (F := F) state command, response.acknowledged = none := by
  intro response member
  unfold leadOf versionLead at member
  -- Only the version leads an acknowledgement, of its own request.
  split at member
  · split at member
    · cases member
    · rw [List.mem_singleton.mp member]
      rfl
  · cases member

/-- Without waiting commands, room for one is found and it alone is owed an answer. -/
theorem CommandEventQueues.route_of_idle (offboardControlRequests) (state : StateManager)
    (command : RosflightCmd) :
    let idle : CommandEventQueues F := { offboardControlRequests }
    (idle.route command).2 = true ∧
      (idle.route command).1.owedAnswers state =
        [(CommandService.leadOf state command, command)] := by
  -- Each command has a queue of its kind.
  cases command <;> exact ⟨rfl, rfl⟩

/-- Acknowledgements are led by answers only. -/
theorem CommandEventQueues.isAnswer_owedAnswers (requests : CommandEventQueues F)
    (state : StateManager) :
    ∀ answer ∈ requests.owedAnswers state, ∀ response ∈ answer.1, response.isAnswer = true := by
  intro answer member response leading
  -- Only the version leads an acknowledgement.
  simp only [CommandEventQueues.owedAnswers, List.mem_append, List.mem_map] at member
  rcases member with (((((⟨_, _, rfl⟩ | ⟨_, _, rfl⟩) | ⟨_, _, rfl⟩) | ⟨_, _, rfl⟩) | ⟨_, _, rfl⟩) |
    ⟨_, _, rfl⟩) | ⟨_, _, rfl⟩
  all_goals try cases leading
  unfold CommandService.versionLead at leading
  split at leading
  · cases leading
  · rw [List.mem_singleton.mp leading]
    rfl

namespace CommandService

variable {R S O C : Type}

/-- Service has left these requests waiting and answered those commands. -/
structure Answered (before after : CommandService F C) (requests : CommandEventQueues F)
    (owed : List (List (CommResponse F) × RosflightCmd)) : Prop where
  requests : after.requests = requests
  responses : ∃ added, Answers owed added ∧ Appends before.commEvents after.commEvents added

/-- Some commands are answered, and then others. -/
theorem Answered.trans {before middle after : CommandService F C}
    {left remaining : CommandEventQueues F}
    {first second : List (List (CommResponse F) × RosflightCmd)}
    (earlier : Answered before middle left first) (later : Answered middle after remaining second) :
    Answered before after remaining (first ++ second) := by
  obtain ⟨_, answered, appended⟩ := earlier.responses
  obtain ⟨_, continued, extended⟩ := later.responses
  exact ⟨later.requests, _, answered.append continued, appended.trans extended⟩

/-- Draining a queue answers its commands, and the queue may then be emptied. -/
theorem answered_drain {capacity : Nat} {leading : List (CommResponse F)}
    {act : CommandService F C → RosflightCmd → CommandService F C}
    (answers : AnswersWith leading act)
    (service : CommandService F C) (queue : BoundedQueue capacity RosflightCmd)
    (emptied : CommandEventQueues F → CommandEventQueues F) :
    Answered service
      { (queue.drain act service).1 with requests := emptied (queue.drain act service).1.requests }
      (emptied service.requests) (queue.items.map (leading, ·)) := by
  obtain ⟨kept, responses⟩ := drain_answers answers service queue
  exact ⟨congrArg emptied kept, responses⟩

/-- Serving calibrations answers them and leaves the other requests waiting. -/
theorem answered_applyCalibrationRequests [FlightFloat F] (service : CommandService F C)
    (state : StateManager) :
    Answered service (service.applyCalibrationRequests state)
      { service.requests with calibrationRequests := .empty }
      (service.requests.calibrationRequests.items.map ([], ·)) :=
  answered_drain (answersWith_applyCalibrationRequest state) service
    service.requests.calibrationRequests
    fun requests => { requests with calibrationRequests := .empty }

/-- Handing over offboard commands answers nothing. -/
theorem answered_applyOffboardControlRequests (service : CommandService F C) :
    Answered service service.applyOffboardControlRequests
      { service.requests with offboardControlRequests := .empty } [] := by
  have handed (served : CommandService F C) (request : OffboardControlRequested F)
      (before : served.requests = service.requests ∧ served.commEvents = service.commEvents) :
      ({ served with
        command := served.command.setNewOffboardCommand request.nowUs request.msg }).requests =
          service.requests ∧ served.commEvents = service.commEvents := before
  -- The offboard queue is emptied, and the command manager alone has changed.
  obtain ⟨requests, commEvents⟩ := BoundedQueue.drain_invariant handed ⟨rfl, rfl⟩
    service.requests.offboardControlRequests
  unfold applyOffboardControlRequests
  dsimp only
  refine ⟨by rw [requests]; rfl, [], .nothing, ?_⟩
  dsimp only
  rw [commEvents]
  exact .refl _

/-- Serving resets answers them and leaves the other requests waiting. -/
theorem answered_applyParamDefaultsRequests [FlightFloat F] (service : CommandService F C)
    (state : StateManager) :
    Answered service (service.applyParamDefaultsRequests state)
      { service.requests with paramDefaultsRequests := .empty }
      (service.requests.paramDefaultsRequests.items.map ([], ·)) :=
  answered_drain (answersWith_applyParamDefaultsRequest state) service
    service.requests.paramDefaultsRequests
    fun requests => { requests with paramDefaultsRequests := .empty }

/-- Serving trims answers them and leaves the other requests waiting. -/
theorem answered_applyRcTrimCalibrationRequests [FlightFloat F] [Controller F R S O C]
    (service : CommandService F C) (state : StateManager) :
    Answered service (service.applyRcTrimCalibrationRequests state)
      { service.requests with rcTrimCalibrationRequests := .empty }
      (service.requests.rcTrimCalibrationRequests.items.map ([], ·)) :=
  answered_drain (answersWith_applyRcTrimCalibrationRequest state) service
    service.requests.rcTrimCalibrationRequests
    fun requests => { requests with rcTrimCalibrationRequests := .empty }

/-- The service when it comes to the requests for the board. -/
def beforeBoardCommands [FlightFloat F] [Controller F R S O C] (service : CommandService F C)
    (state : StateManager) : CommandService F C :=
  ((service.applyCalibrationRequests state).applyOffboardControlRequests.applyParamDefaultsRequests
    state).applyRcTrimCalibrationRequests state

/-- Before the requests for the board four kinds of commands have been served. -/
theorem answered_beforeBoardCommands [FlightFloat F] [Controller F R S O C]
    (service : CommandService F C) (state : StateManager) :
    Answered service (service.beforeBoardCommands state)
      { service.requests with
        calibrationRequests := .empty, offboardControlRequests := .empty
        paramDefaultsRequests := .empty, rcTrimCalibrationRequests := .empty }
      (service.requests.calibrationRequests.items.map ([], ·) ++
        service.requests.paramDefaultsRequests.items.map ([], ·) ++
        service.requests.rcTrimCalibrationRequests.items.map ([], ·)) := by
  -- Each handler empties its own queue and finds the later ones as they were.
  have first := service.answered_applyCalibrationRequests state
  have second := first.trans (answered_applyOffboardControlRequests _)
  have third := second.trans (answered_applyParamDefaultsRequests _ state)
  have fourth := third.trans (answered_applyRcTrimCalibrationRequests _ state)
  simp only [first.requests, second.requests, third.requests, List.append_nil] at fourth
  exact fourth

/-- Serving the commands answers every one that waits, in the order of service. -/
theorem answered_applyCommandRequests [FlightFloat F] [Controller F R S O C]
    (service : CommandService F C)
    (state : StateManager) (storage : BoardStorage F) :
    Answered service (service.applyCommandRequests state storage) {}
      (service.requests.owedAnswers state) := by
  have refusing : AnswersWith (F := F) (C := C) []
      (fun service command => emitCmdAck service command false) :=
    fun service command => service.appends_emitCmdAck command false
  -- Each later handler empties its own queue as well.
  have fourth := service.answered_beforeBoardCommands state
  have board (service : CommandService F C) : Answered service
      (service.applyBoardCommandRequests state storage) _ _ :=
    answered_drain (answersWith_applyBoardCommandRequest state storage) service
      service.requests.boardCommandRequests
      fun requests => { requests with boardCommandRequests := .empty }
  have fifth := fourth.trans (board _)
  have versions (service : CommandService F C) : Answered service
      (service.applyVersionRequests state) _ _ :=
    answered_drain (answersWith_applyVersionRequest state) service service.requests.versionRequests
      fun requests => { requests with versionRequests := .empty }
  have sixth := fifth.trans (versions _)
  have resets (service : CommandService F C) : Answered service
      service.applyResetOriginRequests _ _ :=
    answered_drain refusing service service.requests.resetOriginRequests
      fun requests => { requests with resetOriginRequests := .empty }
  have seventh := sixth.trans (resets _)
  have configuration (service : CommandService F C) : Answered service
      service.applyConfigInfoRequests _ _ :=
    answered_drain refusing service service.requests.configInfoRequests
      fun requests => { requests with configInfoRequests := .empty }
  have all := seventh.trans (configuration _)
  simp only [fourth.requests, fifth.requests, sixth.requests, seventh.requests] at all
  exact all

end CommandService

end Veloxity
