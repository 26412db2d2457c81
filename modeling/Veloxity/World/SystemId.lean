import Veloxity.Params.SystemId
import Veloxity.World.OnboardParams

/-! When the system identifier in force is the one the parameters configure. -/

namespace Veloxity

open CommEventQueues (Appends)
open CommManager (announcedSysid)
open Library (Along BoundedQueue run run_invariant_along)

variable {F R S O E C M D : Type}

/-- Parameters that differ in the vehicle's own alone configure the same identifier. -/
theorem SameButOnboard.systemId {params other : Params F} (same : SameButOnboard params other) :
    other.systemId = params.systemId :=
  Params.systemId_congr (same .PARAM_SYSTEM_ID (by decide))

namespace CommandService

variable [FlightFloat F]

/-- Parameters read from storage configure the identifier that was configured before. -/
def ReadsSystemId (state : StateManager) (storage : BoardStorage F) (service : CommandService F C)
    (command : RosflightCmd) : Prop :=
  state.isArmed = false → command = .readParams →
    (storage.readParams service.boardCalls.length service.params).1.systemId =
      service.params.systemId

omit [FlightFloat F] in
/-- Serving a request for the board keeps the identifier unless another one is read. -/
theorem systemId_applyBoardCommandRequest (service : CommandService F C) (state : StateManager)
    (storage : BoardStorage F) (command : RosflightCmd)
    (reads : ReadsSystemId state storage service command) :
    (applyBoardCommandRequest state storage service command).params.systemId =
      service.params.systemId := by
  -- A read is the only such request that sets parameters.
  unfold applyBoardCommandRequest
  split
  · rfl
  · rename_i disarmed
    cases command with
    | readParams => exact reads (Bool.eq_false_iff.mpr disarmed) rfl
    | _ => rfl

/-- No read of storage that commands ask for configures another identifier. -/
structure ReadsKeepSystemId [Controller F R S O C] (service : CommandService F C)
    (state : StateManager) (storage : BoardStorage F) : Prop where
  along : Along (ReadsSystemId state storage) (applyBoardCommandRequest state storage)
    (service.beforeBoardCommands state)
    (service.beforeBoardCommands state).requests.boardCommandRequests.items

omit [FlightFloat F] in
/-- Serving the requests for the board keeps the identifier when no read replaces it. -/
theorem systemId_applyBoardCommandRequests (service : CommandService F C) (state : StateManager)
    (storage : BoardStorage F)
    (reads : Along (ReadsSystemId state storage) (applyBoardCommandRequest state storage) service
      service.requests.boardCommandRequests.items) :
    (service.applyBoardCommandRequests state storage).params.systemId =
      service.params.systemId := by
  -- The requests are served one by one.
  have one (served : CommandService F C) (command : RosflightCmd)
      (kept : served.params.systemId = service.params.systemId)
      (reads : ReadsSystemId state storage served command) :
      (applyBoardCommandRequest state storage served command).params.systemId =
        service.params.systemId :=
    (served.systemId_applyBoardCommandRequest state storage command reads).trans kept
  exact run_invariant_along one rfl reads

/-- Serving commands keeps the identifier unless a reset or a read replaces it. -/
theorem systemId_applyCommandRequests [Controller F R S O C] (service : CommandService F C)
    (state : StateManager) (storage : BoardStorage F)
    (default : state.isArmed = false → service.requests.paramDefaultsRequests.items ≠ [] →
      service.params.systemId = some 1)
    (reads : service.ReadsKeepSystemId state storage) :
    (service.applyCommandRequests state storage).params.systemId = service.params.systemId := by
  have before : (service.beforeBoardCommands state).params.systemId = service.params.systemId := by
    rw [(service.sameButOnboard_beforeBoardCommands state).systemId, resetParams]
    split
    · rename_i resets
      -- The default identifier is the one.
      rw [default resets.1 resets.2]
      rfl
    · rfl
  -- The later handlers only answer.
  rw [applyCommandRequests, params_applyRefusedRequests, params_applyVersionRequests]
  exact (systemId_applyBoardCommandRequests _ state storage reads.along).trans before

end CommandService

namespace World

/-- Once every response has been sent, the vehicle speaks and listens as the system its parameters
name. -/
def SpeaksAsConfigured (world : World F R E C M D) : Prop :=
  world.commEvents.responses.items = [] → world.params.systemId = some world.comm.sysid

/-- Once the waiting responses have been sent, the identifier in force will be the configured
one. -/
def HoldsSystemId (world : World F R E C M D) : Prop :=
  world.paramService.HoldsSystemId world.comm.sysid

/-- With no response waiting, the identifier in force is the configured one. -/
theorem HoldsSystemId.speaksAsConfigured {world : World F R E C M D}
    (holds : world.HoldsSystemId) : world.SpeaksAsConfigured := by
  -- Nothing is left to be announced.
  intro sent
  have held : world.params.systemId = some (world.commEvents.announced world.comm.sysid) := holds
  rw [CommEventQueues.announced, sent] at held
  exact held

section

variable [FlightFloat F] [Controller F R S O C] [ReflectionFormat F]

/-- A communication stage serves no unarmed reset of another identifier than the default one, reads
no other identifier from storage, and finds room to report each that is set. -/
structure KeepsSystemId (world : World F R E C M D) (stage : Stage F R) : Prop where
  resets : ∀ input, stage.received = some input → world.state.isArmed = false →
    (world.informed input).commandEvents.paramDefaultsRequests.items ≠ [] →
      world.params.systemId = some 1
  reads : ∀ input, stage.received = some input →
    (world.informed input).commandService.ReadsKeepSystemId world.state input.storage
  sets : ∀ input, stage.received = some input →
    (world.readyForSets input).AnnouncesSystemIds (world.admittedSets input)

omit [ReflectionFormat F] in
/-- Serving the commands keeps the identifier. -/
theorem systemId_commanded (world : World F R E C M D) (input : CommStageInput F)
    (resets : world.state.isArmed = false →
      (world.informed input).commandEvents.paramDefaultsRequests.items ≠ [] →
        world.params.systemId = some 1)
    (reads : (world.informed input).commandService.ReadsKeepSystemId world.state input.storage) :
    (world.commanded input).params.systemId = world.params.systemId := by
  -- The commands run or are skipped.
  obtain ⟨state, params⟩ := world.informed_rest input
  have served := (world.informed input).commandService.systemId_applyCommandRequests world.state
    input.storage (by
      intro disarmed waiting
      rw [commandService]
      dsimp only
      rw [params]
      exact resets disarmed waiting) reads
  unfold commanded
  dsimp only
  split
  · simp only [applyCommandEvents]
    rw [state]
    rw [← params]
    exact served
  · rw [params]

end

variable [FlightFloat F] [FlightFloat R] [FloatCast F R] [ReflectionFormat F] [Estimator F R S E]
  [Controller F R S O C] [Mixer F R O M] [PwmDriver R D]

omit [FlightFloat R] [FloatCast F R] [PwmDriver R D] in
/-- A communication stage that keeps the identifier keeps it in force. -/
theorem holdsSystemId_communication {world : World F R E C M D} (holds : world.HoldsSystemId)
    {input : CommStageInput F} (keeps : world.KeepsSystemId (.communication input : Stage F R)) :
    (world.runCommunicationAndParameterServiceStage input).HoldsSystemId := by
  obtain ⟨added, quiet, commanded⟩ := world.responds_beforeParams input
  have configured := world.systemId_commanded input (keeps.resets input rfl) (keeps.reads input rfl)
  -- No response queued so far reports a parameter.
  have ready : (world.commanded input).paramService.HoldsSystemId world.comm.sysid := by
    unfold ParamService.HoldsSystemId
    rw [show (world.commanded input).paramService.comm.announced world.comm.sysid = _ from
      commanded.queued.announced world.comm.sysid fun response member =>
        announcedSysid_of_other _ (by rw [quiet response member]; exact nofun)]
    exact configured.trans holds
  have served := ready.answers.run (keeps.sets input rfl)
  obtain ⟨params, _, _⟩ := world.servedSets_serveReceived input
  have kept : (world.runCommunicationAndParameterServiceStage input).params.systemId =
      (world.servedSets input).params.systemId := by
    rw [(world.sameButOnboard_communication input).systemId, params]
  -- Nothing is sent in the stage, so the identifier in force only changes with what is queued.
  have sysid : (world.runCommunicationAndParameterServiceStage input).comm.sysid =
      world.comm.sysid := by
    obtain ⟨_, _, rest⟩ := world.responds_afterCommands input
    exact rest.sysid.trans commanded.sysid
  have events := (world.served_communication input).1
  unfold HoldsSystemId ParamService.HoldsSystemId
  rw [sysid, show (world.runCommunicationAndParameterServiceStage input).paramService.comm = _ from
    events]
  exact kept.trans served

/-- Every other stage keeps the identifier in force, whatever it sends. -/
theorem holdsSystemId_of_not_communication {world : World F R E C M D}
    (holds : world.HoldsSystemId) {stage : Stage F R} (other : stage.received = none) :
    (world.stage stage).HoldsSystemId := by
  have configured := (world.sameButOnboard_of_not_communication other).systemId
  have part {after : World F R E C M D} (same : after.companionPart = world.companionPart) :
      after.commEvents.announced after.comm.sysid =
        world.commEvents.announced world.comm.sysid := by
    have sysid : after.comm.sysid = world.comm.sysid := congrArg CompanionPart.sysid same
    have events : after.commEvents = world.commEvents := congrArg CompanionPart.commEvents same
    rw [sysid, events]
  have announced : (world.stage stage).commEvents.announced (world.stage stage).comm.sysid =
      world.commEvents.announced world.comm.sysid := by
    rcases world.companionPart_stage other with ⟨ready, log, maxResponses, _, same, sent⟩ |
      ⟨_, same⟩
    · have drained := ready.responds_drainLogs log
      -- A log text announces nothing, and sending announces what waited.
      have quiet := drained.queued.announced ready.comm.sysid fun response member => by
        obtain ⟨text, _, rfl⟩ := List.mem_map.mp member
        rfl
      have sending : (ready.drainLogsAndSendResponsesLimited log maxResponses).commEvents.announced
          (ready.drainLogsAndSendResponsesLimited log maxResponses).comm.sysid =
            (ready.drainLogs log).commEvents.announced (ready.drainLogs log).comm.sysid :=
        CommManager.pendingSysid_sendCommResponsesLimited maxResponses _ _
      rw [sent, sending, drained.sysid, quiet]
      exact part same
    · exact part same
  unfold HoldsSystemId ParamService.HoldsSystemId
  rw [show (world.stage stage).paramService.comm.announced (world.stage stage).comm.sysid = _ from
    announced]
  exact configured.trans holds

/-- A stage that keeps the identifier keeps it in force. -/
theorem holdsSystemId_stage {world : World F R E C M D} (holds : world.HoldsSystemId)
    {stage : Stage F R} (keeps : world.KeepsSystemId stage) :
    (world.stage stage).HoldsSystemId := by
  -- Only communication sets the identifier or announces it.
  cases receives : stage.received with
  | some input =>
    have same := Stage.eq_communication receives
    subst same
    exact holdsSystemId_communication holds keeps
  | none => exact holdsSystemId_of_not_communication holds receives

/-- A vehicle that starts with the default identifier speaks as configured throughout every run
whose stages keep the identifier. -/
theorem speaksAsConfigured_run {params : Params F} (default : params.systemId = some 1)
    (state : StateManager) (estimator : E) (controller : C) (mixer : M) (pwm : D) (nowUs : Nat)
    (backup : Option RosflightHardErrorMsg) {stages : List (Stage F R)}
    (keeps : Along KeepsSystemId stage
      (World.init params state estimator controller mixer pwm nowUs backup) stages) :
    ∀ reached, reached <+: stages → SpeaksAsConfigured
      (run stage (World.init params state estimator controller mixer pwm nowUs backup)
        reached) := by
  rintro reached ⟨later, rfl⟩
  have started : (World.init params state estimator controller mixer pwm nowUs backup :
      World F R E C M D).HoldsSystemId := by
    -- No response waits, and canned mixers have been reflected into other parameters.
    have configured : (initialParams params).systemId = some 1 := by
      rw [initialParams, systemId_syncReflectedMixerParams, systemId_syncReflectedMixerParams,
        default]
    exact configured
  have one (world : World F R E C M D) (stage : Stage F R) (holds : world.HoldsSystemId)
      (lawful : world.KeepsSystemId stage) : (world.stage stage).HoldsSystemId :=
    holdsSystemId_stage holds lawful
  have lawful := ((Library.along_append reached later).mp keeps).1
  exact (run_invariant_along one started lawful).speaksAsConfigured

section

omit [FlightFloat R] [FloatCast F R] [Estimator F R S E] [Mixer F R O M] [PwmDriver R D]

/-- A stage that receives nothing keeps the identifier. -/
theorem keepsSystemId_of_not_communication (world : World F R E C M D) {stage : Stage F R}
    (other : stage.received = none) : world.KeepsSystemId stage := by
  -- There is nothing to receive.
  refine ⟨?_, ?_, ?_⟩
  all_goals
    intro input receives
    rw [other] at receives
    cases receives

/-- A communication stage that serves nothing but one request, with room to report it, keeps the
identifier. -/
theorem keepsSystemId_of_set {world : World F R E C M D} {input : CommStageInput F}
    (resets : (world.informed input).commandEvents.paramDefaultsRequests.items = [])
    (board : ((world.informed input).commandService.beforeBoardCommands
      world.state).requests.boardCommandRequests.items = [])
    {request : ParamSetRequested F} (alone : world.admittedSets input = [request])
    (room : (world.readyForSets input).comm.responses.items.length <
      COMM_RESPONSE_QUEUE_CAPACITY) :
    world.KeepsSystemId (.communication input : Stage F R) := by
  refine ⟨?_, ?_, ?_⟩
  · intro given receives _ waiting
    obtain rfl := Option.some.inj receives
    exact absurd resets waiting
  · intro given receives
    obtain rfl := Option.some.inj receives
    -- There is no request for the board.
    refine ⟨?_⟩
    rw [board]
    trivial
  · intro given receives
    obtain rfl := Option.some.inj receives
    refine ⟨?_⟩
    rw [alone]
    exact ⟨fun _ _ => room, trivial⟩

end

end World

/-- A companion that gives the vehicle another identifier. -/
def namingInput : CommStageInput ℚ where
  incoming := [.paramSet
    { targetSystem := 1, targetComponent := 0, paramId := strToFixedBytes "SYS_ID"
      paramValue := .int 42 }]
  clock := { timesyncUs := 1000, offboardUs := 1000 }
  storage := { readParams := fun _ params => (params, true), writeParams := fun _ _ => true }
  reactionUs := 1000

/-- The companion names the vehicle, which then sends a response. -/
def namingRun : List (Stage ℚ ℚ) := [.communication namingInput, .responses none 1]

/-- The vehicle speaks as the system it has been named. -/
theorem namingRun_speaks :
    (∀ reached, reached <+: namingRun →
      World.SpeaksAsConfigured (run World.stage defaultBench reached)) ∧
    (run World.stage defaultBench namingRun).comm.sysid = 42 := by
  -- One request names the system, and finds room for its report.
  have resets :
      (defaultBench.informed namingInput).commandEvents.paramDefaultsRequests.items = [] := by
    decide +kernel
  have board : ((defaultBench.informed namingInput).commandService.beforeBoardCommands
      defaultBench.state).requests.boardCommandRequests.items = [] := by
    decide +kernel
  have room : (defaultBench.readyForSets namingInput).comm.responses.items.length <
      COMM_RESPONSE_QUEUE_CAPACITY := by
    decide +kernel
  have one : (defaultBench.admittedSets namingInput).length = 1 := by decide +kernel
  obtain ⟨request, alone⟩ := List.length_eq_one_iff.mp one
  have keeps : Along World.KeepsSystemId World.stage defaultBench namingRun :=
    ⟨World.keepsSystemId_of_set resets board alone room,
      World.keepsSystemId_of_not_communication _ rfl, trivial⟩
  have default : (Params.new : Params ℚ).systemId = some 1 := by decide
  refine ⟨?_, by decide +kernel⟩
  exact World.speaksAsConfigured_run default StateManager.new IdleEstimator.mk IdleController.mk
    (MatrixMixer.new Params.new) (AcceptingDriver.new 4 fun _ => false) 0 none keeps

/-- A vehicle whose stored parameters name another system. -/
def storedIdBench : BenchWorld ℚ ℚ := benchWorld (Params.new.setById .PARAM_SYSTEM_ID (.int 42)) 4

/-- It goes on to speak as the default one. -/
theorem storedIdBench_misnamed :
    ¬ World.SpeaksAsConfigured (run World.stage storedIdBench [.responses none 1]) := by
  -- The identifier was read from storage without a report.
  intro speaks
  have named := speaks (by decide +kernel)
  revert named
  decide +kernel

end Veloxity
