import Veloxity.World.ResponseLog

/-! Which requests to change parameters are acknowledged over runs of the stages. -/

namespace Veloxity

open Library (Along along_congr run)

namespace World

variable {F R S O E C M D : Type}

section

variable [FlightFloat F] [Controller F R S O C]

/-- The requests to change parameters that a communication stage admits. -/
def admittedSets (world : World F R E C M D) (input : CommStageInput F) :
    List (ParamSetRequested F) :=
  (world.commanded input).paramEvents.setRequests.items

/-- Parameter service when it comes to those requests, with all others answered. -/
def readyForSets (world : World F R E C M D) (input : CommStageInput F) : ParamService F :=
  (world.commanded input).paramService.serviceParamReadRequests.serviceParamListRequests

/-- Answering the other requests leaves those waiting. -/
theorem setRequests_readyForSets (world : World F R E C M D) (input : CommStageInput F) :
    (world.readyForSets input).events.setRequests.items = world.admittedSets input := by
  -- Reads and listings take no request to set.
  obtain ⟨_, reads⟩ := (world.commanded input).paramService.serviceParamReadRequests_eq
  obtain ⟨_, _, lists⟩ :=
    (world.commanded input).paramService.serviceParamReadRequests.serviceParamListRequests_eq
  rw [readyForSets, lists, reads]
  rfl

variable [ReflectionFormat F]

/-- Parameter service once those requests have been served. -/
def servedSets (world : World F R E C M D) (input : CommStageInput F) : ParamService F :=
  run ParamService.applyParamRequest (world.readyForSets input) (world.admittedSets input)

/-- Serving whatever was received leaves the parameters and responses as serving those requests
does. -/
theorem servedSets_serveReceived (world : World F R E C M D) (input : CommStageInput F) :
    (world.serveReceived input).params = (world.servedSets input).params ∧
      (world.serveReceived input).commEvents = (world.servedSets input).comm ∧
      (world.serveReceived input).paramEvents.setRequests.items = [] := by
  obtain ⟨service, _⟩ := world.paramService_serveReceived input
  have params := congrArg ParamService.params service
  have comm := congrArg ParamService.comm service
  have emptied := congrArg (fun service => service.events.setRequests.items) service
  rw [servedSets, ← setRequests_readyForSets, readyForSets]
  -- What waited is named, so that only its service is compared.
  generalize (world.commanded input).paramService = waiting at params comm emptied ⊢
  exact ⟨params, comm, emptied⟩

/-- Each admitted request is served against the room its forerunners leave. -/
def HasRoomForSets (world : World F R E C M D) (stage : Stage F R) : Prop :=
  ∀ input, stage.received = some input →
    Along ParamService.HasRoomFor ParamService.applyParamRequest (world.readyForSets input)
      (world.admittedSets input)

end

variable [FlightFloat F] [FlightFloat R] [FloatCast F R] [ReflectionFormat F] [Estimator F R S E]
  [Controller F R S O C] [Mixer F R O M] [PwmDriver R D]

/-- The stage serves every admitted request, and each accepted one gets its one report; no stage
loses, repeats or reorders a response. -/
structure AcknowledgesSets (world : World F R E C M D) (stage : Stage F R) : Prop where
  kept : world.responseLog <+: (world.stage stage).responseLog
  served : ∀ input, stage.received = some input →
    (world.stage stage).commEvents = (world.servedSets input).comm ∧
      (world.stage stage).paramEvents.setRequests.items = []
  acknowledged : ∀ input, stage.received = some input →
    Along ParamService.Acknowledges ParamService.applyParamRequest (world.readyForSets input)
      (world.admittedSets input)

omit [FlightFloat R] [FloatCast F R] [PwmDriver R D] in
/-- A communication stage serves every admitted request. -/
theorem served_communication (world : World F R E C M D) (input : CommStageInput F) :
    (world.runCommunicationAndParameterServiceStage input).commEvents =
        (world.servedSets input).comm ∧
      (world.runCommunicationAndParameterServiceStage input).paramEvents.setRequests.items =
        [] := by
  have rest := (world.unserved_communication input).companion
  have events := congrArg CompanionPart.commEvents rest
  have requests := congrArg (fun part => part.setRequests.items) rest
  obtain ⟨_, comm, emptied⟩ := world.servedSets_serveReceived input
  -- Nothing behind the service of parameters touches either.
  exact ⟨events.trans comm, requests.trans emptied⟩

/-- A stage acknowledges every accepted request exactly when each finds room. -/
theorem acknowledgesSets_iff (world : World F R E C M D) (stage : Stage F R) :
    world.AcknowledgesSets stage ↔ world.HasRoomForSets stage := by
  -- Each request is acknowledged exactly when it finds room.
  have each (input : CommStageInput F) :
      Along ParamService.Acknowledges ParamService.applyParamRequest (world.readyForSets input)
        (world.admittedSets input) ↔
      Along ParamService.HasRoomFor ParamService.applyParamRequest (world.readyForSets input)
        (world.admittedSets input) :=
    along_congr (fun _ => True) (fun _ _ _ => trivial)
      (fun service request _ => service.acknowledges_iff request) trivial _
  constructor
  · intro acknowledges input receives
    exact (each input).mp (acknowledges.acknowledged input receives)
  · intro room
    refine ⟨world.responseLog_stage stage, ?_, fun input receives =>
      (each input).mpr (room input receives)⟩
    intro input receives
    rw [Stage.eq_communication receives]
    exact world.served_communication input

/-- Over any run every accepted request is acknowledged once exactly when each finds room. -/
theorem acknowledgesSets_along_iff (world : World F R E C M D) (stages : List (Stage F R)) :
    Along AcknowledgesSets stage world stages ↔ Along HasRoomForSets stage world stages :=
  along_congr (fun _ => True) (fun _ _ _ => trivial)
    (fun world stage _ => world.acknowledgesSets_iff stage) trivial stages

/-- An accepted request that meets a full queue is not acknowledged. -/
theorem not_acknowledgesSets_of_full {world : World F R E C M D} {input : CommStageInput F}
    {request : ParamSetRequested F} {id : ParamId} (alone : world.admittedSets input = [request])
    (accepted : request.accepted = some id)
    (full : COMM_RESPONSE_QUEUE_CAPACITY ≤ (world.readyForSets input).comm.responses.items.length) :
    ¬ world.AcknowledgesSets (.communication input) := by
  -- A full queue takes no further response.
  intro acknowledges
  have room := (world.acknowledgesSets_iff (.communication input)).mp acknowledges input rfl
  rw [alone] at room
  have space := room.1 id accepted
  omega

end World

/-- A companion that sets a parameter when the responses to its reads have taken all room. -/
def crowdedSet : CommStageInput ℚ :=
  crowdedInput (.paramSet
    { targetSystem := 1, targetComponent := 0, paramId := strToFixedBytes "BAUD_RATE"
      paramValue := .int 57600 })

/-- Its request is accepted and finds no room for the report. -/
theorem crowdedSet_unacknowledged :
    ¬ Along World.AcknowledgesSets World.stage defaultBench [.communication crowdedSet] := by
  have admitted : (defaultBench.admittedSets crowdedSet).map ParamSetRequested.accepted =
      [some .PARAM_BAUD_RATE] := by
    decide +kernel
  have reads : (defaultBench.commanded crowdedSet).paramService.events.readRequests.items =
      List.replicate COMM_RESPONSE_QUEUE_CAPACITY (.index 0) := by
    decide +kernel
  -- The reports of what is read fill the queue, and no listing takes any of them out.
  have full : COMM_RESPONSE_QUEUE_CAPACITY ≤
      (defaultBench.readyForSets crowdedSet).comm.responses.items.length := by
    have listed := (defaultBench.commanded
      crowdedSet).paramService.serviceParamReadRequests.appends_serviceParamListRequests
    rw [World.readyForSets, listed.grown, List.length_append, ParamService.full_of_reads reads]
    exact Nat.le_add_right _ _
  obtain ⟨request, alone, accepted⟩ := List.map_eq_singleton_iff.mp admitted
  intro acknowledges
  exact World.not_acknowledgesSets_of_full alone accepted full acknowledges.1

end Veloxity
