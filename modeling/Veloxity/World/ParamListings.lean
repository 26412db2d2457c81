import Veloxity.World.ResponseLog

/-! Which listings of the parameters are complete over runs of the stages. -/

namespace Veloxity

open Library (Along along_congr_while run)

variable {F R S O E C M D : Type}

/-- A world with the indices its last listing has placed among the responses, if there was one. -/
structure ListingWatch (F R E C M D : Type) where
  world : World F R E C M D
  placed : Option (List Nat)

namespace World

/-- Only parameter service goes on with a listing. -/
theorem paramListState_commanded [FlightFloat F] [Controller F R S O C] (world : World F R E C M D)
    (input : CommStageInput F) : (world.commanded input).paramListState = world.paramListState := by
  have received : (world.processCommStage input).paramListState = world.paramListState := by
    simp only [processCommStage]
    split <;> rfl
  have informed : (world.informed input).paramListState = world.paramListState := by
    rw [← received, World.informed]
    split
    · simp only [applyCompanionEvents]
    · rfl
  -- The commands are served last.
  rw [← informed, commanded]
  split
  · simp only [applyCommandEvents]
  · rfl

/-- Parameter service when it comes to the listing, with all reads answered. -/
def readyForListing [FlightFloat F] [Controller F R S O C] (world : World F R E C M D)
    (input : CommStageInput F) : ParamService F :=
  (world.commanded input).paramService.serviceParamReadRequests

end World

namespace ListingWatch

section

variable [FlightFloat F] [Controller F R S O C]

/-- The indices the last listing has placed once a communication stage has gone on with it, where
a new request begins anew. -/
def placedBy (watch : ListingWatch F R E C M D) (input : CommStageInput F) : Option (List Nat) :=
  let ready := watch.world.readyForListing input
  if ready.events.listRequests.items = [] then watch.placed.map (· ++ ready.placedByListing)
  else some ready.placedByListing

/-- A listing that goes on in a stage finds room for its next report. -/
def HasRoom (watch : ListingWatch F R E C M D) (stage : Stage F R) : Prop :=
  ∀ input, stage.received = some input →
    (watch.world.readyForListing input).startedListing.isActive = true →
      (watch.world.readyForListing input).comm.responses.items.length < COMM_RESPONSE_QUEUE_CAPACITY

end

/-- Every index before the next one has been placed once, in order, and all of them in the end. -/
def Complete (watch : ListingWatch F R E C M D) : Prop :=
  ∀ placed, watch.placed = some placed →
    placed = List.range (watch.world.paramListState.nextIndex.getD paramsCount)

variable [FlightFloat F] [FlightFloat R] [FloatCast F R] [ReflectionFormat F] [Estimator F R S E]
  [Controller F R S O C] [Mixer F R O M] [PwmDriver R D]

/-- Run a stage and note what its listing places. -/
def step (watch : ListingWatch F R E C M D) (stage : Stage F R) : ListingWatch F R E C M D where
  world := watch.world.stage stage
  placed :=
    match stage.received with
    | none => watch.placed
    | some input => watch.placedBy input

/-- After a stage the last listing is complete up to its next index. -/
def ListsCompletely (watch : ListingWatch F R E C M D) (stage : Stage F R) : Prop :=
  (watch.step stage).Complete

/-- A listing in progress is noted, complete so far, and within the table. -/
structure Invariant (watch : ListingWatch F R E C M D) : Prop where
  complete : watch.Complete
  within : ∀ index, watch.world.paramListState.nextIndex = some index →
    index < paramsCount ∧ watch.placed.isSome = true

omit [FlightFloat R] [FloatCast F R] [PwmDriver R D] in
/-- A communication stage leaves the listing as going on with it does. -/
theorem paramListState_communication (world : World F R E C M D) (input : CommStageInput F) :
    (world.runCommunicationAndParameterServiceStage input).paramListState =
      (world.readyForListing input).serviceParamListRequests.listState := by
  have rest : (world.runCommunicationAndParameterServiceStage input).paramListState =
      (world.serveReceived input).paramListState :=
    congrArg CompanionPart.paramListState (world.unserved_communication input).companion
  have served := congrArg ParamService.listState (world.paramService_serveReceived input).1
  -- Serving the requests to change parameters comes last and keeps it.
  have kept := ParamService.listState_applyParamRequests
    (world.readyForListing input).serviceParamListRequests
  exact rest.trans (served.trans kept)

/-- Every other stage keeps the listing. -/
theorem paramListState_of_not_communication (world : World F R E C M D) {stage : Stage F R}
    (other : stage.received = none) :
    (world.stage stage).paramListState = world.paramListState := by
  rcases world.companionPart_stage other with ⟨ready, log, maxResponses, _, same, sent⟩ | ⟨_, same⟩
  · -- Neither draining a log nor sending touches it.
    have drained : (ready.drainLogsAndSendResponsesLimited log maxResponses).paramListState =
        ready.paramListState := by
      obtain ⟨commEvents, drained⟩ := ready.drainLogs_eq log
      rw [World.drainLogsAndSendResponsesLimited, drained]
    rw [sent, drained]
    exact congrArg CompanionPart.paramListState same
  · exact congrArg CompanionPart.paramListState same

omit [FlightFloat R] [FloatCast F R] [ReflectionFormat F] [Estimator F R S E] [Mixer F R O M]
  [PwmDriver R D] in
/-- Answering reads keeps the listing. -/
theorem listState_readyForListing (world : World F R E C M D) (input : CommStageInput F) :
    (world.readyForListing input).listState = world.paramListState := by
  obtain ⟨_, reads⟩ := (world.commanded input).paramService.serviceParamReadRequests_eq
  rw [World.readyForListing, reads]
  exact world.paramListState_commanded input

omit [FlightFloat R] [FloatCast F R] [ReflectionFormat F] [Estimator F R S E] [Mixer F R O M]
  [PwmDriver R D] in
/-- A listing in progress when service comes to it has placed all indices before its next, and
goes on to place that one. -/
theorem placedBy_of_active {watch : ListingWatch F R E C M D} (invariant : watch.Invariant)
    {input : CommStageInput F} {index : Nat}
    (active : (watch.world.readyForListing input).startedListing.nextIndex = some index) :
    index < paramsCount ∧ watch.placedBy input =
      some (List.range index ++ (watch.world.readyForListing input).placedByListing) := by
  unfold ParamService.startedListing at active
  unfold placedBy
  dsimp only
  -- A continued listing goes on from its invariant, and one just asked for starts at zero.
  by_cases continued : (watch.world.readyForListing input).events.listRequests.items = []
  · rw [if_pos continued, listState_readyForListing] at active
    rw [if_pos continued]
    obtain ⟨within, noted⟩ := invariant.within index active
    obtain ⟨placed, earlier⟩ := Option.isSome_iff_exists.mp noted
    have before := invariant.complete placed earlier
    rw [active] at before
    rw [earlier, before]
    exact ⟨within, rfl⟩
  · rw [if_neg continued] at active ⊢
    obtain rfl := Option.some.inj active
    have some : 0 < paramsCount := by decide +kernel
    exact ⟨some, rfl⟩

omit [FlightFloat R] [FloatCast F R] [ReflectionFormat F] [Estimator F R S E] [Mixer F R O M]
  [PwmDriver R D] in
/-- Without a listing in progress none has begun, and what the last one placed stays. -/
theorem placedBy_of_inactive {watch : ListingWatch F R E C M D} {input : CommStageInput F}
    (inactive : (watch.world.readyForListing input).startedListing.nextIndex = none) :
    watch.world.paramListState.nextIndex = none ∧ watch.placedBy input = watch.placed := by
  have nothing := (ParamService.placedByListing_of_inactive inactive).1
  unfold ParamService.startedListing at inactive
  unfold placedBy
  dsimp only
  -- A request to list would have started one.
  split at inactive
  · rename_i continued
    rw [listState_readyForListing] at inactive
    rw [if_pos continued, nothing]
    simp [inactive]
  · cases inactive

/-- A communication stage keeps a listing complete exactly when its next report finds room, and
keeps it noted and within the table either way. -/
theorem complete_communication {watch : ListingWatch F R E C M D} (invariant : watch.Invariant)
    (input : CommStageInput F) :
    ((watch.step (.communication input)).Complete ↔ watch.HasRoom (.communication input)) ∧
      ∀ index, (watch.step (.communication input)).world.paramListState.nextIndex = some index →
        index < paramsCount ∧ (watch.step (.communication input)).placed.isSome = true := by
  have moved : (watch.step (.communication input)).world.paramListState =
      (watch.world.readyForListing input).serviceParamListRequests.listState :=
    paramListState_communication watch.world input
  have noted : (watch.step (.communication input)).placed = watch.placedBy input := rfl
  have room : watch.HasRoom (.communication input) ↔
      ((watch.world.readyForListing input).startedListing.nextIndex.isSome = true →
        (watch.world.readyForListing input).comm.responses.items.length <
          COMM_RESPONSE_QUEUE_CAPACITY) := by
    simp [HasRoom, ParamListState.isActive]
  rw [room, Complete, moved, noted]
  cases active : (watch.world.readyForListing input).startedListing.nextIndex with
  | none =>
    -- Nothing is in progress, so nothing is placed and nothing is missing.
    obtain ⟨_, ended⟩ := ParamService.placedByListing_of_inactive active
    obtain ⟨idle, kept⟩ := placedBy_of_inactive active
    have complete := invariant.complete
    rw [Complete, idle] at complete
    rw [ended, kept]
    exact ⟨⟨fun _ => nofun, fun _ => complete⟩, nofun⟩
  | some index =>
    obtain ⟨within, placed⟩ := placedBy_of_active invariant active
    obtain ⟨found, next⟩ := ParamService.placedByListing_of_active active within
    -- The next index is one further, or the listing has ended behind the last one.
    have further : (if index + 1 < paramsCount then some (index + 1) else none).getD paramsCount =
        index + 1 := by
      split
      · rfl
      · exact Nat.le_antisymm (Nat.not_lt.mp ‹_›) within
    rw [next, placed, found, further, List.range_succ]
    constructor
    · by_cases space : (watch.world.readyForListing input).comm.responses.items.length <
          COMM_RESPONSE_QUEUE_CAPACITY
      · simp [space]
      · simp [space]
    · intro later moving
      split at moving
      · obtain rfl := Option.some.inj moving
        exact ⟨‹_›, rfl⟩
      · cases moving

/-- Where the invariant holds, a stage leaves the last listing complete exactly when its next
report finds room. -/
theorem listsCompletely_iff {watch : ListingWatch F R E C M D} (invariant : watch.Invariant)
    (stage : Stage F R) : watch.ListsCompletely stage ↔ watch.HasRoom stage := by
  cases receives : stage.received with
  | some input =>
    rw [Stage.eq_communication receives]
    exact (complete_communication invariant input).1
  | none =>
    -- No other stage touches the listing or places anything.
    have kept := paramListState_of_not_communication watch.world receives
    have same : (watch.step stage).placed = watch.placed := by simp only [step, receives]
    constructor
    · intro _ input received
      rw [receives] at received
      cases received
    · intro _
      rw [ListsCompletely, Complete, same,
        show (watch.step stage).world.paramListState = _ from kept]
      exact invariant.complete

/-- A stage that leaves the last listing complete keeps the invariant. -/
theorem invariant_step {watch : ListingWatch F R E C M D} (invariant : watch.Invariant)
    {stage : Stage F R} (complete : watch.ListsCompletely stage) :
    (watch.step stage).Invariant := by
  refine ⟨complete, ?_⟩
  -- Only the communication stage places parameters.
  cases receives : stage.received with
  | some input =>
    rw [Stage.eq_communication receives]
    exact (complete_communication invariant input).2
  | none =>
    have kept := paramListState_of_not_communication watch.world receives
    have same : (watch.step stage).placed = watch.placed := by simp only [step, receives]
    rw [same, show (watch.step stage).world.paramListState = _ from kept]
    exact invariant.within

omit [FlightFloat F] [FlightFloat R] [FloatCast F R] [ReflectionFormat F] [Estimator F R S E]
  [Controller F R S O C] [Mixer F R O M] [PwmDriver R D] in
/-- A world without a listing in progress can be watched. -/
theorem invariant_of_idle {world : World F R E C M D}
    (idle : world.paramListState.nextIndex = none) :
    Invariant { world, placed := none } := by
  refine ⟨nofun, ?_⟩
  -- An idle listing has no next index.
  intro index active
  rw [idle] at active
  cases active

/-- From the start on, every listing places each index once and in order exactly when its reports
all find room. -/
theorem listsCompletely_along_iff (params : Params F) (state : StateManager) (estimator : E)
    (controller : C) (mixer : M) (pwm : D) (nowUs : Nat) (backup : Option RosflightHardErrorMsg)
    (stages : List (Stage F R)) :
    Along ListsCompletely step
        { world := World.init params state estimator controller mixer pwm nowUs backup
          placed := none } stages ↔
      Along HasRoom step
        { world := World.init params state estimator controller mixer pwm nowUs backup
          placed := none } stages := by
  -- No listing is in progress at the start.
  apply along_congr_while Invariant
  · intro watch stage invariant complete
    exact invariant_step invariant complete
  · intro watch stage invariant
    exact listsCompletely_iff invariant stage
  · exact invariant_of_idle rfl

/-- A first listing that meets a full queue misses its index. -/
theorem not_listsCompletely_of_full {world : World F R E C M D} {input : CommStageInput F}
    (idle : world.paramListState.nextIndex = none)
    (active : (world.readyForListing input).startedListing.isActive = true)
    (full : (world.readyForListing input).comm.responses.items.length =
      COMM_RESPONSE_QUEUE_CAPACITY) :
    ¬ ListsCompletely { world, placed := none } (.communication input) := by
  intro complete
  have room := (listsCompletely_iff (invariant_of_idle idle) _).mp complete input rfl active
  dsimp only at room
  omega

end ListingWatch

/-- A companion that asks for all parameters when the responses to its reads have taken all
room. -/
def crowdedList : CommStageInput ℚ :=
  crowdedInput (.paramRequestList { targetSystem := 1, targetComponent := 0 })

/-- Its listing goes on to the second parameter without having placed the first. -/
theorem crowdedList_incomplete :
    ¬ Along ListingWatch.ListsCompletely ListingWatch.step { world := defaultBench, placed := none }
      [.communication crowdedList] := by
  have active : (defaultBench.readyForListing crowdedList).startedListing.isActive = true := by
    decide +kernel
  have reads : (defaultBench.commanded crowdedList).paramService.events.readRequests.items =
      List.replicate COMM_RESPONSE_QUEUE_CAPACITY (.index 0) := by
    decide +kernel
  have full : (defaultBench.readyForListing crowdedList).comm.responses.items.length =
      COMM_RESPONSE_QUEUE_CAPACITY := by
    rw [World.readyForListing]
    exact ParamService.full_of_reads reads
  have idle : defaultBench.paramListState.nextIndex = none := by decide +kernel
  -- The vehicle has just started, and no listing was in progress.
  intro complete
  exact ListingWatch.not_listsCompletely_of_full idle active full complete.1

end Veloxity
