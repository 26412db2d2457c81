import Veloxity.Params.Service

/-! What serving the requests to change parameters commits, and what of it is announced. -/

namespace Veloxity

open Library (BoundedQueue)

variable {F : Type}

/-- Identifiers of the changes that wait for reactions. -/
def ParamEventQueues.announced (events : ParamEventQueues F) : List ParamId :=
  events.changes.items.map ParamChanged.id

/-- A pending change is announced after those before it, as far as there is room. -/
theorem announced_emitParamChange (events : ParamEventQueues F) (id : ParamId)
    (old new : ParamValue F) :
    (emitParamChange events id old new).announced =
      (events.announced ++ [id]).take PARAM_CHANGED_QUEUE_CAPACITY := by
  -- The queue cuts its items at the capacity, and so their identifiers.
  simp only [ParamEventQueues.announced, emitParamChange, BoundedQueue.items_push, List.map_take,
    List.map_append, List.map_cons, List.map_nil]

/-- No more changes wait than there is room for. -/
theorem ParamEventQueues.announced_length (events : ParamEventQueues F) :
    events.announced.length ≤ PARAM_CHANGED_QUEUE_CAPACITY := by
  rw [announced, List.length_map]
  exact events.changes.bounded

variable [FlightFloat F]

namespace ParamSetRequested

/-- The parameter a request may change, if it is known and may have such a value. -/
def accepted (request : ParamSetRequested F) : Option ParamId :=
  (paramIdFromNameBytes request.paramIdBytes).filter fun id =>
    sameParamType (id.default : ParamValue F) request.value &&
      telemetryValueAllowed id request.value

/-- The parameter a request changes, among the parameters it meets. -/
def changed (request : ParamSetRequested F) (params : Params F) : Option ParamId :=
  request.accepted.filter fun id => !sameParamValue (params.getById id) request.value

/-- The parameters as a request leaves them. -/
def commit [ReflectionFormat F] (request : ParamSetRequested F) (params : Params F) : Params F :=
  match request.accepted with
  | none => params
  | some id =>
    syncReflectedMixerParams
      (if sameParamValue (params.getById id) request.value then params
        else params.setById id request.value) id

end ParamSetRequested

variable [ReflectionFormat F]

/-- A request changes one parameter, or at most has a choice of a mixer reflected again. -/
theorem ParamSetRequested.commit_cases (request : ParamSetRequested F) (params : Params F) :
    (∃ id, request.changed params = some id ∧ request.commit params =
      syncReflectedMixerParams (params.setById id request.value) id) ∨
    (request.changed params = none ∧ (request.commit params = params ∨
      ∃ id, request.commit params = syncReflectedMixerParams params id)) := by
  unfold changed commit
  cases request.accepted with
  | none => exact .inr ⟨rfl, .inl rfl⟩
  | some id =>
    -- An accepted value is only set when it differs.
    by_cases same : sameParamValue (params.getById id) request.value = true
    · exact .inr ⟨by simp [Option.filter, same], .inr ⟨id, by simp only [same, if_true]⟩⟩
    · exact .inl
        ⟨id, by simp [Option.filter, same], by simp only [same, Bool.false_eq_true, if_false]⟩

/-- The parameters as requests leave them, one after another. -/
def requestedParams (params : Params F) (requests : List (ParamSetRequested F)) : Params F :=
  requests.foldl (fun params request => request.commit params) params

/-- The parameters that requests change, in order and with repetitions. -/
def changedIds : Params F → List (ParamSetRequested F) → List ParamId
  | _, [] => []
  | params, request :: rest =>
    (request.changed params).toList ++ changedIds (request.commit params) rest

omit [FlightFloat F] in
/-- Only the choice of a mixer is reflected into other parameters. -/
theorem syncReflectedMixerParams_of_other (params : Params F) {id : ParamId}
    (other : isMixerChoiceParam id = false) : syncReflectedMixerParams params id = params := by
  unfold isMixerChoiceParam at other
  -- The two choices are the only ones to be matched.
  unfold syncReflectedMixerParams
  split
  · exact absurd other (by decide)
  · exact absurd other (by decide)
  · rfl

namespace ParamService

/-- Service has left these parameters and announced these changes, as far as there was room. -/
structure Commits (service after : ParamService F) (params : Params F) (changed : List ParamId) :
    Prop where
  params : after.params = params
  announced : after.events.announced =
    (service.events.announced ++ changed).take PARAM_CHANGED_QUEUE_CAPACITY
  fullRefresh : after.events.fullRefresh = service.events.fullRefresh

/-- One request is committed and announced when it changes its parameter. -/
theorem commits_applyParamRequest (service : ParamService F) (request : ParamSetRequested F) :
    Commits service (service.applyParamRequest request) (request.commit service.params)
      (request.changed service.params).toList := by
  -- A refused request announces nothing, which leaves the bounded queue as it is.
  have silent : service.events.announced =
      (service.events.announced ++ []).take PARAM_CHANGED_QUEUE_CAPACITY := by
    rw [List.append_nil, List.take_of_length_le service.events.announced_length]
  unfold applyParamRequest ParamSetRequested.commit ParamSetRequested.changed
    ParamSetRequested.accepted
  cases paramIdFromNameBytes request.paramIdBytes with
  | none => exact ⟨rfl, silent, rfl⟩
  | some id =>
    cases typed : sameParamType (id.default : ParamValue F) request.value with
    | false =>
      simp only [Option.filter, typed, Bool.false_and, Bool.not_false, if_true,
        Bool.false_eq_true, if_false]
      exact ⟨rfl, silent, rfl⟩
    | true =>
    cases allowed : telemetryValueAllowed id request.value with
    | false =>
      simp only [Option.filter, typed, allowed, Bool.and_false, Bool.not_true, Bool.not_false,
        if_true, Bool.false_eq_true, if_false]
      exact ⟨rfl, silent, rfl⟩
    | true =>
    simp only [Option.filter, typed, allowed, Bool.and_self, Bool.not_true, Bool.false_eq_true,
      if_false, if_true]
    -- An allowed value is only set and announced when it differs.
    by_cases same : sameParamValue (service.params.getById id) request.value = true
    · simp only [same, Bool.not_true, Bool.false_eq_true, if_false, if_true, Option.toList_none]
      cases choice : isMixerChoiceParam id with
      | true => exact ⟨rfl, silent, rfl⟩
      | false => exact ⟨(syncReflectedMixerParams_of_other _ choice).symm, silent, rfl⟩
    · have differs := (Bool.not_eq_true _).mp same
      simp only [setParamAndEmitChange, differs, Bool.not_false, Bool.false_eq_true, if_false,
        if_true, Option.toList_some]
      exact ⟨rfl, announced_emitParamChange _ _ _ _, rfl⟩

/-- Requests are committed one after another, and their changes announced together. -/
theorem commits_foldl (service : ParamService F) (requests : List (ParamSetRequested F)) :
    Commits service (requests.foldl applyParamRequest service)
      (requestedParams service.params requests) (changedIds service.params requests) := by
  induction requests generalizing service with
  | nil =>
    -- What already waits fits in the queue.
    refine ⟨rfl, ?_, rfl⟩
    rw [changedIds, List.append_nil, List.take_of_length_le service.events.announced_length]
    rfl
  | cons request rest ih =>
    have first := service.commits_applyParamRequest request
    have later := ih (service.applyParamRequest request)
    refine ⟨?_, ?_, later.fullRefresh.trans first.fullRefresh⟩
    · rw [List.foldl_cons, later.params, first.params]
      rfl
    · rw [List.foldl_cons, later.announced, first.announced, first.params, changedIds,
        BoundedQueue.take_take_append, List.append_assoc]

/-- Serving all requests to change parameters commits them in order. -/
theorem commits_applyParamRequests (service : ParamService F) :
    Commits service service.applyParamRequests
      (requestedParams service.params service.events.setRequests.items)
      (changedIds service.params service.events.setRequests.items) := by
  -- The emptied queue of requests is not among the news.
  have committed := service.commits_foldl service.events.setRequests.items
  exact ⟨committed.params, committed.announced, committed.fullRefresh⟩

omit [FlightFloat F] [ReflectionFormat F] in
/-- Answering requests to read parameters keeps the parameters and the other news. -/
theorem serviceParamReadRequests_eq (service : ParamService F) :
    ∃ comm, service.serviceParamReadRequests =
      { service with comm, events := { service.events with readRequests := .empty } } := by
  have answered (served : ParamService F) (identifier : ParamIdentifier)
      (written : ∃ comm, served = { service with comm }) :
      ∃ comm, serviceParamReadRequest served identifier = { service with comm } := by
    -- Each answer is one more response.
    obtain ⟨comm, written⟩ := written
    rw [written]
    unfold serviceParamReadRequest
    split
    · exact ⟨comm, rfl⟩
    · exact ⟨_, rfl⟩
  have answers := BoundedQueue.drain_invariant answered ⟨service.comm, rfl⟩
    service.events.readRequests
  obtain ⟨comm, written⟩ := answers
  refine ⟨comm, ?_⟩
  unfold serviceParamReadRequests
  dsimp only
  rw [written]
  rfl

omit [FlightFloat F] [ReflectionFormat F] in
/-- Going on with a listing keeps the parameters and the other news. -/
theorem serviceParamListRequests_eq (service : ParamService F) :
    ∃ comm listState, service.serviceParamListRequests =
      { service with
        comm, listState, events := { service.events with listRequests := .empty } } := by
  -- A listing that goes on reports one more parameter.
  unfold serviceParamListRequests
  dsimp only
  split
  · exact ⟨_, _, rfl⟩
  · split
    · exact ⟨_, _, rfl⟩
    · exact ⟨_, _, rfl⟩

/-- A whole pass over the parameter requests commits those that change parameters. -/
theorem commits_serviceParamEvents (service : ParamService F) :
    Commits service service.serviceParamEvents
      (requestedParams service.params service.events.setRequests.items)
      (changedIds service.params service.events.setRequests.items) := by
  obtain ⟨read, reads⟩ := service.serviceParamReadRequests_eq
  obtain ⟨listed, listState, lists⟩ := service.serviceParamReadRequests.serviceParamListRequests_eq
  rw [reads] at lists
  -- The answers before leave the requests to change parameters as they are.
  rw [serviceParamEvents, reads, lists]
  have committed := commits_applyParamRequests
    { service with
      comm := listed, listState
      events := { service.events with readRequests := .empty, listRequests := .empty } }
  exact ⟨committed.params, committed.announced, committed.fullRefresh⟩

end ParamService

end Veloxity
