import Veloxity.Comm.Responses
import Veloxity.Library.Run
import Veloxity.Params.ServiceLaws
import Veloxity.Params.Table

/-! Which responses serving the parameter requests queues, and when one of them is dropped. -/

namespace Veloxity

open CommEventQueues (Appends appends_respond appends_foldl_respond)
open Library (BoundedQueue)

variable {F : Type}

/-- The index of the parameter that a response reports. -/
def CommResponse.reportedIndex : CommResponse F → Option Nat
  | .paramValue msg => some msg.paramIndex
  | _ => none

/-- The index of the parameter that a response reports, and the value it reports. -/
def CommResponse.report : CommResponse F → Option (Nat × ParamValue F)
  | .paramValue msg => some (msg.paramIndex, msg.paramValue)
  | _ => none

/-- Responses report these parameters with these values, in this order. -/
def ReportsEach (added : List (CommResponse F)) (answers : List (ParamId × ParamValue F)) : Prop :=
  added.map CommResponse.report = answers.map fun answer => some (answer.1.toIndex, answer.2)

/-- Reports queued one after another report what the parts report. -/
theorem ReportsEach.append {first second : List (CommResponse F)}
    {earlier later : List (ParamId × ParamValue F)} (reported : ReportsEach first earlier)
    (following : ReportsEach second later) : ReportsEach (first ++ second) (earlier ++ later) := by
  unfold ReportsEach at *
  rw [List.map_append, List.map_append, reported, following]

/-- Parameters are reported with the values they have. -/
theorem reportsEach_paramValueResponse (params : Params F) (ids : List ParamId) :
    ReportsEach (ids.map (paramValueResponse params))
      (ids.map fun id => (id, params.getById id)) := by
  -- Each report names its parameter's index.
  unfold ReportsEach
  rw [List.map_map, List.map_map]
  rfl

/-- What reports a parameter has an index to report. -/
theorem ReportsEach.isSome_reportedIndex {added : List (CommResponse F)}
    {answers : List (ParamId × ParamValue F)} (reported : ReportsEach added answers) :
    ∀ response ∈ added, response.reportedIndex.isSome = true := by
  intro response member
  have listed : response.report ∈ added.map CommResponse.report := List.mem_map_of_mem member
  rw [reported] at listed
  obtain ⟨answer, _, same⟩ := List.mem_map.mp listed
  -- Only reports of a parameter report anything.
  cases response with
  | paramValue msg => rfl
  | _ => cases same

/-- A mixer choice is none of the parameters that reflect it. -/
theorem not_mem_reflectedMixerParams (id : ParamId) : id ∉ reflectedMixerParams id := by
  intro member
  -- Only the two choices are reflected, and into mixer parameters.
  unfold reflectedMixerParams at member
  split at member
  · have listed := List.mem_of_mem_take member
    simp [ParamId.tableMixers] at listed
  · have listed := List.mem_of_mem_drop member
    simp [ParamId.tableMixers] at listed
  · cases member

/-- Only mixer choices are reflected. -/
theorem reflectedMixerParams_of_other {id : ParamId} (other : isMixerChoiceParam id = false) :
    reflectedMixerParams id = [] := by
  -- The two choices are the cases of the definition.
  unfold isMixerChoiceParam at other
  unfold reflectedMixerParams
  split
  · exact absurd other (by decide)
  · exact absurd other (by decide)
  · rfl

/-- The parameters a request to change one has reported, with their values. -/
def ParamSetRequested.answers [FlightFloat F] [ReflectionFormat F]
    (request : ParamSetRequested F) (params : Params F) : List (ParamId × ParamValue F) :=
  match request.accepted with
  | none => []
  | some id => (reflectedMixerParams id ++ [id]).map fun named =>
      (named, (request.commit params).getById named)

/-- The parameters that requests to change some have reported, one request after another. -/
def setAnswers [FlightFloat F] [ReflectionFormat F] :
    Params F → List (ParamSetRequested F) → List (ParamId × ParamValue F)
  | _, [] => []
  | params, request :: rest => request.answers params ++ setAnswers (request.commit params) rest

namespace ParamService

/-- Reading a parameter queues its report, if there is such a parameter. -/
theorem appends_serviceParamReadRequest (service : ParamService F) (identifier : ParamIdentifier) :
    Appends service.comm (service.serviceParamReadRequest identifier).comm
      ((paramIdFromIdentifier identifier).toList.map (paramValueResponse service.params)) := by
  -- An unknown parameter is not reported.
  unfold serviceParamReadRequest
  split
  · rename_i unknown
    rw [unknown]
    exact .refl _
  · rename_i id known
    rw [known]
    exact appends_respond _ _

/-- Answering all read requests queues the reports of those parameters that there are. -/
theorem appends_serviceParamReadRequests (service : ParamService F) :
    Appends service.comm service.serviceParamReadRequests.comm
      ((service.events.readRequests.items.filterMap paramIdFromIdentifier).map
        (paramValueResponse service.params)) := by
  have answered (requests : List ParamIdentifier) (served : ParamService F) :
      Appends served.comm (requests.foldl serviceParamReadRequest served).comm
        ((requests.filterMap paramIdFromIdentifier).map (paramValueResponse served.params)) := by
    induction requests generalizing served with
    | nil => exact .refl _
    | cons identifier rest ih =>
      have first := served.appends_serviceParamReadRequest identifier
      have later := ih (served.serviceParamReadRequest identifier)
      -- No answer changes a parameter.
      have params : (served.serviceParamReadRequest identifier).params = served.params := by
        unfold serviceParamReadRequest
        split <;> rfl
      rw [params] at later
      have both := first.trans later
      rw [← List.map_append] at both
      rw [List.foldl_cons, List.filterMap_cons]
      cases named : paramIdFromIdentifier identifier with
      | none => simpa only [named, Option.toList_none, List.nil_append] using both
      | some id => simpa only [named, Option.toList_some, List.singleton_append] using both
  exact answered service.events.readRequests.items service

/-- As many reads of the first parameter as responses can wait leave no room. -/
theorem full_of_reads {service : ParamService F}
    (reads : service.events.readRequests.items =
      List.replicate COMM_RESPONSE_QUEUE_CAPACITY (.index 0)) :
    service.serviceParamReadRequests.comm.responses.items.length =
      COMM_RESPONSE_QUEUE_CAPACITY := by
  -- Every read reports, so the queue is filled.
  have reported (count : Nat) : (List.replicate count (ParamIdentifier.index 0)).filterMap
      paramIdFromIdentifier = List.replicate count .PARAM_BAUD_RATE :=
    List.filterMap_replicate_of_some rfl
  rw [service.appends_serviceParamReadRequests.items, reads, reported, List.length_take,
    List.length_append, List.length_map, List.length_replicate]
  omega

/-- Service with nothing to do does nothing. -/
theorem serviceParamEvents_of_idle [FlightFloat F] [ReflectionFormat F] {service : ParamService F}
    (sets : service.events.setRequests.isEmpty = true)
    (reads : service.events.readRequests.isEmpty = true)
    (lists : service.events.listRequests.isEmpty = true)
    (inactive : service.listState.isActive = false) : service.serviceParamEvents = service := by
  rcases service with ⟨params, ⟨next⟩, ⟨⟨set, _⟩, ⟨read, _⟩, ⟨list, _⟩, changes, fullRefresh⟩, comm⟩
  -- Every queue is empty already, and no listing is in progress.
  obtain rfl := List.isEmpty_iff.mp sets
  obtain rfl := List.isEmpty_iff.mp reads
  obtain rfl := List.isEmpty_iff.mp lists
  obtain rfl := Option.isSome_eq_false_iff.mp inactive |> Option.isNone_iff_eq_none.mp
  rfl

/-- The listing once the requests to start one have been taken. -/
def startedListing (service : ParamService F) : ParamListState :=
  if service.events.listRequests.items = [] then service.listState else { nextIndex := some 0 }

/-- Taking requests to start a listing starts one if there are any. -/
theorem drain_listRequests (service : ParamService F) :
    (service.events.listRequests.drain (fun _ _ => ({ nextIndex := some 0 } : ParamListState))
      service.listState).1 = service.startedListing := by
  -- All requests start the same listing.
  have started (requests : List Unit) (state : ParamListState) :
      requests.foldl (fun _ _ => ({ nextIndex := some 0 } : ParamListState)) state =
        if requests = [] then state else { nextIndex := some 0 } := by
    induction requests generalizing state with
    | nil => rfl
    | cons request rest ih =>
      rw [List.foldl_cons, ih]
      simp
  exact started _ _

/-- A listing in progress reports its next parameter and moves on; any other pass lists nothing. -/
theorem serviceParamListRequests_cases (service : ParamService F) :
    (∃ index id, service.startedListing.nextIndex = some index ∧
        ParamId.fromIndex index = some id ∧
        service.serviceParamListRequests.comm =
          service.comm.respond (paramValueResponse service.params id) ∧
        service.serviceParamListRequests.listState.nextIndex =
          if index + 1 < paramsCount then some (index + 1) else none) ∨
      ((∀ index, service.startedListing.nextIndex = some index → paramsCount ≤ index) ∧
        service.serviceParamListRequests.comm = service.comm ∧
        service.serviceParamListRequests.listState.nextIndex = none) := by
  -- An index names a parameter or lies beyond the last one.
  unfold serviceParamListRequests
  dsimp only
  rw [drain_listRequests]
  cases next : service.startedListing.nextIndex with
  | none =>
    right
    simp [next]
  | some index =>
    cases found : ParamId.fromIndex index with
    | none =>
      right
      have beyond : paramsCount ≤ index := List.getElem?_eq_none_iff.mp found
      simp [found, beyond]
    | some id =>
      left
      exact ⟨index, id, rfl, found, by simp [found], by simp [found]⟩

/-- The indices that going on with a listing places among the responses. -/
def placedByListing (service : ParamService F) : List Nat :=
  (service.serviceParamListRequests.comm.responses.items.drop
    service.comm.responses.items.length).filterMap CommResponse.reportedIndex

/-- A listing in progress moves on, and places its index where there is room for it. -/
theorem placedByListing_of_active {service : ParamService F} {index : Nat}
    (active : service.startedListing.nextIndex = some index) (within : index < paramsCount) :
    service.placedByListing =
        (if service.comm.responses.items.length < COMM_RESPONSE_QUEUE_CAPACITY then [index]
        else []) ∧
      service.serviceParamListRequests.listState.nextIndex =
        if index + 1 < paramsCount then some (index + 1) else none := by
  rcases service.serviceParamListRequests_cases with
    ⟨next, id, started, found, listed, moved⟩ | ⟨beyond, _, _⟩
  · obtain rfl := Option.some.inj (active.symm.trans started)
    refine ⟨?_, moved⟩
    unfold placedByListing
    rw [listed]
    -- The report is the one thing behind what waited before.
    simp only [CommEventQueues.respond, BoundedQueue.push]
    split
    · rw [List.drop_left]
      exact congrArg (fun placed => [placed]) (ParamId.toIndex_of_fromIndex found)
    · rw [List.drop_length]
      rfl
  · exact absurd within (Nat.not_lt.mpr (beyond index active))

/-- Without a listing in progress nothing is placed and none begins. -/
theorem placedByListing_of_inactive {service : ParamService F}
    (inactive : service.startedListing.nextIndex = none) :
    service.placedByListing = [] ∧ service.serviceParamListRequests.listState.nextIndex = none := by
  -- There is no next parameter.
  rcases service.serviceParamListRequests_cases with ⟨index, _, started, _⟩ | ⟨_, idle, ended⟩
  · rw [inactive] at started
    cases started
  · refine ⟨?_, ended⟩
    rw [placedByListing, idle, List.drop_length]
    rfl

/-- Going on with a listing reports its next parameter, if it has one. -/
theorem appends_serviceParamListRequests (service : ParamService F) :
    Appends service.comm service.serviceParamListRequests.comm
      ((service.startedListing.nextIndex.bind ParamId.fromIndex).toList.map
        (paramValueResponse service.params)) := by
  -- A listing that has come to its end reports nothing.
  rcases service.serviceParamListRequests_cases with
    ⟨index, id, started, found, listed, _⟩ | ⟨beyond, idle, _⟩
  · rw [listed, started, Option.bind_some, found]
    exact appends_respond _ _
  · have nothing : service.startedListing.nextIndex.bind ParamId.fromIndex = none := by
      cases started : service.startedListing.nextIndex with
      | none => rfl
      | some index => exact List.getElem?_eq_none_iff.mpr (beyond index started)
    rw [nothing, idle]
    exact .refl _

variable [FlightFloat F] [ReflectionFormat F]

/-- A request that is not accepted changes nothing. -/
theorem applyParamRequest_of_refused (service : ParamService F) {request : ParamSetRequested F}
    (refused : request.accepted = none) : service.applyParamRequest request = service := by
  unfold ParamSetRequested.accepted at refused
  unfold applyParamRequest
  cases named : paramIdFromNameBytes request.paramIdBytes with
  | none => rfl
  | some id =>
    rw [named] at refused
    -- Either the type or the range is wrong.
    cases typed : sameParamType (id.default : ParamValue F) request.value with
    | false => simp [typed]
    | true =>
      have outside : telemetryValueAllowed id request.value = false := by
        simpa [Option.filter, typed] using refused
      simp [outside]

/-- A set request reports what its parameter reflects into, and last of all the parameter itself
with the value it has then. -/
theorem appends_applyParamRequest (service : ParamService F) {request : ParamSetRequested F}
    {id : ParamId} (accepted : request.accepted = some id) :
    ∃ ack, ack.paramIndex = id.toIndex ∧
      ack.paramValue = (service.applyParamRequest request).params.getById id ∧
      Appends service.comm (service.applyParamRequest request).comm
        ((reflectedMixerParams id).map
            (paramValueResponse (service.applyParamRequest request).params) ++
          [.paramValue ack]) := by
  -- The parameter is set, or has the value already and may be reflected again.
  obtain ⟨named, fitting⟩ := Option.filter_eq_some_iff.mp accepted
  obtain ⟨typed, allowed⟩ := (Bool.and_eq_true _ _).mp fitting
  by_cases same : sameParamValue (service.params.getById id) request.value = true
  · cases choice : isMixerChoiceParam id with
    | true =>
      simp only [applyParamRequest, named, typed, allowed, same, choice, Bool.not_true,
        Bool.false_eq_true, if_false, if_true]
      exact ⟨_, rfl, rfl, (appends_foldl_respond _ _ _).trans (appends_respond _ _)⟩
    | false =>
      simp only [applyParamRequest, named, typed, allowed, same, choice, Bool.not_true,
        Bool.false_eq_true, if_false, if_true, reflectedMixerParams_of_other choice]
      exact ⟨_, rfl, rfl, appends_respond _ _⟩
  · simp only [applyParamRequest, named, typed, allowed, same, Bool.not_true, Bool.false_eq_true,
      if_false]
    exact ⟨_, rfl, rfl, (appends_foldl_respond _ _ _).trans (appends_respond _ _)⟩

/-- The parameters that all requests have reported: those read, the next of a listing and those
that requests to change some name. -/
def answers (service : ParamService F) : List (ParamId × ParamValue F) :=
  ((service.events.readRequests.items.filterMap paramIdFromIdentifier ++
      (service.startedListing.nextIndex.bind ParamId.fromIndex).toList).map
    fun id => (id, service.params.getById id)) ++
  setAnswers service.params service.events.setRequests.items

/-- Serving requests to change parameters reports what they have reported. -/
theorem appends_foldl_applyParamRequest (service : ParamService F)
    (requests : List (ParamSetRequested F)) :
    ∃ added, ReportsEach added (setAnswers service.params requests) ∧
      Appends service.comm (requests.foldl applyParamRequest service).comm added := by
  induction requests generalizing service with
  | nil => exact ⟨[], rfl, .refl _⟩
  | cons request rest ih =>
    have committed := (service.commits_applyParamRequest request).params
    obtain ⟨later, reported, continued⟩ := ih (service.applyParamRequest request)
    rw [committed] at reported
    have first : ∃ added, ReportsEach added (request.answers service.params) ∧
        Appends service.comm (service.applyParamRequest request).comm added := by
      unfold ParamSetRequested.answers
      cases accepted : request.accepted with
      | none =>
        -- A refused request queues nothing.
        rw [service.applyParamRequest_of_refused accepted]
        exact ⟨[], rfl, .refl _⟩
      | some id =>
        obtain ⟨ack, index, value, appends⟩ := service.appends_applyParamRequest accepted
        rw [committed] at value appends
        have acknowledged : ReportsEach [.paramValue ack]
            [(id, (request.commit service.params).getById id)] := by
          rw [ReportsEach, List.map_singleton, List.map_singleton, CommResponse.report, index,
            value]
        refine ⟨_, ?_, appends⟩
        dsimp only
        rw [List.map_append]
        exact (reportsEach_paramValueResponse _ _).append acknowledged
    obtain ⟨added, answered, queued⟩ := first
    exact ⟨added ++ later, answered.append reported, queued.trans continued⟩

/-- Serving all requests reports exactly what they have reported. -/
theorem appends_serviceParamEvents (service : ParamService F) :
    ∃ added, ReportsEach added service.answers ∧
      Appends service.comm service.serviceParamEvents.comm added := by
  have reads := service.appends_serviceParamReadRequests
  have lists := service.serviceParamReadRequests.appends_serviceParamListRequests
  obtain ⟨sent, reported, sets⟩ := appends_foldl_applyParamRequest
    service.serviceParamReadRequests.serviceParamListRequests
    service.serviceParamReadRequests.serviceParamListRequests.events.setRequests.items
  obtain ⟨_, read⟩ := service.serviceParamReadRequests_eq
  obtain ⟨_, _, listed⟩ := service.serviceParamReadRequests.serviceParamListRequests_eq
  have params : service.serviceParamReadRequests.params = service.params := by rw [read]
  have listing : service.serviceParamReadRequests.startedListing = service.startedListing := by
    rw [read]
    rfl
  have after : service.serviceParamReadRequests.serviceParamListRequests.params =
      service.params := by
    rw [listed, read]
  have requests : service.serviceParamReadRequests.serviceParamListRequests.events.setRequests =
      service.events.setRequests := by
    rw [listed, read]
  rw [params, listing] at lists
  rw [after, requests] at reported
  -- The three kinds of requests are served one after another.
  refine ⟨_, ?_, (reads.trans lists).trans sets⟩
  rw [← List.map_append]
  exact (reportsEach_paramValueResponse _ _).append reported

/-- Serving requests to change parameters keeps the listing. -/
theorem listState_applyParamRequests (service : ParamService F) :
    service.applyParamRequests.listState = service.listState := by
  have one (served : ParamService F) (request : ParamSetRequested F)
      (same : served.listState = service.listState) :
      (served.applyParamRequest request).listState = service.listState := by
    rw [← same]
    -- No branch touches it.
    unfold applyParamRequest
    repeat' split
    all_goals rfl
  exact BoundedQueue.drain_invariant one rfl service.events.setRequests

/-- An accepted request gets exactly one report of its parameter, with the value the parameter has
then, and no waiting response is lost or altered. -/
def Acknowledges (service : ParamService F) (request : ParamSetRequested F) : Prop :=
  ∀ id, request.accepted = some id → ∃ reported ack,
    (service.applyParamRequest request).comm.responses.items =
        service.comm.responses.items ++ reported ++ [.paramValue ack] ∧
      ack.paramIndex = id.toIndex ∧
      ack.paramValue = (service.applyParamRequest request).params.getById id ∧
      ∀ other ∈ reported, other.reportedIndex ≠ some id.toIndex

/-- There is room for the parameters that an accepted request's is reflected into, and for one
response more. -/
def HasRoomFor (service : ParamService F) (request : ParamSetRequested F) : Prop :=
  ∀ id, request.accepted = some id →
    service.comm.responses.items.length + (reflectedMixerParams id).length <
      COMM_RESPONSE_QUEUE_CAPACITY

omit [FlightFloat F] [ReflectionFormat F] in
/-- The reports of reflected parameters report no mixer choice. -/
theorem reportedIndex_reflected {params : Params F} {id : ParamId} {other : CommResponse F}
    (member : other ∈ (reflectedMixerParams id).map (paramValueResponse params)) :
    other.reportedIndex ≠ some id.toIndex := by
  -- A choice is not among the parameters it is reflected into.
  obtain ⟨reflected, listed, rfl⟩ := List.mem_map.mp member
  intro same
  have equal := ParamId.toIndex_inj.mp (Option.some.inj same)
  rw [equal] at listed
  exact not_mem_reflectedMixerParams id listed

/-- A request is acknowledged exactly when there is room for all that it reports. -/
theorem acknowledges_iff (service : ParamService F) (request : ParamSetRequested F) :
    service.Acknowledges request ↔ service.HasRoomFor request := by
  constructor
  · intro acknowledged id accepted
    obtain ⟨reported, ack, grown, index, _, others⟩ := acknowledged id accepted
    obtain ⟨_, _, _, appends⟩ := service.appends_applyParamRequest accepted
    by_contra full
    -- Without room the last queued response is an earlier one or a reflected one.
    have cut := appends.items
    rw [grown, ← List.append_assoc, List.take_append_of_le_length (by
      rw [List.length_append, List.length_map]
      omega), List.take_append, List.take_of_length_le service.comm.responses.bounded,
      List.append_assoc, List.append_cancel_left_eq] at cut
    have member : (CommResponse.paramValue ack) ∈ (reflectedMixerParams id).map
        (paramValueResponse (service.applyParamRequest request).params) := by
      apply List.mem_of_mem_take
      rw [← cut]
      simp
    exact reportedIndex_reflected member (congrArg some index)
  · intro room id accepted
    obtain ⟨ack, index, value, appends⟩ := service.appends_applyParamRequest accepted
    have space := room id accepted
    have grown := appends.items_of_room (by
      rw [List.length_append, List.length_map, List.length_singleton]
      omega)
    rw [← List.append_assoc] at grown
    exact ⟨_, ack, grown, index, value, fun other member => reportedIndex_reflected member⟩

end ParamService

end Veloxity
