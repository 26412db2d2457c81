import Veloxity.Mixer.Selection
import Veloxity.Params.Acknowledgements

/-! The system identifier the parameters configure, and what responses announce of it. -/

namespace Veloxity

open CommEventQueues (Appends)
open CommManager (announcedSysid foldl_announcedSysid)
open Library (Along BoundedQueue run)

variable {F : Type}

/-- The system identifier a value stands for, as an unsigned byte. -/
def ParamValue.systemId : ParamValue F → Option Nat
  | .int value => some (value % 256).toNat
  | _ => none

/-- The system identifier that parameters configure. -/
def Params.systemId (params : Params F) : Option Nat := (params.getById .PARAM_SYSTEM_ID).systemId

/-- Parameters with the same value there configure the same identifier. -/
theorem Params.systemId_congr {params other : Params F}
    (same : other.getById .PARAM_SYSTEM_ID = params.getById .PARAM_SYSTEM_ID) :
    other.systemId = params.systemId := congrArg ParamValue.systemId same

/-- Setting another parameter keeps the identifier. -/
theorem Params.systemId_setById (params : Params F) {id : ParamId} (value : ParamValue F)
    (other : id ≠ .PARAM_SYSTEM_ID) : (params.setById id value).systemId = params.systemId :=
  systemId_congr (params.getById_setById_of_ne value (Ne.symm other))

/-- Reflecting a mixer choice keeps the identifier. -/
theorem systemId_syncReflectedMixerParams [ReflectionFormat F] (params : Params F)
    (changed : ParamId) : (syncReflectedMixerParams params changed).systemId = params.systemId :=
  Params.systemId_congr (syncReflectedMixerParams_getById params changed rfl rfl)

/-- A response that does not report the identifier announces none. -/
theorem announcedSysid_of_other {response : CommResponse F} (sysid : Nat)
    (other : response.reportedIndex ≠ some (ParamId.toIndex .PARAM_SYSTEM_ID)) :
    announcedSysid sysid response = sysid := by
  -- Only reports of values are looked at.
  cases response with
  | paramValue msg =>
    have differs : msg.paramIndex ≠ ParamId.toIndex .PARAM_SYSTEM_ID := fun same =>
      other (congrArg some same)
    rw [announcedSysid, if_neg differs]
  | _ => rfl

/-- A report of the identifier announces it. -/
theorem announcedSysid_of_report {msg : ParamValueMsg F} (sysid : Nat) {id : Nat}
    (index : msg.paramIndex = ParamId.toIndex .PARAM_SYSTEM_ID)
    (value : msg.paramValue.systemId = some id) : announcedSysid sysid (.paramValue msg) = id := by
  rw [announcedSysid, if_pos index]
  -- Only an integer stands for an identifier.
  cases reported : msg.paramValue with
  | int value' =>
    rw [reported] at value
    exact Option.some.inj value
  | _ =>
    rw [reported] at value
    cases value

/-- A report of any current value announces nothing new once the identifier is held. -/
theorem announcedSysid_paramValueResponse {params : Params F} {sysid : Nat}
    (held : params.systemId = some sysid) (id : ParamId) :
    announcedSysid sysid (paramValueResponse params id) = sysid := by
  -- The report of the identifier itself repeats it.
  by_cases same : id = .PARAM_SYSTEM_ID
  · rw [same, paramValueResponse]
    apply announcedSysid_of_report
    · dsimp only
    · exact held
  · apply announcedSysid_of_other
    intro index
    exact same (ParamId.toIndex_inj.mp (Option.some.inj index))

namespace CommEventQueues

/-- The identifier held once these responses are sent as well. -/
def announced (events : CommEventQueues F) (sysid : Nat) : Nat :=
  events.responses.items.foldl announcedSysid sysid

/-- Queued responses that announce nothing new change nothing, whether they find room or not. -/
theorem Appends.announced {before after : CommEventQueues F} {added : List (CommResponse F)}
    (appends : Appends before after added) (sysid : Nat)
    (confirmed : ∀ response ∈ added,
      announcedSysid (before.announced sysid) response = before.announced sysid) :
    after.announced sysid = before.announced sysid := by
  -- The added responses are folded over last.
  unfold CommEventQueues.announced
  rw [appends.grown, List.foldl_append]
  exact foldl_announcedSysid fun response member =>
    confirmed response (List.mem_of_mem_take member)

end CommEventQueues

namespace ParamService

/-- The identifier in force once all waiting responses are sent is the configured one. -/
def HoldsSystemId (sysid : Nat) (service : ParamService F) : Prop :=
  service.params.systemId = some (service.comm.announced sysid)

/-- Reports of current values keep the identifier in force. -/
theorem HoldsSystemId.of_reports {sysid : Nat} {service after : ParamService F}
    (holds : service.HoldsSystemId sysid) {ids : List ParamId}
    (params : after.params = service.params)
    (appends : Appends service.comm after.comm (ids.map (paramValueResponse service.params))) :
    after.HoldsSystemId sysid := by
  -- Each report confirms what is held.
  unfold HoldsSystemId
  rw [params, appends.announced sysid]
  · exact holds
  · intro response member
    obtain ⟨id, _, rfl⟩ := List.mem_map.mp member
    exact announcedSysid_paramValueResponse holds id

/-- Answering reads and going on with a listing keeps the identifier in force. -/
theorem HoldsSystemId.answers {sysid : Nat} {service : ParamService F}
    (holds : service.HoldsSystemId sysid) :
    service.serviceParamReadRequests.serviceParamListRequests.HoldsSystemId sysid := by
  -- Neither answers nor listings set a parameter.
  obtain ⟨_, reads⟩ := service.serviceParamReadRequests_eq
  obtain ⟨_, _, lists⟩ := service.serviceParamReadRequests.serviceParamListRequests_eq
  have read : service.serviceParamReadRequests.params = service.params := by rw [reads]
  have listed : service.serviceParamReadRequests.serviceParamListRequests.params =
      service.serviceParamReadRequests.params := by rw [lists]
  have first := holds.of_reports read service.appends_serviceParamReadRequests
  exact first.of_reports listed
    service.serviceParamReadRequests.appends_serviceParamListRequests

section

variable [FlightFloat F] [ReflectionFormat F]

/-- A request that changes the identifier finds room for its report. -/
def AnnouncesSystemId (service : ParamService F) (request : ParamSetRequested F) : Prop :=
  request.accepted = some .PARAM_SYSTEM_ID → request.value.systemId ≠ service.params.systemId →
    service.comm.responses.items.length < COMM_RESPONSE_QUEUE_CAPACITY

/-- An accepted identifier is an integer, which the parameter holds once it is served. -/
theorem getById_systemId_applyParamRequest (service : ParamService F)
    {request : ParamSetRequested F} (accepted : request.accepted = some .PARAM_SYSTEM_ID) :
    (∃ value, request.value = .int value) ∧
      (service.applyParamRequest request).params.getById .PARAM_SYSTEM_ID = request.value := by
  obtain ⟨named, fitting⟩ := Option.filter_eq_some_iff.mp accepted
  obtain ⟨typed, _⟩ := (Bool.and_eq_true _ _).mp fitting
  have plain (params : Params F) : (syncReflectedMixerParams params .PARAM_SYSTEM_ID).getById
      .PARAM_SYSTEM_ID = params.getById .PARAM_SYSTEM_ID :=
    syncReflectedMixerParams_getById params _ rfl rfl
  -- Its default is an integer, and so is every value of its type.
  obtain ⟨value, given⟩ : ∃ value, request.value = .int value := by
    cases given : request.value with
    | int value => exact ⟨value, rfl⟩
    | _ =>
      rw [given] at typed
      cases typed
  refine ⟨⟨value, given⟩, ?_⟩
  rw [(service.commits_applyParamRequest request).params, ParamSetRequested.commit, accepted]
  dsimp only
  rw [plain]
  split
  · rename_i same
    -- Integers that compare equal are the same.
    rw [given] at same ⊢
    cases held : service.params.getById .PARAM_SYSTEM_ID with
    | int old =>
      rw [held] at same
      exact congrArg _ (of_decide_eq_true same)
    | _ =>
      rw [held] at same
      cases same
  · exact Params.getById_setById_self _ _ _

/-- Serving a request keeps the identifier in force when its change is announced. -/
theorem HoldsSystemId.applyParamRequest {sysid : Nat} {service : ParamService F}
    (holds : service.HoldsSystemId sysid) {request : ParamSetRequested F}
    (announces : service.AnnouncesSystemId request) :
    (service.applyParamRequest request).HoldsSystemId sysid := by
  cases accepted : request.accepted with
  | none =>
    rw [service.applyParamRequest_of_refused accepted]
    exact holds
  | some id =>
    obtain ⟨ack, index, value, appends⟩ := service.appends_applyParamRequest accepted
    by_cases chosen : id = .PARAM_SYSTEM_ID
    · subst chosen
      obtain ⟨⟨given, integer⟩, set⟩ := service.getById_systemId_applyParamRequest accepted
      have configured : (service.applyParamRequest request).params.systemId =
          request.value.systemId := congrArg ParamValue.systemId set
      rw [reflectedMixerParams_of_other rfl, List.map_nil, List.nil_append] at appends
      unfold HoldsSystemId
      by_cases room : service.comm.responses.items.length < COMM_RESPONSE_QUEUE_CAPACITY
      · -- The report is the last response, so its identifier is the one in force.
        have reported : ack.paramValue.systemId = some (given % 256).toNat := by
          rw [value, set, integer]
          rfl
        rw [configured, integer, CommEventQueues.announced, appends.items_of_room room,
          List.foldl_append, List.foldl_cons, List.foldl_nil,
          announcedSysid_of_report _ index reported]
        rfl
      · -- Without room for a report the identifier has not changed.
        have unchanged : request.value.systemId = service.params.systemId := by
          by_contra differs
          exact room (announces accepted differs)
        have full : COMM_RESPONSE_QUEUE_CAPACITY - service.comm.responses.items.length = 0 :=
          Nat.sub_eq_zero_of_le (Nat.not_lt.mp room)
        rw [configured, unchanged, CommEventQueues.announced, appends.grown, full, List.take_zero,
          List.append_nil]
        exact holds
    · -- Neither the other parameter nor what reflects it is the identifier.
      have kept :
          (service.applyParamRequest request).params.systemId = service.params.systemId := by
        rw [(service.commits_applyParamRequest request).params, ParamSetRequested.commit, accepted]
        dsimp only
        rw [systemId_syncReflectedMixerParams]
        split
        · rfl
        · exact service.params.systemId_setById request.value chosen
      have current : (service.applyParamRequest request).params.systemId =
          some (service.comm.announced sysid) := kept.trans holds
      unfold HoldsSystemId
      rw [appends.announced sysid, current]
      intro response member
      rcases List.mem_append.mp member with reflected | last
      · obtain ⟨other, _, rfl⟩ := List.mem_map.mp reflected
        exact announcedSysid_paramValueResponse current other
      · rw [List.mem_singleton.mp last]
        apply announcedSysid_of_other
        intro same
        rw [CommResponse.reportedIndex, index] at same
        exact chosen (ParamId.toIndex_inj.mp (Option.some.inj same))

/-- Every change of the identifier by these requests finds room for its report. -/
structure AnnouncesSystemIds (service : ParamService F) (requests : List (ParamSetRequested F)) :
    Prop where
  along : Along AnnouncesSystemId ParamService.applyParamRequest service requests

/-- Serving requests keeps the identifier in force when all its changes are announced. -/
theorem HoldsSystemId.run {sysid : Nat} {service : ParamService F}
    (holds : service.HoldsSystemId sysid) {requests : List (ParamSetRequested F)}
    (announces : service.AnnouncesSystemIds requests) :
    (Library.run ParamService.applyParamRequest service requests).HoldsSystemId sysid :=
  Library.run_invariant_along (fun _ _ held lawful => held.applyParamRequest lawful) holds
    announces.along

end

end ParamService

end Veloxity
