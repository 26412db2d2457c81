import Veloxity.Comm.Telemetry
import Veloxity.Core.Events
import Veloxity.Mixer.Canned

/-! Answering the companion's requests to read, list and change parameters. -/

namespace Veloxity

/-- Next parameter of a listing in progress. -/
structure ParamListState where
  nextIndex : Option Nat := none
  deriving DecidableEq, Repr

/-- A listing is in progress. -/
def ParamListState.isActive (state : ParamListState) : Bool := state.nextIndex.isSome

variable {F : Type}

/-- Two values have the same stored type. -/
def sameParamType : ParamValue F → ParamValue F → Bool
  | .float _, .float _ | .int _, .int _ | .uint _, .uint _ | .bool _, .bool _ => true
  | _, _ => false

/-- Equality of values, where an undefined float differs from itself. -/
def sameParamValue [FlightFloat F] : ParamValue F → ParamValue F → Bool
  | .float left, .float right => FlightFloat.eq left right
  | .int left, .int right => left = right
  | .uint left, .uint right => left = right
  | .bool left, .bool right => left = right
  | _, _ => false

/-- Parameter named by sixteen bytes, whether or not its name is cut off. -/
def paramIdFromNameBytes (bytes : ParamName) : Option ParamId :=
  match String.fromUTF8? (ByteArray.mk (bytes.toArray.takeWhile (· ≠ 0))) with
  | none => none
  | some name =>
    ParamId.table.find? fun id => id.asStr = name || strToFixedBytes id.asStr = bytes

/-- Parameter asked for by name or index. -/
def paramIdFromIdentifier : ParamIdentifier → Option ParamId
  | .index index => if 0 ≤ index then ParamId.fromIndex index.toNat else none
  | .id bytes => paramIdFromNameBytes bytes

/-- Queue a changed parameter, or drop the news when there is no room. -/
def emitParamChange (events : ParamEventQueues F) (id : ParamId) (old new : ParamValue F) :
    ParamEventQueues F :=
  { events with
    changes := (events.changes.push { id, old, new, paramIdBytes := strToFixedBytes id.asStr }).1 }

/-- Ask for every reaction at once. -/
def markAllParamsChanged (events : ParamEventQueues F) : ParamEventQueues F :=
  { events with fullRefresh := true }

/-- Report of a parameter's current value under its own name. -/
def paramValueResponse (params : Params F) (id : ParamId) : CommResponse F :=
  .paramValue
    { paramId := strToFixedBytes id.asStr, paramValue := params.getById id
      paramCount := paramsCount, paramIndex := id.toIndex }

/-- Parameters that reflect a mixer choice, in table order. -/
def reflectedMixerParams : ParamId → List ParamId
  | .PARAM_PRIMARY_MIXER => (ParamId.tableMixers.take 120)
  | .PARAM_SECONDARY_MIXER => (ParamId.tableMixers.drop 120)
  | _ => []

/-- Report the parameters that reflect a mixer choice. -/
def emitReflectedMixerParamResponses (comm : CommEventQueues F) (params : Params F)
    (changed : ParamId) : CommEventQueues F :=
  (reflectedMixerParams changed).foldl (fun comm id => comm.respond (paramValueResponse params id))
    comm

/-- A parameter chooses a mixer. -/
def isMixerChoiceParam (id : ParamId) : Bool :=
  id = .PARAM_PRIMARY_MIXER || id = .PARAM_SECONDARY_MIXER

/-- A telemetry rate only takes integers within its range. -/
def telemetryValueAllowed (id : ParamId) (value : ParamValue F) : Bool :=
  (telemetryStreamForParam id).isNone ||
    match value with
    | .int value => -1 ≤ value && value ≤ MAX_TELEMETRY_RATE_HZ
    | _ => false

/-- What parameter service reads and changes. -/
structure ParamService (F : Type) where
  params : Params F
  listState : ParamListState
  events : ParamEventQueues F
  comm : CommEventQueues F

section

variable [FlightFloat F]

/-- Change a parameter and queue the news, unless it has that value already. -/
def setParamAndEmitChange (params : Params F) (events : ParamEventQueues F) (id : ParamId)
    (value : ParamValue F) : Params F × ParamEventQueues F :=
  let old := params.getById id
  if sameParamValue old value then (params, events)
  else
    let changed := params.setById id value
    (changed, emitParamChange events id old (changed.getById id))

namespace ParamService

/-- Answer one request to change a parameter. -/
def applyParamRequest [ReflectionFormat F] (service : ParamService F)
    (request : ParamSetRequested F) : ParamService F :=
  match paramIdFromNameBytes request.paramIdBytes with
  | none => service
  | some id =>
    if !sameParamType id.default request.value then service
    else if !telemetryValueAllowed id request.value then service
    else if sameParamValue (service.params.getById id) request.value then
      -- An unchanged mixer choice is reflected again, without any news of a change.
      let reflected :=
        if isMixerChoiceParam id then
          let params := syncReflectedMixerParams service.params id
          { service with params, comm := emitReflectedMixerParamResponses service.comm params id }
        else service
      { reflected with comm := reflected.comm.respond (paramValueResponse reflected.params id) }
    else
      let set := setParamAndEmitChange service.params service.events id request.value
      let params := syncReflectedMixerParams set.1 id
      let reported := emitReflectedMixerParamResponses service.comm params id
      { service with
        params, events := set.2
        comm := reported.respond (.paramValue
          { paramId := request.paramIdBytes, paramValue := params.getById id
            paramCount := paramsCount, paramIndex := id.toIndex }) }

/-- Answer every request to change a parameter. -/
def applyParamRequests [ReflectionFormat F] (service : ParamService F) : ParamService F :=
  let applied := service.events.setRequests.drain applyParamRequest service
  { applied.1 with events := { applied.1.events with setRequests := applied.2 } }

end ParamService

end

namespace ParamService

/-- Answer one request to read a parameter. -/
def serviceParamReadRequest (service : ParamService F) (identifier : ParamIdentifier) :
    ParamService F :=
  match paramIdFromIdentifier identifier with
  | none => service
  | some id => { service with comm := service.comm.respond (paramValueResponse service.params id) }

/-- Answer every request to read a parameter. -/
def serviceParamReadRequests (service : ParamService F) : ParamService F :=
  let answered := service.events.readRequests.drain serviceParamReadRequest service
  { answered.1 with events := { answered.1.events with readRequests := answered.2 } }

/-- Start a listing when one is asked for, and report its next parameter. -/
def serviceParamListRequests (service : ParamService F) : ParamService F :=
  let started := service.events.listRequests.drain
    (fun _ _ => ({ nextIndex := some 0 } : ParamListState)) service.listState
  let service := { service with events := { service.events with listRequests := started.2 } }
  match started.1.nextIndex with
  | none => { service with listState := started.1 }
  | some index =>
    match ParamId.fromIndex index with
    | none => { service with listState := { nextIndex := none } }
    | some id =>
      { service with
        comm := service.comm.respond (paramValueResponse service.params id)
        listState := { nextIndex := if index + 1 < paramsCount then some (index + 1) else none } }

/-- Answer all parameter requests. -/
def serviceParamEvents [FlightFloat F] [ReflectionFormat F] (service : ParamService F) :
    ParamService F :=
  service.serviceParamReadRequests.serviceParamListRequests.applyParamRequests

end ParamService

end Veloxity
