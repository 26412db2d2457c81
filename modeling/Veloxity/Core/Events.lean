import Veloxity.Comm.Messages

/-! Queues through which the stages of a pass hand work to each other. -/

namespace Veloxity

open Library (BoundedQueue)

/-- Request to change a parameter. -/
structure ParamSetRequested (F : Type) where
  value : ParamValue F
  paramIdBytes : ParamName

/-- A parameter that has been changed. -/
structure ParamChanged (F : Type) where
  id : ParamId
  old : ParamValue F
  new : ParamValue F
  paramIdBytes : ParamName

/-- An offboard command and when it was received. -/
structure OffboardControlRequested (F : Type) where
  nowUs : Nat
  msg : OffboardControlMsg F

/-- Responses that can wait to be sent. -/
abbrev COMM_RESPONSE_QUEUE_CAPACITY : Nat := PARAM_SET_BURST_QUEUE_CAPACITY

/-- Changed parameters that can wait for reactions. -/
abbrev PARAM_CHANGED_QUEUE_CAPACITY : Nat := 8

variable (F : Type)

/-- Parameter requests and changes. -/
structure ParamEventQueues where
  setRequests : BoundedQueue PARAM_SET_BURST_QUEUE_CAPACITY (ParamSetRequested F) := .empty
  readRequests : BoundedQueue PARAM_SET_BURST_QUEUE_CAPACITY ParamIdentifier := .empty
  listRequests : BoundedQueue 2 Unit := .empty
  changes : BoundedQueue PARAM_CHANGED_QUEUE_CAPACITY (ParamChanged F) := .empty
  fullRefresh : Bool := false

/-- Responses to the companion. -/
structure CommEventQueues where
  responses : BoundedQueue COMM_RESPONSE_QUEUE_CAPACITY (CommResponse F) := .empty

/-- Companion inputs. -/
structure CompanionEventQueues where
  heartbeats : BoundedQueue 2 HeartbeatMsg := .empty
  auxCommands : BoundedQueue 2 (RosflightAuxCmdMsg F) := .empty
  externalAttitudes : BoundedQueue 2 (ExternalAttitudeMsg F) := .empty

/-- Commands waiting for service. -/
structure CommandEventQueues where
  calibrationRequests : BoundedQueue 4 RosflightCmd := .empty
  offboardControlRequests : BoundedQueue 4 (OffboardControlRequested F) := .empty
  paramDefaultsRequests : BoundedQueue 2 RosflightCmd := .empty
  boardCommandRequests : BoundedQueue 4 RosflightCmd := .empty
  rcTrimCalibrationRequests : BoundedQueue 2 RosflightCmd := .empty
  versionRequests : BoundedQueue 2 RosflightCmd := .empty
  resetOriginRequests : BoundedQueue 2 RosflightCmd := .empty
  configInfoRequests : BoundedQueue 2 RosflightCmd := .empty

variable {F}

/-- Queue a response, or drop it when there is no room. -/
def CommEventQueues.respond (events : CommEventQueues F) (response : CommResponse F) :
    CommEventQueues F :=
  { responses := (events.responses.push response).1 }

/-- No companion input is waiting. -/
def CompanionEventQueues.isEmpty (events : CompanionEventQueues F) : Bool :=
  events.heartbeats.isEmpty && events.auxCommands.isEmpty && events.externalAttitudes.isEmpty

/-- No command is waiting. -/
def CommandEventQueues.isEmpty (events : CommandEventQueues F) : Bool :=
  events.calibrationRequests.isEmpty && events.offboardControlRequests.isEmpty &&
    events.paramDefaultsRequests.isEmpty && events.boardCommandRequests.isEmpty &&
    events.rcTrimCalibrationRequests.isEmpty && events.versionRequests.isEmpty &&
    events.resetOriginRequests.isEmpty && events.configInfoRequests.isEmpty

end Veloxity
