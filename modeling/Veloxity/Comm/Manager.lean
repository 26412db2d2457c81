import Veloxity.Comm.Telemetry
import Veloxity.Core.Events

/-! Acting on received messages, and sending what the stages answer. -/

namespace Veloxity

open Library (BoundedQueue)

/-- What the vehicle sends besides telemetry, under the system it speaks for. -/
inductive Reply (F : Type) where
  | response (sysid : Nat) (response : CommResponse F)
  | timesync (sysid : Nat) (msg : TimesyncMsg)

/-- The communication manager, with what it has put on the link. -/
structure CommManager (F : Type) where
  telemetry : TelemetrySender
  sysid : Nat
  msgs : Messages F
  replies : List (Reply F)

/-- When the two time-stamped messages of a pass are acted on. -/
structure CommClock where
  timesyncUs : Nat
  offboardUs : Nat

/-- Everything a pass over the received messages changes. -/
structure MessageDispatch (F : Type) where
  comm : CommManager F
  paramEvents : ParamEventQueues F
  commEvents : CommEventQueues F
  commandEvents : CommandEventQueues F
  companionEvents : CompanionEventQueues F

variable {F : Type}

namespace CommManager

/-- A manager that has received and sent nothing. -/
def new (nowUs : Nat) : CommManager F :=
  { telemetry := .new nowUs, sysid := 1, msgs := {}, replies := [] }

/-- Keep the messages the link has decoded. -/
def processIncomingMessages (comm : CommManager F) (incoming : List (IncomingMessage F)) :
    CommManager F :=
  { comm with msgs := incoming.foldl Messages.store comm.msgs }

/-- A received message waits to be acted on. -/
def hasPendingMessages (comm : CommManager F) : Bool := comm.msgs.hasPending

/-- A message is meant for this system. -/
def targetsThisSystem (comm : CommManager F) (targetSystem : Nat) : Bool :=
  targetSystem = comm.sysid

/-- Send one response, taking over a changed system identifier first. -/
def sendResponse (comm : CommManager F) (response : CommResponse F) : CommManager F :=
  let sysid :=
    match response with
    | .paramValue msg =>
      if msg.paramIndex = ParamId.toIndex .PARAM_SYSTEM_ID then
        match msg.paramValue with
        | .int newSysid => (newSysid % 256).toNat
        | _ => comm.sysid
      else comm.sysid
    | _ => comm.sysid
  { comm with sysid, replies := comm.replies ++ [.response sysid response] }

/-- Send the oldest responses, at most as many as allowed. -/
def sendCommResponsesLimited : Nat → CommManager F → CommEventQueues F →
    CommManager F × CommEventQueues F
  | 0, comm, events => (comm, events)
  | budget + 1, comm, events =>
    match events.responses.pop with
    | none => (comm, events)
    | some (response, rest) =>
      sendCommResponsesLimited budget (comm.sendResponse response) { responses := rest }

/-- Send every response. -/
def sendCommResponses (comm : CommManager F) (events : CommEventQueues F) :
    CommManager F × CommEventQueues F :=
  -- The queue's capacity is budget enough to empty it.
  sendCommResponsesLimited COMM_RESPONSE_QUEUE_CAPACITY comm events

end CommManager

/-- Admit requests into a queue while it has room, dropping those for other systems. -/
def admitParamSets (sysid : Nat) {capacity : Nat} :
    List (ParamSetMsg F) → BoundedQueue capacity (ParamSetRequested F) →
      List (ParamSetMsg F) × BoundedQueue capacity (ParamSetRequested F)
  | [], queue => ([], queue)
  | msg :: rest, queue =>
    if queue.isFull then (msg :: rest, queue)
    else
      admitParamSets sysid rest
        (if msg.targetSystem = sysid then
          (queue.push { value := msg.paramValue, paramIdBytes := msg.paramId }).1
        else queue)

/-- Admission never adds to the waiting messages. -/
theorem admitParamSets_length_le (sysid : Nat) {capacity : Nat} (pending : List (ParamSetMsg F))
    (queue : BoundedQueue capacity (ParamSetRequested F)) :
    (admitParamSets sysid pending queue).1.length ≤ pending.length := by
  -- Each message is either kept with all its successors or taken out.
  induction pending generalizing queue with
  | nil => exact Nat.le_refl 0
  | cons msg rest ih =>
    simp only [admitParamSets]
    split
    · exact Nat.le_refl _
    · exact Nat.le_succ_of_le (ih _)

/-- Queue a command for the stage that serves it, reporting whether there was room. -/
def CommandEventQueues.route (events : CommandEventQueues F) (command : RosflightCmd) :
    CommandEventQueues F × Bool :=
  match command with
  | .rcCalibration =>
    let pushed := events.rcTrimCalibrationRequests.push command
    ({ events with rcTrimCalibrationRequests := pushed.1 }, pushed.2)
  | .accelCalibration | .gyroCalibration | .baroCalibration | .airspeedCalibration =>
    let pushed := events.calibrationRequests.push command
    ({ events with calibrationRequests := pushed.1 }, pushed.2)
  | .readParams | .writeParams | .reboot | .rebootToBootloader =>
    let pushed := events.boardCommandRequests.push command
    ({ events with boardCommandRequests := pushed.1 }, pushed.2)
  | .setParamDefaults =>
    let pushed := events.paramDefaultsRequests.push command
    ({ events with paramDefaultsRequests := pushed.1 }, pushed.2)
  | .sendVersion =>
    let pushed := events.versionRequests.push command
    ({ events with versionRequests := pushed.1 }, pushed.2)
  | .resetOrigin =>
    let pushed := events.resetOriginRequests.push command
    ({ events with resetOriginRequests := pushed.1 }, pushed.2)
  | .sendAllConfigInfos =>
    let pushed := events.configInfoRequests.push command
    ({ events with configInfoRequests := pushed.1 }, pushed.2)

namespace MessageDispatch

/-- Pass a heartbeat on. -/
def heartbeat (dispatch : MessageDispatch F) : MessageDispatch F :=
  match dispatch.comm.msgs.heartbeat with
  | none => dispatch
  | some msg =>
    { dispatch with
      comm := { dispatch.comm with msgs := { dispatch.comm.msgs with heartbeat := none } }
      companionEvents := { dispatch.companionEvents with
        heartbeats := (dispatch.companionEvents.heartbeats.push msg).1 } }

/-- Pass on the read requests meant for this system. -/
def paramRequestRead (dispatch : MessageDispatch F) : MessageDispatch F :=
  let msgs := dispatch.comm.msgs
  let drained := msgs.paramRequestRead.drain
    (fun requests msg =>
      if dispatch.comm.targetsThisSystem msg.targetSystem then
        (requests.push msg.paramIdentifier).1
      else requests)
    dispatch.paramEvents.readRequests
  { dispatch with
    comm := { dispatch.comm with msgs := { msgs with paramRequestRead := drained.2 } }
    paramEvents := { dispatch.paramEvents with readRequests := drained.1 } }

/-- Pass on a list request meant for this system. -/
def paramRequestList (dispatch : MessageDispatch F) : MessageDispatch F :=
  match dispatch.comm.msgs.paramRequestList with
  | none => dispatch
  | some msg =>
    let events := dispatch.paramEvents
    { dispatch with
      comm := { dispatch.comm with msgs := { dispatch.comm.msgs with paramRequestList := none } }
      paramEvents :=
        if dispatch.comm.targetsThisSystem msg.targetSystem then
          { events with listRequests := (events.listRequests.push ()).1 }
        else events }

/-- Answer a clock request, and ignore a clock reply. -/
def timesync (dispatch : MessageDispatch F) (nowUs : Nat) : MessageDispatch F :=
  match dispatch.comm.msgs.timesync with
  | none => dispatch
  | some msg =>
    let comm := { dispatch.comm with msgs := { dispatch.comm.msgs with timesync := none } }
    if msg.tc1 = 0 then
      { dispatch with
        comm := { comm with replies :=
          comm.replies ++ [.timesync comm.sysid { msg with tc1 := asI64 (nowUs * 1000) }] } }
    else { dispatch with comm }

/-- Pass an offboard command on with the time it was seen. -/
def offboardControl (dispatch : MessageDispatch F) (nowUs : Nat) : MessageDispatch F :=
  match dispatch.comm.msgs.offboardControl with
  | none => dispatch
  | some msg =>
    { dispatch with
      comm := { dispatch.comm with msgs := { dispatch.comm.msgs with offboardControl := none } }
      commandEvents := { dispatch.commandEvents with
        offboardControlRequests :=
          (dispatch.commandEvents.offboardControlRequests.push { nowUs, msg }).1 } }

/-- Pass an auxiliary command on. -/
def auxCmd (dispatch : MessageDispatch F) : MessageDispatch F :=
  match dispatch.comm.msgs.auxCmd with
  | none => dispatch
  | some msg =>
    { dispatch with
      comm := { dispatch.comm with msgs := { dispatch.comm.msgs with auxCmd := none } }
      companionEvents := { dispatch.companionEvents with
        auxCommands := (dispatch.companionEvents.auxCommands.push msg).1 } }

/-- Pass an external attitude on. -/
def externalAttitude (dispatch : MessageDispatch F) : MessageDispatch F :=
  match dispatch.comm.msgs.externalAttitude with
  | none => dispatch
  | some msg =>
    { dispatch with
      comm := { dispatch.comm with msgs := { dispatch.comm.msgs with externalAttitude := none } }
      companionEvents := { dispatch.companionEvents with
        externalAttitudes := (dispatch.companionEvents.externalAttitudes.push msg).1 } }

/-- Pass on as many set requests as there is room for. -/
def paramSet (dispatch : MessageDispatch F) : MessageDispatch F :=
  let msgs := dispatch.comm.msgs
  let admitted := admitParamSets dispatch.comm.sysid msgs.paramSet.items
    dispatch.paramEvents.setRequests
  { dispatch with
    comm := { dispatch.comm with msgs := { msgs with
      paramSet := ⟨admitted.1, (admitParamSets_length_le _ _ _).trans msgs.paramSet.bounded⟩ } }
    paramEvents := { dispatch.paramEvents with setRequests := admitted.2 } }

/-- Pass a command on, or refuse it at once when its queue is full. -/
def cmd (dispatch : MessageDispatch F) : MessageDispatch F :=
  match dispatch.comm.msgs.cmd with
  | none => dispatch
  | some command =>
    let routed := dispatch.commandEvents.route command
    { dispatch with
      comm := { dispatch.comm with msgs := { dispatch.comm.msgs with cmd := none } }
      commandEvents := routed.1
      commEvents :=
        if routed.2 then dispatch.commEvents
        else dispatch.commEvents.respond
          (.cmdAck { command, success := .rosflightCmdFailed }) }

/-- Act on every received message. -/
def actOnMessages (dispatch : MessageDispatch F) (clock : CommClock) : MessageDispatch F :=
  ((((((dispatch.heartbeat.paramRequestRead.paramRequestList.timesync
    clock.timesyncUs).offboardControl clock.offboardUs).auxCmd).externalAttitude).paramSet).cmd)

end MessageDispatch

end Veloxity
