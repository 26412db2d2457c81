import Veloxity.Library.Run
import Veloxity.Params.Storage
import Veloxity.Sensors.Bus

/-! A board's calls that read and write the parameters on its card, and the task that does the
work. -/

namespace Veloxity

open Library

/-- A stored image with the request it belongs to and the success of its transfer. -/
structure ParamPacket where
  timestamp : UInt64
  status : UInt16
  values : StorageImage

/-- The time after which a call gives up, in microseconds. -/
def paramStorageTimeout : Nat := 2000000

section

variable {F : Type} [FloatBits F] [FlightFloat F]

/-- The image of some parameters, if they can be stored. -/
def encodeParams (version : UInt32) (params : Params F) : Option ParamPacket :=
  match encodeRosflightCParams version params (.filled 0) with
  | (true, values) => some { timestamp := 0, status := 0, values }
  | (false, _) => none

/-- The parameters of an image that was read successfully, if it holds any. -/
def decodeParams (version : UInt32) (packet : ParamPacket) : Option (Params F) :=
  if packet.status ≠ 1 then none else decodeRosflightCParams version packet.values

end

/-- What the card's task is doing. -/
inductive SdTask where
  | waiting
  | reading (requestId : UInt64)
  | writing (packet : ParamPacket)

variable (F : Type)

/-- What a call asks of the card. -/
inductive SdRequest where
  | read
  | write (params : Params F) (packet : ParamPacket)

/-- What a call does next. -/
inductive SdPhase where
  | resetting
  | signalling
  | starting
  | checking (start : Nat)
  | taking (start : Nat)

/-- A call of the board that has not returned. -/
structure SdCall where
  request : SdRequest F
  requestId : UInt64
  phase : SdPhase

/-- What a call returns: the parameters it read, or whether it wrote those it was given. -/
inductive SdReport where
  | read (params : Option (Params F))
  | write (params : Params F) (written : Bool)

/-- What has happened, in the order in which it did. -/
inductive SdRecord where
  /-- A request was handed to the task. -/
  | requested (requestId : UInt64) (request : SdRequest F)
  /-- A call took what the task had answered, and returned if it was for this call. -/
  | looked (requestId : UInt64) (report : Option (SdReport F))
  /-- A call returned because its time was up, so long after it began to wait. -/
  | expired (requestId : UInt64) (elapsed : Nat) (report : SdReport F)
  /-- A call returned because its parameters cannot be stored. -/
  | refused (params : Params F)
  /-- The write of a packet changed the card. -/
  | changed (packet : ParamPacket)
  /-- A read ended and was answered. -/
  | readDone (packet : ParamPacket)
  /-- A write ended and was answered. -/
  | writeDone (packet : ParamPacket)

/-- The three signals, the task, the call being made, the board's counter and clock, and what has
happened so far. -/
structure SdWorld where
  sdReadRequestSignal : Option UInt64
  sdWriteSignal : Option (Except SensorError ParamPacket)
  sdReadSignal : Option (Except SensorError ParamPacket)
  task : SdTask
  call : Option (SdCall F)
  sdRequestId : UInt64
  now : Nat
  log : List (SdRecord F)

/-- What can happen next. -/
inductive SdEvent where
  /-- The firmware reads the parameters. -/
  | readParams
  /-- The firmware writes parameters. -/
  | writeParams (params : Params F)
  /-- The call being made does its next atomic action. -/
  | proceed
  /-- The waiting task takes a request. -/
  | accept
  /-- The running write changes the card. -/
  | change
  /-- The running operation ends, a read with some bytes. -/
  | complete (ok : Bool) (values : StorageImage)
  /-- Time goes by. -/
  | tick (micros : Nat)

variable {F}

namespace SdEvent

/-- The firmware makes a call. -/
def isCall : SdEvent F → Bool
  | readParams | writeParams _ => true
  | proceed | accept | change | complete .. | tick _ => false

end SdEvent

namespace SdWorld

/-- The card's task has started and the board has made no call. -/
def new : SdWorld F where
  sdReadRequestSignal := none
  sdWriteSignal := none
  sdReadSignal := none
  task := .waiting
  call := none
  sdRequestId := 0
  now := 0
  log := []

/-- Something happens. -/
def record (world : SdWorld F) (entry : SdRecord F) : SdWorld F :=
  { world with log := world.log ++ [entry] }

/-- A call starts with the next request number. -/
def beginCall (world : SdWorld F) (request : UInt64 → SdRequest F) : SdWorld F :=
  let requestId := world.sdRequestId + 1
  { world with
    sdRequestId := requestId
    call := some { request := request requestId, requestId, phase := .resetting } }

section Calls

variable [FloatBits F] [FlightFloat F] (version : UInt32)

/-- The firmware reads the parameters. -/
def readParams (world : SdWorld F) : SdWorld F := world.beginCall fun _ => .read

/-- The firmware writes parameters, if they can be stored. -/
def writeParams (world : SdWorld F) (params : Params F) : SdWorld F :=
  match encodeParams version params with
  | none => world.record (.refused params)
  | some packet =>
    world.beginCall fun requestId => .write params { packet with timestamp := requestId }

/-- What a call returns once it has the answer to its request, or none in time. -/
def report (request : SdRequest F) (answer : Option ParamPacket) : SdReport F :=
  match request with
  | .read => .read (answer.bind (decodeParams version))
  | .write params _ =>
    .write params (match answer with
      | some packet => packet.status == 1
      | none => false)

/-- A call takes what the task has answered, and returns if it is for this call. -/
def waitForSdResponse (world : SdWorld F) (call : SdCall F) (start : Nat) : SdWorld F :=
  let taken := { world with sdReadSignal := none }
  let return' := fun answer =>
    { taken with call := none }.record
      (.looked call.requestId (some (report version call.request answer)))
  let again := { taken with call := some { call with phase := .checking start } }.record
    (.looked call.requestId none)
  match world.sdReadSignal with
  | some (.ok packet) => if packet.timestamp = call.requestId then return' (some packet) else again
  | some (.error _) => return' none
  | none => again

/-- A call does its next atomic action. -/
def proceed (world : SdWorld F) (call : SdCall F) : SdWorld F :=
  match call.phase with
  | .resetting =>
    { world with sdReadSignal := none, call := some { call with phase := .signalling } }
  | .signalling =>
    let world := { world with call := some { call with phase := .starting } }
    let world :=
      match call.request with
      | .read => { world with sdReadRequestSignal := some call.requestId }
      | .write _ packet => { world with sdWriteSignal := some (.ok packet) }
    world.record (.requested call.requestId call.request)
  | .starting => { world with call := some { call with phase := .checking world.now } }
  | .checking start =>
    let elapsed := world.now - start
    if elapsed < paramStorageTimeout then
      { world with call := some { call with phase := .taking start } }
    else
      { world with call := none }.record
        (.expired call.requestId elapsed (report version call.request none))
  | .taking start => world.waitForSdResponse version call start

end Calls

/-- The waiting task takes a request, one to read before one to write. -/
def accept (world : SdWorld F) : SdWorld F :=
  match world.sdReadRequestSignal with
  | some requestId => { world with sdReadRequestSignal := none, task := .reading requestId }
  | none =>
    match world.sdWriteSignal with
    | some (.ok packet) => { world with sdWriteSignal := none, task := .writing packet }
    | some (.error error) =>
      { world with sdWriteSignal := none, sdReadSignal := some (.error error) }
    | none => world

/-- The task answers, and waits for the next request. -/
def answer (world : SdWorld F) (packet : ParamPacket) : SdWorld F :=
  { world with sdReadSignal := some (.ok packet), task := .waiting }

section Steps

variable [FloatBits F] [FlightFloat F] (version : UInt32)

/-- One event acts on the board and the task; what cannot happen now does nothing. -/
def step (world : SdWorld F) : SdEvent F → SdWorld F
  | .readParams => if world.call.isSome then world else world.readParams
  | .writeParams params => if world.call.isSome then world else world.writeParams version params
  | .proceed =>
    match world.call with
    | some call => world.proceed version call
    | none => world
  | .accept =>
    match world.task with
    | .waiting => world.accept
    | .reading _ | .writing _ => world
  | .change =>
    match world.task with
    | .writing packet => world.record (.changed packet)
    | .waiting | .reading _ => world
  | .complete ok values =>
    let status : UInt16 := if ok then 1 else 0
    match world.task with
    | .reading requestId =>
      let packet := { timestamp := requestId, status, values }
      (world.answer packet).record (.readDone packet)
    | .writing packet =>
      let packet := { packet with status }
      (world.answer packet).record (.writeDone packet)
    | .waiting => world
  | .tick micros => { world with now := world.now + micros }

end Steps

end SdWorld

end Veloxity
