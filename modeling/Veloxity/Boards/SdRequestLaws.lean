import Veloxity.Boards.SdRequests
import Veloxity.Library.History

/-! What the board's calls to the card may rely on, however the card's task interleaves with
them. -/

namespace Veloxity

open Library

variable {F : Type}

namespace SdRecord

/-- The answer the task gave. -/
def published : SdRecord F → Option ParamPacket
  | readDone packet | writeDone packet => some packet
  | requested .. | looked .. | expired .. | refused _ | changed _ => none

/-- A call for some request returned. -/
def Returns (entry : SdRecord F) (requestId : UInt64) (report : SdReport F) : Prop :=
  entry = .looked requestId (some report) ∨ ∃ elapsed, entry = .expired requestId elapsed report

/-- An operation for some request ended and was answered. -/
def Answers (entry : SdRecord F) (requestId : UInt64) (packet : ParamPacket) : Prop :=
  entry.published = some packet ∧ packet.timestamp = requestId

/-- An entry that hands no request to the task and answers none. -/
def Quiet (entry : SdRecord F) : Prop :=
  entry.published = none ∧ ∀ id request, entry ≠ .requested id request

/-- An entry that answers is not quiet. -/
theorem not_quiet_of_published {entry : SdRecord F} {packet : ParamPacket}
    (answers : entry.published = some packet) : ¬ entry.Quiet := by
  intro quiet
  rw [quiet.1] at answers
  exact nomatch answers

/-- What returned was there before something was added that does not return. -/
theorem Returns.old {log : List (SdRecord F)} {new entry : SdRecord F} {requestId : UInt64}
    {report : SdReport F} (returns : entry.Returns requestId report)
    (silent : ∀ id report, ¬ new.Returns id report) (member : entry ∈ log ++ [new]) :
    entry ∈ log := by
  -- The entry is an old one, or the added one, which does not return.
  rcases List.mem_append.mp member with old | added
  · exact old
  · rw [List.mem_singleton.mp added] at returns
    exact absurd returns (silent requestId report)

end SdRecord

section Promises

variable [FloatBits F] [FlightFloat F] (version : UInt32)

/-- The image is that of the parameters. -/
def ImageOf (params : Params F) (values : StorageImage) : Prop :=
  (encodeParams version params).map ParamPacket.values = some values

/-- A call returns parameters only if they were read successfully for it. -/
def ReadsOwn (past : List (SdRecord F)) (entry : SdRecord F) : Prop :=
  ∀ requestId params, entry.Returns requestId (.read (some params)) →
    ∃ packet, .readDone packet ∈ past ∧ packet.timestamp = requestId ∧ packet.status = 1 ∧
      decodeParams version packet = some params

/-- A call returns that its parameters are written only if their image was for it. -/
def WritesOwn (past : List (SdRecord F)) (entry : SdRecord F) : Prop :=
  ∀ requestId params, entry.Returns requestId (.write params true) →
    ∃ packet, .writeDone packet ∈ past ∧ packet.timestamp = requestId ∧ packet.status = 1 ∧
      ImageOf version params packet.values

/-- A call whose operation was answered before reports the answer when it looks for it, unless
the call reads and the task has answered in between a write of an earlier call. -/
def ReportsAnswer (past : List (SdRecord F)) (entry : SdRecord F) : Prop :=
  ∀ requestId report, entry = .looked requestId report →
    ∀ before done between packet, past = before ++ done :: between →
      done.Answers requestId packet →
      ∃ request, .requested requestId request ∈ before ∧
        (report = some (SdWorld.report version request (some packet)) ∨
          request = .read ∧
            ∃ stale, .writeDone stale ∈ between ∧ stale.timestamp < requestId)

/-- A write that changes the card after its call returned that it failed had not been answered
when it did, and writes that call's image. -/
def ChangesAsAsked (past : List (SdRecord F)) (entry : SdRecord F) : Prop :=
  ∀ packet, entry = .changed packet →
    ∀ before returned between params, past = before ++ returned :: between →
      returned.Returns packet.timestamp (.write params false) →
      (∀ done ∈ before, ∀ answer, ¬ done.Answers packet.timestamp answer) ∧
        ImageOf version params packet.values

/-- A call that gives up has waited for all its time. -/
def WaitsItsTime (_past : List (SdRecord F)) (entry : SdRecord F) : Prop :=
  ∀ requestId elapsed report, entry = .expired requestId elapsed report →
    paramStorageTimeout ≤ elapsed

/-- What a history shows of the calls' promises. -/
structure SdPromises (log : List (SdRecord F)) : Prop where
  readsOwn : EveryEntry (ReadsOwn version) log
  writesOwn : EveryEntry (WritesOwn version) log
  reportsAnswer : EveryEntry (ReportsAnswer version) log
  changesAsAsked : EveryEntry (ChangesAsAsked version) log
  waitsItsTime : EveryEntry WaitsItsTime log

end Promises

/-- The call has not handed its request to the task yet. -/
def SdCall.Unsent (call : SdCall F) : Prop :=
  call.phase = .resetting ∨ call.phase = .signalling

namespace SdWorld

variable {world : SdWorld F}

/-- A request is waiting for the task. -/
def Pending (world : SdWorld F) (requestId : UInt64) : Prop :=
  world.sdReadRequestSignal = some requestId ∨
    ∃ packet, world.sdWriteSignal = some (.ok packet) ∧ packet.timestamp = requestId

/-- A request is being worked on. -/
def Running (world : SdWorld F) (requestId : UInt64) : Prop :=
  world.task = .reading requestId ∨
    ∃ packet, world.task = .writing packet ∧ packet.timestamp = requestId

/-- A request was answered. -/
def Answered (world : SdWorld F) (requestId : UInt64) : Prop :=
  ∃ entry ∈ world.log, ∃ packet, entry.Answers requestId packet

/-- A request was handed to the task. -/
def Requested (world : SdWorld F) (requestId : UInt64) (request : SdRequest F) : Prop :=
  .requested requestId request ∈ world.log

/-- The same requests have been made and answered, and quiet entries may have been added. -/
structure SameRequests (world other : SdWorld F) : Prop where
  readSignal : other.sdReadRequestSignal = world.sdReadRequestSignal
  writeSignal : other.sdWriteSignal = world.sdWriteSignal
  task : other.task = world.task
  log : other.log = world.log ∨ ∃ entry, other.log = world.log ++ [entry] ∧ entry.Quiet

namespace SameRequests

variable {other : SdWorld F} (same : SameRequests world other)
include same

/-- Entries that are not quiet are old. -/
theorem mem_log {entry : SdRecord F} (loud : ¬ entry.Quiet) :
    entry ∈ other.log ↔ entry ∈ world.log := by
  -- Whatever was added is quiet.
  rcases same.log with log | ⟨added, log, quiet⟩
  · rw [log]
  · rw [log, List.mem_append, or_iff_left_iff_imp]
    intro member
    rw [List.mem_singleton.mp member] at loud
    exact absurd quiet loud

/-- No request was added. -/
theorem requested {id : UInt64} {request : SdRequest F} :
    other.Requested id request ↔ world.Requested id request :=
  same.mem_log fun quiet => quiet.2 id request rfl

/-- No answer was added. -/
theorem answered {id : UInt64} : other.Answered id ↔ world.Answered id := by
  -- An entry that answers is not quiet.
  constructor
  · rintro ⟨entry, member, packet, answers⟩
    exact ⟨entry, (same.mem_log (SdRecord.not_quiet_of_published answers.1)).mp member, packet,
      answers⟩
  · rintro ⟨entry, member, packet, answers⟩
    exact ⟨entry, (same.mem_log (SdRecord.not_quiet_of_published answers.1)).mpr member, packet,
      answers⟩

/-- The same requests are being worked on. -/
theorem running {id : UInt64} : other.Running id ↔ world.Running id := by
  rw [Running, Running, same.task]

/-- The same requests are waiting. -/
theorem pending {id : UInt64} : other.Pending id ↔ world.Pending id := by
  rw [Pending, Pending, same.readSignal, same.writeSignal]

end SameRequests

variable [FloatBits F] [FlightFloat F]

/-- Every request that is pending, running or answered was made once, and none is in two of these
states. -/
structure Requests (version : UInt32) (world : SdWorld F) : Prop where
  unique : ∀ {id request other}, world.Requested id request → world.Requested id other →
    request = other
  issued : ∀ {id request}, world.Requested id request → id ≤ world.sdRequestId
  encoded : ∀ {id params packet}, world.Requested id (.write params packet) →
    packet.timestamp = id ∧ ImageOf version params packet.values
  readPending : ∀ {id}, world.sdReadRequestSignal = some id → world.Requested id .read
  writePending : ∀ {answer}, world.sdWriteSignal = some answer →
    ∃ params packet, answer = .ok packet ∧ world.Requested packet.timestamp (.write params packet)
  reading : ∀ {id}, world.task = .reading id → world.Requested id .read
  writing : ∀ {packet}, world.task = .writing packet →
    ∃ params, world.Requested packet.timestamp (.write params packet)
  readDone : ∀ {packet}, .readDone packet ∈ world.log → world.Requested packet.timestamp .read
  writeDone : ∀ {packet}, .writeDone packet ∈ world.log →
    ∃ params written, world.Requested packet.timestamp (.write params written) ∧
      written.values = packet.values
  pendingOnce : ∀ {id}, world.Pending id → ¬ world.Running id ∧ ¬ world.Answered id
  runningOnce : ∀ {id}, world.Running id → ¬ world.Answered id

/-- How far the request of a call has come, once it was handed to the task. -/
structure Progress (world : SdWorld F) (call : SdCall F) : Prop where
  requested : world.Requested call.requestId call.request
  readOnce : world.Running call.requestId ∨ world.Answered call.requestId →
    world.sdReadRequestSignal = none
  writeOnce : (∃ params packet, call.request = .write params packet) →
    world.Running call.requestId ∨ world.Answered call.requestId → world.sdWriteSignal = none
  answered : world.Answered call.requestId →
    (∀ id, world.task ≠ .reading id) ∧
      ((∃ params packet, call.request = .write params packet) → world.task = .waiting)
  current : ∀ {before done between packet}, world.log = before ++ done :: between →
    done.Answers call.requestId packet →
    .requested call.requestId call.request ∈ before ∧
      (world.sdReadSignal = some (.ok packet) ∨
        call.request = .read ∧
          ∃ stale, .writeDone stale ∈ between ∧ stale.timestamp < call.requestId)

/-- The call being made is the newest, and its request is new until it is handed to the task. -/
structure Calling (version : UInt32) (world : SdWorld F) (call : SdCall F) : Prop where
  newest : call.requestId = world.sdRequestId
  asked : ∀ {params packet}, call.request = .write params packet →
    packet.timestamp = call.requestId ∧ ImageOf version params packet.values
  unsent : call.Unsent → ∀ {request}, ¬ world.Requested call.requestId request
  sent : ¬ call.Unsent → world.Progress call

/-- What holds of the board, the task and what has happened, at any time. -/
structure Coherent (version : UInt32) (world : SdWorld F) : Prop where
  requests : world.Requests version
  answers : ∀ {answer}, world.sdReadSignal = some answer →
    ∃ packet entry, answer = .ok packet ∧ entry ∈ world.log ∧ entry.published = some packet
  calling : ∀ {call}, world.call = some call → world.Calling version call
  returned : ∀ {entry id report}, entry ∈ world.log → entry.Returns id report →
    ∃ request answer, world.Requested id request ∧ report = SdWorld.report version request answer
  promises : SdPromises version world.log

namespace SameRequests

variable {other : SdWorld F} (same : SameRequests world other)
include same

/-- The requests are in order if they were. -/
theorem requests {version : UInt32} (requests : world.Requests version)
    (counted : world.sdRequestId ≤ other.sdRequestId) : other.Requests version where
  -- The same requests are made, so an order among them carries over.
  unique made again := requests.unique (same.requested.mp made) (same.requested.mp again)
  issued made := UInt64.le_trans (requests.issued (same.requested.mp made)) counted
  encoded made := requests.encoded (same.requested.mp made)
  readPending pending := by
    rw [same.readSignal] at pending
    exact same.requested.mpr (requests.readPending pending)
  writePending pending := by
    rw [same.writeSignal] at pending
    obtain ⟨params, packet, stored, made⟩ := requests.writePending pending
    exact ⟨params, packet, stored, same.requested.mpr made⟩
  reading running := by
    rw [same.task] at running
    exact same.requested.mpr (requests.reading running)
  writing running := by
    rw [same.task] at running
    obtain ⟨params, made⟩ := requests.writing running
    exact ⟨params, same.requested.mpr made⟩
  -- Entries added since then publish nothing, so what was published is in the old log.
  readDone done := by
    rw [same.mem_log (SdRecord.not_quiet_of_published rfl)] at done
    exact same.requested.mpr (requests.readDone done)
  writeDone done := by
    rw [same.mem_log (SdRecord.not_quiet_of_published rfl)] at done
    obtain ⟨params, written, made, image⟩ := requests.writeDone done
    exact ⟨params, written, same.requested.mpr made, image⟩
  -- The same requests wait, run and are answered.
  pendingOnce pending := by
    rw [same.running, same.answered]
    exact requests.pendingOnce (same.pending.mp pending)
  runningOnce running := by
    rw [same.answered]
    exact requests.runningOnce (same.running.mp running)

omit [FloatBits F] [FlightFloat F] in
/-- A request has come as far as it had, if its answer still waits for the call. -/
theorem progress {call next : SdCall F} (progress : world.Progress call)
    (id : next.requestId = call.requestId) (request : next.request = call.request)
    (kept : ∀ packet, world.sdReadSignal = some (.ok packet) →
      packet.timestamp = call.requestId → other.sdReadSignal = some (.ok packet)) :
    other.Progress next where
  requested := by
    rw [same.requested, id, request]
    exact progress.requested
  readOnce := by
    rw [same.running, same.answered, same.readSignal, id]
    exact progress.readOnce
  writeOnce := by
    rw [same.running, same.answered, same.writeSignal, id, request]
    exact progress.writeOnce
  answered := by
    rw [same.answered, same.task, id, request]
    exact progress.answered
  -- An answer in the longer log was in the old one already, since the entry added is quiet.
  current := by
    rw [id, request]
    intro before done between packet split answers
    rcases same.log with log | ⟨added, log, quiet⟩
    · rw [log] at split
      obtain ⟨made, waits | stale⟩ := progress.current split answers
      · exact ⟨made, .inl (kept packet waits answers.2)⟩
      · exact ⟨made, .inr stale⟩
    · rw [log] at split
      rcases split_concat.mp split with ⟨-, rfl, -⟩ | ⟨rest, rfl, earlier⟩
      · exact absurd quiet (SdRecord.not_quiet_of_published answers.1)
      · obtain ⟨made, waits | ⟨reads, stale, member, older⟩⟩ := progress.current earlier answers
        · exact ⟨made, .inl (kept packet waits answers.2)⟩
        · exact ⟨made, .inr ⟨reads, stale, List.mem_append_left _ member, older⟩⟩

end SameRequests

/-- A call stays what it is while its phase stays before or after the handing over. -/
theorem Calling.of_same {version : UInt32} {call next : SdCall F} {other : SdWorld F}
    (calling : world.Calling version call) (same : world.SameRequests other)
    (counted : other.sdRequestId = world.sdRequestId) (id : next.requestId = call.requestId)
    (request : next.request = call.request) (phase : next.Unsent ↔ call.Unsent)
    (kept : ∀ packet, world.sdReadSignal = some (.ok packet) →
      packet.timestamp = call.requestId → other.sdReadSignal = some (.ok packet)) :
    other.Calling version next where
  -- The number and the request are kept, so each part is the one that held before.
  newest := by
    rw [id, counted]
    exact calling.newest
  asked := by
    rw [id, request]
    exact calling.asked
  unsent unsent := by
    rw [id]
    intro request made
    exact calling.unsent (phase.mp unsent) (same.requested.mp made)
  sent sent := same.progress (calling.sent fun unsent => sent (phase.mpr unsent)) id request kept

/-- The board and the task stay coherent if the calls do. -/
theorem Coherent.of_same {version : UInt32} {other : SdWorld F}
    (coherent : world.Coherent version) (same : world.SameRequests other)
    (counted : world.sdRequestId ≤ other.sdRequestId)
    (signal : ∀ answer, other.sdReadSignal = some answer → world.sdReadSignal = some answer)
    (calling : ∀ {call}, other.call = some call → other.Calling version call)
    (returned : ∀ {entry id report}, entry ∈ other.log → entry.Returns id report →
      entry ∈ world.log ∨ ∃ request answer, world.Requested id request ∧
        report = SdWorld.report version request answer)
    (promises : SdPromises version other.log) : other.Coherent version where
  requests := same.requests coherent.requests counted
  -- An answer that waits waited before, and what published it is still in the log.
  answers waits := by
    obtain ⟨packet, entry, answered, member, published⟩ := coherent.answers (signal _ waits)
    have loud := SdRecord.not_quiet_of_published published
    exact ⟨packet, entry, answered, (same.mem_log loud).mpr member, published⟩
  calling := calling
  returned member returns := by
    obtain ⟨request, answer, made, reported⟩ :=
      (returned member returns).elim (coherent.returned · returns) id
    exact ⟨request, answer, same.requested.mpr made, reported⟩
  promises := promises

/-- A request that is pending, running or answered was handed to the task. -/
theorem Requests.requested {version : UInt32} (requests : world.Requests version) {id : UInt64}
    (known : world.Pending id ∨ world.Running id ∨ world.Answered id) :
    ∃ request, world.Requested id request := by
  -- Each of the six ways to know a request names the record that made it.
  rcases known with (pending | ⟨packet, pending, rfl⟩) | (running | ⟨packet, running, rfl⟩) |
    ⟨entry, member, packet, published, rfl⟩
  · exact ⟨_, requests.readPending pending⟩
  · obtain ⟨params, packet', stored, made⟩ := requests.writePending pending
    cases stored
    exact ⟨_, made⟩
  · exact ⟨_, requests.reading running⟩
  · obtain ⟨params, made⟩ := requests.writing running
    exact ⟨_, made⟩
  · cases entry with
    | readDone packet' =>
      cases published
      exact ⟨_, requests.readDone member⟩
    | writeDone packet' =>
      cases published
      obtain ⟨params, written, made, _⟩ := requests.writeDone member
      exact ⟨_, made⟩
    | requested | looked | expired | refused | changed => exact nomatch published

end SdWorld

/-- A history keeps the promises if the new entry does. -/
theorem SdPromises.concat [FloatBits F] [FlightFloat F] {version : UInt32}
    {log : List (SdRecord F)} {entry : SdRecord F} (promises : SdPromises version log)
    (reads : ReadsOwn version log entry) (writes : WritesOwn version log entry)
    (reports : ReportsAnswer version log entry) (changes : ChangesAsAsked version log entry)
    (waits : WaitsItsTime log entry) : SdPromises version (log ++ [entry]) :=
  -- Each promise is about every entry and those before it.
  ⟨everyEntry_concat.mpr ⟨promises.readsOwn, reads⟩,
    everyEntry_concat.mpr ⟨promises.writesOwn, writes⟩,
    everyEntry_concat.mpr ⟨promises.reportsAnswer, reports⟩,
    everyEntry_concat.mpr ⟨promises.changesAsAsked, changes⟩,
    everyEntry_concat.mpr ⟨promises.waitsItsTime, waits⟩⟩

/-- An entry that is no report, no look for an answer and no change breaks no promise. -/
theorem SdPromises.concat_plain [FloatBits F] [FlightFloat F] {version : UInt32}
    {log : List (SdRecord F)} {entry : SdRecord F} (promises : SdPromises version log)
    (returns : ∀ id report, ¬ entry.Returns id report)
    (looks : ∀ id report, entry ≠ .looked id report)
    (changes : ∀ packet, entry ≠ .changed packet) : SdPromises version (log ++ [entry]) :=
  -- Each promise is about entries of a kind that this one is not.
  promises.concat (fun id _ returned => absurd returned (returns id _))
    (fun id _ returned => absurd returned (returns id _))
    (fun id report looked => absurd looked (looks id report))
    (fun packet changed => absurd changed (changes packet))
    (fun id elapsed report expired => absurd (.inr ⟨elapsed, expired⟩) (returns id report))

end Veloxity
