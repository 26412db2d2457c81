import Veloxity.Boards.SdCallLaws
import Veloxity.Boards.SdTaskLaws
import Veloxity.Params.StorageRoundTrip

/-! The promises of the calls to the card hold in every run, and no stronger ones do. -/

namespace Veloxity

open Library

variable {F : Type}

namespace SdWorld

variable {world : SdWorld F} [FloatBits F] [FlightFloat F] {version : UInt32}

/-- The counter does not wrap at a call. -/
def Fresh (world : SdWorld F) (event : SdEvent F) : Prop :=
  event.isCall = true → world.sdRequestId < world.sdRequestId + 1

/-- Whatever happens keeps the board and the task coherent, while the counter does not wrap. -/
theorem Coherent.step (coherent : world.Coherent version) {event : SdEvent F}
    (fresh : world.Fresh event) : (world.step version event).Coherent version := by
  -- Every action has a lemma of its own, and what cannot happen changes nothing.
  cases event with
  | readParams =>
    rw [SdWorld.step]
    split
    · exact coherent
    · exact coherent.beginCall (fresh rfl) (fun asked => nomatch asked)
  | writeParams params =>
    rw [SdWorld.step]
    split
    · exact coherent
    · -- A call is begun only where none is being made.
      rename_i idle
      exact coherent.writeParams (fresh rfl) params (Option.not_isSome_iff_eq_none.mp idle)
  | proceed =>
    rw [SdWorld.step]
    cases calls : world.call with
    | some call => exact coherent.proceed calls
    | none => exact coherent
  | accept =>
    rw [SdWorld.step]
    split
    · exact coherent.accept
    · exact coherent
    · exact coherent
  | change =>
    rw [SdWorld.step]
    cases task : world.task with
    | writing packet => exact coherent.change task
    | waiting | reading _ => exact coherent
  | complete ok values =>
    rw [SdWorld.step]
    cases task : world.task with
    | reading requestId => exact coherent.complete (.inl ⟨task, rfl⟩)
    | writing packet => exact coherent.complete (.inr ⟨packet, task, rfl, rfl, rfl⟩)
    | waiting => exact coherent
  | tick micros => exact coherent.tick micros

/-- A board that has made no call is coherent with the task. -/
theorem coherent_new : (new : SdWorld F).Coherent version where
  -- There is no request, no answer, no call and no entry yet.
  requests := by
    constructor <;> intros <;> simp_all [new, Requested, Pending, Running]
  answers waits := nomatch waits
  calling calls := nomatch calls
  returned member := absurd member List.not_mem_nil
  promises :=
    ⟨everyEntry_nil _, everyEntry_nil _, everyEntry_nil _, everyEntry_nil _, everyEntry_nil _⟩

/-- A call that has started does not count. -/
theorem proceed_sdRequestId (world : SdWorld F) (call : SdCall F) :
    (world.proceed version call).sdRequestId = world.sdRequestId := by
  -- Every action leaves the counter alone.
  unfold SdWorld.proceed SdWorld.waitForSdResponse
  split
  · rfl
  · dsimp only
    split <;> rfl
  · rfl
  · dsimp only
    split <;> rfl
  · dsimp only
    split
    · split <;> rfl
    · rfl
    · rfl

omit [FloatBits F] [FlightFloat F] in
/-- Taking a request does not count. -/
theorem accept_sdRequestId (world : SdWorld F) : world.accept.sdRequestId = world.sdRequestId := by
  -- The task only moves requests.
  unfold SdWorld.accept
  split
  · rfl
  · split <;> rfl

/-- Only calls count up, one at a time. -/
theorem step_sdRequestId (world : SdWorld F) (event : SdEvent F) :
    (world.step version event).sdRequestId = world.sdRequestId ∨
      event.isCall = true ∧ (world.step version event).sdRequestId = world.sdRequestId + 1 := by
  -- Only starting a call touches the counter.
  cases event with
  | readParams =>
    rw [SdWorld.step]
    split
    · exact .inl rfl
    · exact .inr ⟨rfl, rfl⟩
  | writeParams params =>
    rw [SdWorld.step, SdWorld.writeParams]
    split
    · exact .inl rfl
    · split
      · exact .inl rfl
      · exact .inr ⟨rfl, rfl⟩
  -- The actions of a call and of the task leave the counter alone.
  | proceed =>
    rw [SdWorld.step]
    split
    · exact .inl (proceed_sdRequestId _ _)
    · exact .inl rfl
  | accept =>
    rw [SdWorld.step]
    split
    · exact .inl (accept_sdRequestId _)
    · exact .inl rfl
    · exact .inl rfl
  | change =>
    rw [SdWorld.step]
    split <;> exact .inl rfl
  | complete ok values =>
    rw [SdWorld.step]
    dsimp only
    split <;> exact .inl rfl
  | tick micros => exact .inl rfl

/-- Fewer calls than the counter can tell apart do not wrap it. -/
theorem fresh_along (events : List (SdEvent F)) (world : SdWorld F)
    (few : world.sdRequestId.toNat + events.countP SdEvent.isCall < UInt64.size) :
    Along Fresh (SdWorld.step version) world events := by
  -- Each call takes one of the remaining numbers.
  induction events generalizing world with
  | nil => trivial
  | cons event rest ih =>
    rw [List.countP_cons] at few
    have next (free : world.sdRequestId.toNat + 1 < UInt64.size) :
        (world.sdRequestId + 1).toNat = world.sdRequestId.toNat + 1 := by
      rw [UInt64.toNat_add]
      exact Nat.mod_eq_of_lt free
    refine ⟨fun call => ?_, ih _ ?_⟩
    · rw [if_pos call] at few
      rw [UInt64.lt_iff_toNat_lt, next (by omega)]
      omega
    · rcases step_sdRequestId world event with same | ⟨call, counted⟩
      · rw [same]
        omega
      · rw [if_pos call] at few
        rw [counted, next (by omega)]
        omega

/-- The calls keep their promises in every run with fewer calls than the counter can tell apart,
however the card's task interleaves with them. -/
theorem keepsPromises_after (version : UInt32) {events : List (SdEvent F)}
    (few : events.countP SdEvent.isCall < UInt64.size) :
    SdPromises version (run (step version) new events).log := by
  -- No call reuses the number of another one, so each step keeps everything coherent.
  have fresh : Along Fresh (step version) new events := by
    apply fresh_along
    rwa [show (new : SdWorld F).sdRequestId.toNat = 0 from rfl, Nat.zero_add]
  have coherent : (run (step version) new events).Coherent version :=
    run_invariant_along (fun _ _ coherent fresh => coherent.step fresh) coherent_new fresh
  exact coherent.promises

/-- A write of some parameters that is answered, and then a read that finds some bytes. -/
def writeThenRead (params : Params F) (values : StorageImage) : List (SdEvent F) :=
  [.writeParams params, .proceed, .proceed, .accept, .change, .proceed, .complete true values,
    .proceed, .proceed, .readParams, .proceed, .proceed, .proceed, .accept, .complete true values,
    .proceed, .proceed]

/-- The write reports that it was made, and the read what the bytes say. -/
theorem writeThenRead_log {params : Params F} {packet : ParamPacket}
    (encoded : encodeParams version params = some packet) :
    (run (step version) new (writeThenRead params packet.values)).log =
      [.requested 1 (.write params { packet with timestamp := 1 }),
        .changed { packet with timestamp := 1 },
        .writeDone { packet with timestamp := 1, status := 1 },
        .looked 1 (some (.write params true)), .requested 2 .read,
        .readDone { timestamp := 2, status := 1, values := packet.values },
        .looked 2 (some (.read (decodeRosflightCParams version packet.values)))] := by
  -- Every action of the two calls and of the task happens at once.
  simp [writeThenRead, step, writeParams, encoded, beginCall, new, SdWorld.proceed, record,
    SdWorld.accept, report, readParams, answer, waitForSdResponse, paramStorageTimeout,
    decodeParams]

omit [FloatBits F] [FlightFloat F] in
/-- Two calls are made. -/
theorem countP_writeThenRead (params : Params F) (values : StorageImage) :
    (writeThenRead params values).countP SdEvent.isCall = 2 := rfl

/-- The default parameters are written, and a read of the image returns what was stored. -/
theorem writeThenRead_promises :
    ∃ (image : StorageImage) (decoded : Params Binary32),
      let log := (run (step 0) new (writeThenRead Params.new image)).log
      .looked 1 (some (.write Params.new true)) ∈ log ∧
        .looked 2 (some (.read (some decoded))) ∈ log ∧
        (∀ id, isRosflightCParam id = true →
          (decoded.getById id).SameBits ((Params.new : Params Binary32).getById id)) ∧
        SdPromises 0 log := by
  -- The image is the one the parameters are stored in.
  obtain ⟨image, decoded, written, read, kept, -⟩ :=
    (storage_roundTrip 0 (.filled 0) (Params.new : Params Binary32)).1 Params.wellTyped_new
  have encoded : encodeParams 0 (Params.new : Params Binary32) =
      some { timestamp := 0, status := 0, values := image } := by
    rw [encodeParams, written]
  have history := writeThenRead_log encoded
  have few : (writeThenRead (Params.new : Params Binary32) image).countP SdEvent.isCall <
      UInt64.size := by
    rw [countP_writeThenRead]
    decide
  have promised := keepsPromises_after 0 few
  refine ⟨image, decoded, ?_, ?_, kept, promised⟩
  · simp [history]
  · simp [history, read]

/-- A call whose operation was answered before it returns reports the answer. -/
def ReportsAlways (version : UInt32) (past : List (SdRecord F)) (entry : SdRecord F) : Prop :=
  ∀ requestId report, entry.Returns requestId report →
    ∀ before done between packet, past = before ++ done :: between →
      done.Answers requestId packet →
      ∃ request, .requested requestId request ∈ before ∧
        report = SdWorld.report version request (some packet)

omit [FloatBits F] [FlightFloat F] in
/-- A write that its call returned as failed does not change the card. -/
def FailedNeverChanges (past : List (SdRecord F)) (entry : SdRecord F) : Prop :=
  ∀ packet, entry = .changed packet →
    ∀ returned ∈ past, ∀ params, ¬ returned.Returns packet.timestamp (.write params false)

section Limits

variable {params : Params F} {packet : ParamPacket}

/-- A call hands over its request and waits until its time is up. -/
def waitedOut : List (SdEvent F) :=
  [.proceed, .proceed, .proceed, .tick paramStorageTimeout, .proceed]

/-- A write of parameters that can be stored starts a call. -/
theorem step_writeParams (encoded : encodeParams version params = some packet)
    (idle : world.call = none) :
    world.step version (.writeParams params) =
      world.beginCall fun requestId => .write params { packet with timestamp := requestId } := by
  simp [step, idle, writeParams, encoded]

/-- A write that timed out can still change the card. -/
theorem lateWrite_log (encoded : encodeParams version params = some packet) :
    (run (step version) new (.writeParams params :: waitedOut ++ [.accept, .change])).log =
      [.requested 1 (.write params { packet with timestamp := 1 }),
        .expired 1 paramStorageTimeout (.write params false),
        .changed { packet with timestamp := 1 }] := by
  -- The request waits for the task until after its call has returned.
  rw [List.cons_append, run_cons, step_writeParams encoded rfl]
  simp [waitedOut, beginCall, new, step, SdWorld.proceed, record, SdWorld.accept, report]

/-- A stale write's answer can hide that of a read. -/
theorem staleWrite_log (encoded : encodeParams version params = some packet) :
    (run (step version) new (.writeParams params :: waitedOut ++
      .readParams :: [.proceed, .proceed, .proceed, .accept, .complete true packet.values, .accept,
        .complete true packet.values, .tick paramStorageTimeout, .proceed])).log =
      [.requested 1 (.write params { packet with timestamp := 1 }),
        .expired 1 paramStorageTimeout (.write params false), .requested 2 .read,
        .readDone { timestamp := 2, status := 1, values := packet.values },
        .writeDone { packet with timestamp := 1, status := 1 },
        .expired 2 paramStorageTimeout (.read none)] := by
  -- The read is taken first, and then the write is answered over it.
  rw [List.cons_append, run_cons, step_writeParams encoded rfl]
  simp [waitedOut, beginCall, new, step, SdWorld.proceed, record, SdWorld.accept, report,
    readParams, answer]

/-- No call is being made, a write waits, and no read has ever been answered. -/
structure Stuck (world : SdWorld F) (packet : ParamPacket) (id : UInt64) : Prop where
  task : world.task = .waiting
  call : world.call = none
  waits : world.sdWriteSignal = some (.ok packet)
  counted : world.sdRequestId = id
  unread : ∀ answer, .readDone answer ∉ world.log

/-- A write that timed out leaves its request behind. -/
theorem stuck_write (encoded : encodeParams version params = some packet) :
    Stuck (run (step version) new (.writeParams params :: waitedOut))
      { packet with timestamp := 1 } 1 := by
  -- The task has taken nothing yet.
  rw [run_cons, step_writeParams encoded rfl]
  constructor <;>
    simp [waitedOut, beginCall, new, step, SdWorld.proceed, record, report]

/-- A read that times out takes one more number. -/
theorem Stuck.read {id : UInt64} (stuck : Stuck world packet id) :
    Stuck (run (step version) world (.readParams :: waitedOut)) packet (id + 1) := by
  -- Its request is left behind too, until the next one replaces it.
  obtain ⟨task, call, waits, rfl, unread⟩ := stuck
  constructor <;>
    simp [waitedOut, beginCall, step, SdWorld.proceed, record, report, readParams, task, call,
      waits, unread]

/-- As many reads as one likes may time out. -/
theorem Stuck.reads (version : UInt32) {id : UInt64} (stuck : Stuck world packet id) (count : Nat) :
    Stuck (run (step version) world (List.replicate count (.readParams :: waitedOut)).flatten)
      packet (id + UInt64.ofNat count) := by
  -- Each of them takes one number.
  induction count generalizing world id with
  | zero => simpa using stuck
  | succ count ih =>
    have next : id + UInt64.ofNat (count + 1) = id + 1 + UInt64.ofNat count := by
      rw [UInt64.ofNat_add, UInt64.add_comm (UInt64.ofNat count), ← UInt64.add_assoc]
      rfl
    rw [List.replicate_succ, List.flatten_cons, run_append, next]
    exact ih stuck.read

/-- A read with the number of the waiting write returns the parameters that were written. -/
theorem Stuck.wrapped_log (stuck : Stuck world packet 0) (own : packet.timestamp = 1) :
    (run (step version) world [.readParams, .proceed, .proceed, .proceed, .accept,
        .complete false packet.values, .accept, .complete true packet.values, .proceed,
        .proceed]).log =
      world.log ++ [.requested 1 .read,
        .readDone { timestamp := 1, status := 0, values := packet.values },
        .writeDone { packet with status := 1 },
        .looked 1 (some (.read (decodeParams version { packet with status := 1 })))] := by
  -- The read fails, and the write is answered before the call looks.
  obtain ⟨task, call, waits, counted, unread⟩ := stuck
  simp [beginCall, step, SdWorld.proceed, record, SdWorld.accept, report, readParams, answer, task,
    call, waits, counted, waitForSdResponse, own, paramStorageTimeout]

/-- A write that timed out breaks a promise that failed writes change nothing. -/
theorem lateWrite_breaks (encoded : encodeParams version params = some packet) :
    ¬ EveryEntry FailedNeverChanges
      (run (step version) new (.writeParams params :: waitedOut ++ [.accept, .change])).log := by
  -- The change comes after the call has returned.
  rw [lateWrite_log encoded]
  intro promised
  exact promised [_, _] _ [] rfl _ rfl (.expired 1 paramStorageTimeout (.write params false))
    (by simp) params (.inr ⟨_, rfl⟩)

/-- A hidden answer breaks a promise that calls always report the outcome. -/
theorem staleWrite_breaks {decoded : Params F}
    (encoded : encodeParams version params = some packet)
    (decodes : decodeRosflightCParams version packet.values = some decoded) :
    ¬ EveryEntry (ReportsAlways version)
      (run (step version) new (.writeParams params :: waitedOut ++
        .readParams :: [.proceed, .proceed, .proceed, .accept, .complete true packet.values,
          .accept, .complete true packet.values, .tick paramStorageTimeout, .proceed])).log := by
  -- The read succeeded, but the call returns that it failed.
  rw [staleWrite_log encoded]
  intro promised
  obtain ⟨request, made, reported⟩ := promised [_, _, _, _, _] _ [] rfl 2 _
    (.inr ⟨_, rfl⟩)
    [_, _, _] _ [_] _ rfl ⟨rfl, rfl⟩
  obtain rfl : request = .read := by
    simpa using made
  simp [report, decodeParams, decodes] at reported

/-- A read that repeats the number of a waiting write breaks the promise that reads return what
was read. -/
theorem wrappedRead_breaks {decoded : Params F}
    (encoded : encodeParams version params = some packet)
    (decodes : decodeRosflightCParams version packet.values = some decoded) :
    ¬ EveryEntry (ReadsOwn version)
      (run (step version) new (.writeParams params :: waitedOut ++
        (List.replicate (UInt64.size - 1) (.readParams :: waitedOut)).flatten ++
        [.readParams, .proceed, .proceed, .proceed, .accept, .complete false packet.values, .accept,
          .complete true packet.values, .proceed, .proceed])).log := by
  -- No read succeeded, and yet the last call returns parameters.
  rw [run_append, run_append]
  have stuck := (stuck_write encoded).reads version (UInt64.size - 1)
  rw [show (1 : UInt64) + UInt64.ofNat (UInt64.size - 1) = 0 from rfl] at stuck
  rw [stuck.wrapped_log rfl]
  intro promised
  obtain ⟨answer, done, -, success, -⟩ := promised (_ ++ [_, _, _]) _ []
    (by rw [List.append_assoc]; rfl) 1 decoded (.inl (by simp [decodeParams, decodes]))
  rcases List.mem_append.mp done with before | now
  · exact stuck.unread answer before
  · have failed : answer.status = 0 := by
      simp only [List.mem_cons, SdRecord.readDone.injEq, reduceCtorEq, List.not_mem_nil, or_false,
        false_or] at now
      rw [now]
    rw [failed] at success
    exact absurd success (by decide)

end Limits

/-- A failed write can change the card later, a stale write's answer can hide that of a read, and
once the request numbers repeat a read can return what was written. -/
theorem strict_promises_break :
    (∃ events : List (SdEvent Binary32),
      ¬ EveryEntry FailedNeverChanges (run (step 0) new events).log) ∧
    (∃ events : List (SdEvent Binary32),
      ¬ EveryEntry (ReportsAlways 0) (run (step 0) new events).log) ∧
    ∃ events : List (SdEvent Binary32),
      ¬ EveryEntry (ReadsOwn 0) (run (step 0) new events).log := by
  -- Each of the three histories is a run of a board with default parameters.
  obtain ⟨image, decoded, written, read, -, -⟩ :=
    (storage_roundTrip 0 (.filled 0) (Params.new : Params Binary32)).1 Params.wellTyped_new
  have encoded : encodeParams 0 (Params.new : Params Binary32) =
      some { timestamp := 0, status := 0, values := image } := by
    rw [encodeParams, written]
  have decodes (timestamp : UInt64) :
      decodeParams 0 { timestamp, status := 1, values := image } = some decoded := by
    rw [decodeParams, if_neg (by simp), read]
  exact ⟨⟨_, lateWrite_breaks encoded⟩, ⟨_, staleWrite_breaks encoded read⟩,
    ⟨_, wrappedRead_breaks encoded read⟩⟩

end SdWorld

end Veloxity
