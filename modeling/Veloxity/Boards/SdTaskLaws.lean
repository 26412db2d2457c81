import Veloxity.Boards.SdRequestLaws

/-! Each action of the card's task keeps it and the board coherent. -/

namespace Veloxity

open Library

variable {F : Type}

namespace SdWorld

variable {world : SdWorld F} [FloatBits F] [FlightFloat F] {version : UInt32}

/-- Time that goes by changes nothing. -/
theorem Coherent.tick (coherent : world.Coherent version) (micros : Nat) :
    ({ world with now := world.now + micros } : SdWorld F).Coherent version := by
  -- The signals, the task and the history stay.
  have same : world.SameRequests { world with now := world.now + micros } :=
    ⟨rfl, rfl, rfl, .inl rfl⟩
  refine coherent.of_same same (UInt64.le_refl _) (fun _ waits => waits) ?_
    (fun member _ => .inl member) coherent.promises
  intro call calls
  exact (coherent.calling calls).of_same same rfl rfl rfl Iff.rfl fun _ waits _ => waits

/-- A change of the card is made by the write that runs. -/
theorem Coherent.change (coherent : world.Coherent version) {packet : ParamPacket}
    (running : world.task = .writing packet) :
    (world.record (.changed packet)).Coherent version := by
  have same : world.SameRequests (world.record (.changed packet)) :=
    ⟨rfl, rfl, rfl, .inr ⟨_, rfl, rfl, by simp⟩⟩
  -- The entry returns no call and looks for no answer, so only one promise is about it.
  refine coherent.of_same same (UInt64.le_refl _) (fun _ waits => waits) ?_ ?_ ?_
  · intro call calls
    exact (coherent.calling calls).of_same same rfl rfl rfl Iff.rfl fun _ waits _ => waits
  · intro entry id report member returns
    exact .inl (returns.old (by simp [SdRecord.Returns]) member)
  · refine coherent.promises.concat ?_ ?_ ?_ ?_ ?_
    · intro id params returns
      simp [SdRecord.Returns] at returns
    · intro id params returns
      simp [SdRecord.Returns] at returns
    · intro id report looked
      exact nomatch looked
    · rintro packet' ⟨⟩ before returned between params split returns
      -- The running write has not been answered, and is the one of the call that returned.
      have old (entry : SdRecord F) (member : entry ∈ before ++ [returned]) :
          entry ∈ world.log := by
        rw [split]
        rcases List.mem_append.mp member with early | late
        · exact List.mem_append_left _ early
        · rw [List.mem_singleton.mp late]
          exact List.mem_append_right _ List.mem_cons_self
      obtain ⟨params', made⟩ := coherent.requests.writing running
      obtain ⟨request, answer, asked, reported⟩ :=
        coherent.returned (old returned (by simp)) returns
      obtain rfl := coherent.requests.unique made asked
      obtain ⟨rfl, -⟩ := SdReport.write.inj reported
      refine ⟨fun done member answer answers => ?_, (coherent.requests.encoded made).2⟩
      exact coherent.requests.runningOnce (.inr ⟨packet, running, rfl⟩)
        ⟨done, old done (List.mem_append_left _ member), answer, answers⟩
    · intro id elapsed report expired
      exact nomatch expired

/-- The task starts on a request that was waiting for it. -/
structure Starts (world other : SdWorld F) (id : UInt64) : Prop where
  waited : world.Pending id
  pending : ∀ {made}, other.Pending made → world.Pending made ∧ made ≠ id
  running : ∀ {made}, other.Running made → made = id
  reading : ∀ {made}, other.task = .reading made → world.sdReadRequestSignal = some made
  writing : ∀ {packet}, other.task = .writing packet → world.sdReadRequestSignal = none ∧
    other.sdWriteSignal = none ∧ world.sdWriteSignal = some (.ok packet)
  readSignal : other.sdReadRequestSignal = none
  writeSignal : ∀ {answer}, other.sdWriteSignal = some answer → world.sdWriteSignal = some answer
  counted : other.sdRequestId = world.sdRequestId
  signal : other.sdReadSignal = world.sdReadSignal
  call : other.call = world.call
  log : other.log = world.log

namespace Starts

variable {other : SdWorld F} {id : UInt64} (starts : Starts world other id)
include starts

omit [FloatBits F] [FlightFloat F] in
/-- No request was made. -/
theorem requested {made : UInt64} {asked : SdRequest F} :
    other.Requested made asked ↔ world.Requested made asked := by
  rw [Requested, Requested, starts.log]

omit [FloatBits F] [FlightFloat F] in
/-- No request was answered. -/
theorem answered {made : UInt64} : other.Answered made ↔ world.Answered made := by
  rw [Answered, Answered, starts.log]

/-- The requests stay in order. -/
theorem requests (requests : world.Requests version) : other.Requests version where
  unique first second := requests.unique (starts.requested.mp first) (starts.requested.mp second)
  issued made := by
    rw [starts.counted]
    exact requests.issued (starts.requested.mp made)
  encoded made := requests.encoded (starts.requested.mp made)
  readPending waits := nomatch starts.readSignal.symm.trans waits
  writePending waits := by
    obtain ⟨params, packet, same, made⟩ := requests.writePending (starts.writeSignal waits)
    exact ⟨params, packet, same, starts.requested.mpr made⟩
  reading runs := starts.requested.mpr (requests.readPending (starts.reading runs))
  writing runs := by
    obtain ⟨params, packet, same, made⟩ := requests.writePending (starts.writing runs).2.2
    cases same
    exact ⟨params, starts.requested.mpr made⟩
  readDone done := by
    rw [starts.log] at done
    exact starts.requested.mpr (requests.readDone done)
  writeDone done := by
    rw [starts.log] at done
    obtain ⟨params, written, made, image⟩ := requests.writeDone done
    exact ⟨params, written, starts.requested.mpr made, image⟩
  pendingOnce waits := by
    -- What still waits waited before, and is not what the task has started on.
    rw [starts.answered]
    obtain ⟨old, different⟩ := starts.pending waits
    exact ⟨fun runs => different (starts.running runs), (requests.pendingOnce old).2⟩
  runningOnce runs := by
    -- What runs waited before, so that it was not answered.
    rw [starts.answered, starts.running runs]
    exact (requests.pendingOnce starts.waited).2

/-- A write that runs or was answered has left nothing to write. -/
theorem writeOnce {call : SdCall F} (requests : world.Requests version)
    (progress : world.Progress call) (writes : ∃ params packet, call.request = .write params packet)
    (known : other.Running call.requestId ∨ other.Answered call.requestId) :
    other.sdWriteSignal = none := by
  have ⟨params, packet, written⟩ := writes
  rcases known with (reads | ⟨packet', runs, -⟩) | answered
  · -- A read that runs is not the call's, which writes.
    have made := progress.requested
    rw [written] at made
    exact nomatch requests.unique made (requests.readPending (starts.reading reads))
  · exact (starts.writing runs).2.1
  · have empty := progress.writeOnce writes (.inr (starts.answered.mp answered))
    rw [Option.eq_none_iff_forall_ne_some] at empty ⊢
    intro answer waits
    exact empty answer (starts.writeSignal waits)

omit [FloatBits F] [FlightFloat F] in
/-- After a call was answered the task starts on no read, and after a write on nothing. -/
theorem task_of_answered {call : SdCall F} (progress : world.Progress call)
    (answered : world.Answered call.requestId) :
    (∀ made, other.task ≠ .reading made) ∧
      ((∃ params packet, call.request = .write params packet) → other.task = .waiting) := by
  have noRead := progress.readOnce (.inr answered)
  -- What the task starts on waited before, and nothing of an answered call waits.
  constructor
  · intro made reads
    exact nomatch noRead.symm.trans (starts.reading reads)
  · intro writes
    have noWrite := progress.writeOnce writes (.inr answered)
    cases task : other.task with
    | waiting => rfl
    | reading made => exact nomatch noRead.symm.trans (starts.reading task)
    | writing packet => exact nomatch noWrite.symm.trans (starts.writing task).2.2

/-- The request of a call has come as far as it had. -/
theorem progress {call : SdCall F} (requests : world.Requests version)
    (progress : world.Progress call) : other.Progress call where
  -- The request moves from its signal to the task, and nothing is answered.
  requested := starts.requested.mpr progress.requested
  readOnce _ := starts.readSignal
  writeOnce writes known := starts.writeOnce requests progress writes known
  answered answered := starts.task_of_answered progress (starts.answered.mp answered)
  current := by
    rw [starts.log, starts.signal]
    exact progress.current

/-- The call being made stays what it is. -/
theorem calling {call : SdCall F} (requests : world.Requests version)
    (calling : world.Calling version call) : other.Calling version call where
  -- Starting a request moves it from a signal to the task; the call itself does not change.
  newest := by
    rw [starts.counted]
    exact calling.newest
  asked := calling.asked
  unsent unsent := by
    intro request made
    exact calling.unsent unsent (starts.requested.mp made)
  sent sent := starts.progress requests (calling.sent sent)

end Starts

/-- Starting on a request keeps the board and the task coherent. -/
theorem Coherent.start (coherent : world.Coherent version) {id : UInt64} {other : SdWorld F}
    (starts : Starts world other id) : other.Coherent version where
  -- Only the task and one signal change, and the log stays as it is.
  requests := starts.requests coherent.requests
  answers := by
    rw [starts.signal, starts.log]
    exact coherent.answers
  calling calls := by
    rw [starts.call] at calls
    exact starts.calling coherent.requests (coherent.calling calls)
  returned member returns := by
    rw [starts.log] at member
    obtain ⟨asked, answer, made, reported⟩ := coherent.returned member returns
    exact ⟨asked, answer, starts.requested.mpr made, reported⟩
  promises := by
    rw [starts.log]
    exact coherent.promises

/-- Taking a request to read starts on it. -/
theorem starts_reading (requests : world.Requests version) {id : UInt64}
    (reads : world.sdReadRequestSignal = some id) :
    Starts world { world with sdReadRequestSignal := none, task := .reading id } id where
  waited := .inl reads
  pending := by
    rintro made (waits | ⟨packet, waits, stamped⟩)
    · exact nomatch waits
    · -- A write that waits is another request than the read.
      refine ⟨.inr ⟨packet, waits, stamped⟩, ?_⟩
      rintro rfl
      obtain ⟨params, packet', same, written⟩ := requests.writePending waits
      cases same
      rw [stamped] at written
      exact nomatch requests.unique written (requests.readPending reads)
  running := by
    rintro made (runs | ⟨packet, runs, -⟩)
    · cases runs
      rfl
    · exact nomatch runs
  reading := by
    rintro made ⟨⟩
    exact reads
  writing runs := nomatch runs
  readSignal := rfl
  writeSignal waits := waits
  counted := rfl
  signal := rfl
  call := rfl
  log := rfl

omit [FloatBits F] [FlightFloat F] in
/-- Taking a request to write, when none to read waits, starts on it. -/
theorem starts_writing {packet : ParamPacket} (reads : world.sdReadRequestSignal = none)
    (writes : world.sdWriteSignal = some (.ok packet)) :
    Starts world
      { world with sdReadRequestSignal := none, sdWriteSignal := none, task := .writing packet }
      packet.timestamp where
  waited := .inr ⟨packet, writes, rfl⟩
  pending := by
    -- Both signals have been emptied.
    rintro made (waits | ⟨packet', waits, -⟩)
    · exact nomatch waits
    · exact nomatch waits
  running := by
    rintro made (runs | ⟨packet', runs, stamped⟩)
    · exact nomatch runs
    · cases runs
      exact stamped.symm
  reading runs := nomatch runs
  writing := by
    rintro packet' ⟨⟩
    exact ⟨reads, rfl, writes⟩
  readSignal := rfl
  writeSignal waits := nomatch waits
  counted := rfl
  signal := rfl
  call := rfl
  log := rfl

/-- The task takes only requests that wait. -/
theorem Coherent.accept (coherent : world.Coherent version) : world.accept.Coherent version := by
  have requests := coherent.requests
  rw [SdWorld.accept]
  cases reads : world.sdReadRequestSignal with
  | some id => exact coherent.start (starts_reading requests reads)
  | none =>
    cases writes : world.sdWriteSignal with
    | some answer =>
      -- Only requests that can be written are ever handed to the task.
      obtain ⟨params, packet, rfl, written⟩ := requests.writePending writes
      exact coherent.start (starts_writing reads writes)
    | none => exact coherent

/-- An operation ended with an answer of its kind. -/
def Completes (world : SdWorld F) (packet : ParamPacket) (entry : SdRecord F) : Prop :=
  (world.task = .reading packet.timestamp ∧ entry = .readDone packet) ∨
    ∃ written, world.task = .writing written ∧ written.timestamp = packet.timestamp ∧
      written.values = packet.values ∧ entry = .writeDone packet

omit [FloatBits F] [FlightFloat F] in
/-- After an answer the task waits. -/
theorem not_running_answer {packet : ParamPacket} {entry : SdRecord F} {id : UInt64} :
    ¬ ((world.answer packet).record entry).Running id := by
  rintro (runs | ⟨packet', runs, -⟩)
  · exact nomatch runs
  · exact nomatch runs

namespace Completes

variable {packet : ParamPacket} {entry : SdRecord F} (completes : world.Completes packet entry)
include completes

omit [FloatBits F] [FlightFloat F] in
/-- The entry holds the answer. -/
theorem published : entry.published = some packet := by
  rcases completes with ⟨-, rfl⟩ | ⟨written, -, -, -, rfl⟩
  · rfl
  · rfl

omit [FloatBits F] [FlightFloat F] in
/-- What ended was running. -/
theorem running : world.Running packet.timestamp := by
  rcases completes with ⟨runs, -⟩ | ⟨written, runs, stamped, -, -⟩
  · exact .inl runs
  · exact .inr ⟨written, runs, stamped⟩

omit [FloatBits F] [FlightFloat F] in
/-- No request was made. -/
theorem requested {made : UInt64} {asked : SdRequest F} :
    ((world.answer packet).record entry).Requested made asked ↔ world.Requested made asked := by
  -- The new entry is an answer.
  refine ⟨fun member => ?_, List.mem_append_left _⟩
  rcases List.mem_append.mp member with old | new
  · exact old
  · have published := completes.published
    rw [← List.mem_singleton.mp new] at published
    exact nomatch published

omit [FloatBits F] [FlightFloat F] in
/-- What is answered was answered before, or has just ended. -/
theorem answered {made : UInt64} (known : ((world.answer packet).record entry).Answered made) :
    world.Answered made ∨ made = packet.timestamp := by
  obtain ⟨entry', member, packet', published, stamped⟩ := known
  -- The log has one more entry, which published this packet.
  rcases List.mem_append.mp member with old | new
  · exact .inl ⟨entry', old, packet', published, stamped⟩
  · rw [List.mem_singleton.mp new, completes.published] at published
    cases published
    exact .inr stamped.symm

omit [FloatBits F] [FlightFloat F] in
/-- What is running or answered was so before. -/
theorem known {made : UInt64} (known : ((world.answer packet).record entry).Running made ∨
    ((world.answer packet).record entry).Answered made) :
    world.Running made ∨ world.Answered made := by
  -- Nothing runs once the answer has been given.
  rcases known with runs | done
  · exact absurd runs not_running_answer
  · rcases completes.answered done with old | rfl
    · exact .inr old
    · exact .inl completes.running

/-- The requests stay in order. -/
theorem requests (requests : world.Requests version) :
    ((world.answer packet).record entry).Requests version where
  unique first second :=
    requests.unique (completes.requested.mp first) (completes.requested.mp second)
  issued made := requests.issued (completes.requested.mp made)
  encoded made := requests.encoded (completes.requested.mp made)
  readPending waits := completes.requested.mpr (requests.readPending waits)
  writePending waits := by
    obtain ⟨params, packet, same, made⟩ := requests.writePending waits
    exact ⟨params, packet, same, completes.requested.mpr made⟩
  reading runs := nomatch runs
  writing runs := nomatch runs
  readDone done := by
    rcases List.mem_append.mp done with old | new
    · exact completes.requested.mpr (requests.readDone old)
    · -- The read that ended was running.
      rcases completes with ⟨runs, rfl⟩ | ⟨written, -, -, -, rfl⟩
      · cases List.mem_singleton.mp new
        exact List.mem_append_left _ (requests.reading runs)
      · exact nomatch List.mem_singleton.mp new
  writeDone done := by
    rcases List.mem_append.mp done with old | new
    · obtain ⟨params, written, made, image⟩ := requests.writeDone old
      exact ⟨params, written, completes.requested.mpr made, image⟩
    · -- The write that ended was running, and its answer carries its image.
      rcases completes with ⟨-, rfl⟩ | ⟨written, runs, stamped, image, rfl⟩
      · exact nomatch List.mem_singleton.mp new
      · cases List.mem_singleton.mp new
        obtain ⟨params, made⟩ := requests.writing runs
        rw [stamped] at made
        exact ⟨params, written, List.mem_append_left _ made, image⟩
  pendingOnce waits := by
    have waited := requests.pendingOnce (show world.Pending _ from waits)
    refine ⟨not_running_answer, ?_⟩
    intro known
    rcases completes.answered known with old | rfl
    · exact waited.2 old
    · exact waited.1 completes.running
  runningOnce runs := absurd runs not_running_answer

/-- What ends after the newest call was answered is an older write, and that call reads. -/
theorem stale (requests : world.Requests version) {call : SdCall F}
    (newest : call.requestId = world.sdRequestId) (progress : world.Progress call)
    (answered : world.Answered call.requestId) :
    entry = .writeDone packet ∧ call.request = .read ∧ packet.timestamp < call.requestId := by
  obtain ⟨notReading, waiting⟩ := progress.answered answered
  rcases completes with ⟨runs, -⟩ | ⟨written, runs, stamped, -, rfl⟩
  · exact absurd runs (notReading _)
  · obtain ⟨params, made⟩ := requests.writing runs
    rw [stamped] at made
    -- After a write of its own was answered the task would wait.
    have reads : call.request = .read := by
      cases kind : call.request with
      | read => rfl
      | write params packet => exact nomatch runs.symm.trans (waiting ⟨params, packet, kind⟩)
    refine ⟨rfl, reads, UInt64.lt_of_le_of_ne ?_ ?_⟩
    · rw [newest]
      exact requests.issued made
    · intro same
      have asked := progress.requested
      rw [← same, reads] at asked
      exact nomatch requests.unique made asked

/-- The request of a call has come as far as it had, or has just been answered. -/
theorem progress (requests : world.Requests version) {call : SdCall F}
    (newest : call.requestId = world.sdRequestId) (progress : world.Progress call) :
    ((world.answer packet).record entry).Progress call where
  requested := completes.requested.mpr progress.requested
  readOnce done := progress.readOnce (completes.known done)
  writeOnce writes done := progress.writeOnce writes (completes.known done)
  answered _ := ⟨fun _ runs => (nomatch runs), fun _ => rfl⟩
  current := by
    intro before done between packet' split answers
    rcases split_concat.mp split with ⟨rfl, rfl, rfl⟩ | ⟨rest, rfl, earlier⟩
    · -- The answer is the one that waits for the call.
      cases completes.published.symm.trans answers.1
      exact ⟨progress.requested, .inl rfl⟩
    · obtain ⟨rfl, reads, older⟩ :=
        completes.stale requests newest progress ⟨done, earlier ▸ by simp, packet', answers⟩
      exact ⟨(progress.current earlier answers).1,
        .inr ⟨reads, packet, List.mem_append_right _ List.mem_cons_self, older⟩⟩

/-- The call being made stays what it is. -/
theorem calling (requests : world.Requests version) {call : SdCall F}
    (calling : world.Calling version call) :
    ((world.answer packet).record entry).Calling version call where
  -- An answer changes neither the number counted nor what has been asked for.
  newest := calling.newest
  asked := calling.asked
  unsent unsent := by
    intro request made
    exact calling.unsent unsent (completes.requested.mp made)
  sent sent := completes.progress requests calling.newest (calling.sent sent)

omit [FloatBits F] [FlightFloat F] in
/-- The entry returns no call. -/
theorem silent (id : UInt64) (report : SdReport F) : ¬ entry.Returns id report := by
  rintro (rfl | ⟨_, rfl⟩)
  · exact nomatch completes.published
  · exact nomatch completes.published

end Completes

/-- What ends is no longer waited for, and its answer is new. -/
theorem Coherent.complete (coherent : world.Coherent version) {packet : ParamPacket}
    {entry : SdRecord F} (completes : world.Completes packet entry) :
    ((world.answer packet).record entry).Coherent version where
  requests := completes.requests coherent.requests
  answers := by
    rintro answer ⟨⟩
    exact ⟨packet, entry, rfl, List.mem_append_right _ List.mem_cons_self, completes.published⟩
  calling calls := completes.calling coherent.requests (coherent.calling calls)
  returned member returns := by
    obtain ⟨asked, answer, made, reported⟩ :=
      coherent.returned (returns.old completes.silent member) returns
    exact ⟨asked, answer, completes.requested.mpr made, reported⟩
  promises := by
    -- An answer is no report, no look and no change.
    refine coherent.promises.concat_plain completes.silent ?_ ?_
    · rintro id report rfl
      exact nomatch completes.published
    · rintro packet' rfl
      exact nomatch completes.published

end SdWorld

end Veloxity
