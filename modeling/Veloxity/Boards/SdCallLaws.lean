import Veloxity.Boards.SdRequestLaws

/-! Each action of a call keeps the board and the card's task coherent. -/

namespace Veloxity

open Library

variable {F : Type}

namespace SdWorld

variable {world : SdWorld F} [FloatBits F] [FlightFloat F] {version : UInt32}

/-- A call that the firmware starts is the newest, and its request is new. -/
theorem Coherent.beginCall (coherent : world.Coherent version)
    (fresh : world.sdRequestId < world.sdRequestId + 1) {request : UInt64 → SdRequest F}
    (asked : ∀ {params packet}, request (world.sdRequestId + 1) = .write params packet →
      packet.timestamp = world.sdRequestId + 1 ∧ ImageOf version params packet.values) :
    (world.beginCall request).Coherent version := by
  -- No request was made with a number that is still to come.
  have same : world.SameRequests (world.beginCall request) := ⟨rfl, rfl, rfl, .inl rfl⟩
  refine coherent.of_same same (UInt64.le_of_lt fresh) (fun _ waits => waits) ?_
    (fun member _ => .inl member) coherent.promises
  rintro call ⟨⟩
  refine ⟨rfl, asked, fun _ _ made => ?_, fun sent => absurd (.inl rfl) sent⟩
  exact UInt64.not_le.mpr fresh (coherent.requests.issued (same.requested.mp made))

/-- Writing starts a call, or its parameters cannot be stored. -/
theorem Coherent.writeParams (coherent : world.Coherent version)
    (fresh : world.sdRequestId < world.sdRequestId + 1) (params : Params F)
    (idle : world.call = none) : (world.writeParams version params).Coherent version := by
  -- Parameters that cannot be stored leave only a note.
  cases encoded : encodeParams version params with
  | none =>
    have same : world.SameRequests (world.record (.refused params)) :=
      ⟨rfl, rfl, rfl, .inr ⟨_, rfl, rfl, by simp⟩⟩
    rw [SdWorld.writeParams, encoded]
    refine coherent.of_same same (UInt64.le_refl _) (fun _ waits => waits) ?_ ?_ ?_
    · intro call calls
      exact nomatch idle.symm.trans calls
    · intro entry id report member returns
      exact .inl (returns.old (by simp [SdRecord.Returns]) member)
    · exact coherent.promises.concat_plain (by simp [SdRecord.Returns]) (by simp) (by simp)
  | some packet =>
    rw [SdWorld.writeParams, encoded]
    apply coherent.beginCall fresh
    rintro params' packet' ⟨⟩
    refine ⟨rfl, ?_⟩
    rw [ImageOf, encoded]
    rfl

/-- A request that has not been handed to the task has no answer. -/
theorem Calling.unanswered {call : SdCall F} (calling : world.Calling version call)
    (requests : world.Requests version) (unsent : call.Unsent) :
    ¬ world.Answered call.requestId := by
  -- Only requests that were handed over are answered.
  intro answered
  obtain ⟨request, made⟩ := requests.requested (.inr (.inr answered))
  exact calling.unsent unsent made

/-- A call forgets older answers before it hands over its request. -/
theorem Coherent.reset (coherent : world.Coherent version) {call : SdCall F}
    (calls : world.call = some call) (phase : call.phase = .resetting) :
    ({ world with
      sdReadSignal := none
      call := some { call with phase := .signalling } } : SdWorld F).Coherent version := by
  -- What is forgotten answers another request than that of the call.
  have calling := coherent.calling calls
  have unsent : call.Unsent := .inl phase
  refine coherent.of_same ⟨rfl, rfl, rfl, .inl rfl⟩ (UInt64.le_refl _)
    (fun _ waits => nomatch waits) ?_ (fun member _ => .inl member) coherent.promises
  rintro next ⟨⟩
  refine calling.of_same ⟨rfl, rfl, rfl, .inl rfl⟩ rfl rfl rfl ?_ ?_
  · exact iff_of_true (.inr rfl) unsent
  · intro packet waits own
    obtain ⟨packet', entry, same, member, published⟩ := coherent.answers waits
    cases same
    exact absurd ⟨entry, member, packet, published, own⟩
      (calling.unanswered coherent.requests unsent)

/-- A call that waits notes the time, or finds that there is some left. -/
theorem Coherent.wait (coherent : world.Coherent version) {call : SdCall F} {phase : SdPhase}
    (calls : world.call = some call) (sent : ¬ call.Unsent)
    (next : ¬ ({ call with phase } : SdCall F).Unsent) :
    ({ world with call := some { call with phase } } : SdWorld F).Coherent version := by
  -- Only the phase changes.
  refine coherent.of_same ⟨rfl, rfl, rfl, .inl rfl⟩ (UInt64.le_refl _)
    (fun _ waits => waits) ?_ (fun member _ => .inl member) coherent.promises
  rintro _ ⟨⟩
  exact (coherent.calling calls).of_same ⟨rfl, rfl, rfl, .inl rfl⟩ rfl rfl rfl
    (iff_of_false next sent) fun _ waits _ => waits

/-- A call whose time is up returns that it failed. -/
theorem Coherent.expire (coherent : world.Coherent version) {call : SdCall F}
    (calls : world.call = some call) (sent : ¬ call.Unsent) {elapsed : Nat}
    (late : paramStorageTimeout ≤ elapsed) :
    (({ world with call := none } : SdWorld F).record
      (.expired call.requestId elapsed
        (SdWorld.report version call.request none))).Coherent version := by
  -- A report without an answer promises nothing.
  have made := ((coherent.calling calls).sent sent).requested
  refine coherent.of_same ⟨rfl, rfl, rfl, .inr ⟨_, rfl, rfl, by simp⟩⟩
    (UInt64.le_refl _) (fun _ waits => waits) (fun calls => nomatch calls) ?_ ?_
  · intro entry id report member returns
    rcases List.mem_append.mp member with old | new
    · exact .inl old
    · rw [List.mem_singleton.mp new] at returns
      rcases returns with looked | ⟨_, expired⟩
      · exact nomatch looked
      · cases expired
        exact .inr ⟨_, _, made, rfl⟩
  · refine coherent.promises.concat ?_ ?_ ?_ ?_ ?_
    · rintro id params (looked | ⟨_, expired⟩)
      · exact nomatch looked
      · cases request : call.request <;> simp [SdWorld.report, request] at expired
    · rintro id params (looked | ⟨_, expired⟩)
      · exact nomatch looked
      · cases request : call.request <;> simp [SdWorld.report, request] at expired
    · intro id report looked
      exact nomatch looked
    · intro packet changed
      exact nomatch changed
    · rintro id waited report ⟨⟩
      exact late

/-- A look reports the call's answer if it finds it. -/
theorem Progress.reportsAnswer {call : SdCall F} (progress : world.Progress call)
    {report : Option (SdReport F)}
    (reports : ∀ packet, world.sdReadSignal = some (.ok packet) →
      packet.timestamp = call.requestId →
      report = some (SdWorld.report version call.request (some packet))) :
    ReportsAnswer version world.log (.looked call.requestId report) := by
  -- The answer still waits, or a stale one has replaced it.
  rintro id report ⟨⟩ before done between packet split answers
  obtain ⟨made, waits | stale⟩ := progress.current split answers
  · exact ⟨_, made, .inl (reports packet waits answers.2)⟩
  · exact ⟨_, made, .inr stale⟩

/-- A call that finds no answer of its own looks again. -/
theorem Coherent.lookAgain (coherent : world.Coherent version) {call : SdCall F}
    (calls : world.call = some call) (sent : ¬ call.Unsent) (start : Nat)
    (other : ∀ packet, world.sdReadSignal = some (.ok packet) →
      packet.timestamp ≠ call.requestId) :
    (({ world with
        sdReadSignal := none
        call := some { call with phase := .checking start } } : SdWorld F).record
      (.looked call.requestId none)).Coherent version := by
  -- What is taken answers another request, and the look returns nothing.
  have calling := coherent.calling calls
  refine coherent.of_same ⟨rfl, rfl, rfl, .inr ⟨_, rfl, rfl, by simp⟩⟩ (UInt64.le_refl _)
    (fun _ waits => nomatch waits) ?_ ?_ ?_
  · rintro _ ⟨⟩
    refine calling.of_same ⟨rfl, rfl, rfl, .inr ⟨_, rfl, rfl, by simp⟩⟩ rfl rfl rfl
      (iff_of_false ?_ sent) ?_
    · simp [SdCall.Unsent]
    · intro packet waits own
      exact absurd own (other packet waits)
  · intro entry id report member returns
    exact .inl (returns.old (by simp [SdRecord.Returns]) member)
  · refine coherent.promises.concat ?_ ?_ ?_ ?_ ?_
    · intro id params returns
      simp [SdRecord.Returns] at returns
    · intro id params returns
      simp [SdRecord.Returns] at returns
    · apply (calling.sent sent).reportsAnswer
      intro packet waits own
      exact absurd own (other packet waits)
    · intro packet changed
      exact nomatch changed
    · intro id elapsed report expired
      exact nomatch expired

/-- The answer to a request is that of an operation of the kind the request asks for. -/
theorem Requests.answer_kind (requests : world.Requests version) {entry : SdRecord F}
    {packet : ParamPacket} {request : SdRequest F} (member : entry ∈ world.log)
    (published : entry.published = some packet)
    (made : world.Requested packet.timestamp request) :
    (request = .read → .readDone packet ∈ world.log) ∧
      ∀ params written, request = .write params written →
        .writeDone packet ∈ world.log ∧ written.values = packet.values := by
  -- An answer of the other kind would belong to another request.
  cases entry with
  | readDone answer =>
    cases published
    obtain rfl := requests.unique made (requests.readDone member)
    exact ⟨fun _ => member, fun _ _ writes => (nomatch writes)⟩
  | writeDone answer =>
    cases published
    obtain ⟨params', written', made', image⟩ := requests.writeDone member
    obtain rfl := requests.unique made made'
    refine ⟨fun reads => (nomatch reads), ?_⟩
    rintro params written ⟨⟩
    exact ⟨member, image⟩
  | requested | looked | expired | refused | changed => exact nomatch published

/-- A look that returns parameters has found a successful read for its call. -/
theorem readsOwn_looked {call : SdCall F} {packet : ParamPacket}
    (own : packet.timestamp = call.requestId)
    (kind : call.request = .read → .readDone packet ∈ world.log) :
    ReadsOwn version world.log
      (.looked call.requestId (some (SdWorld.report version call.request (some packet)))) := by
  rintro id params (looked | ⟨_, expired⟩)
  · obtain ⟨rfl, reported⟩ := SdRecord.looked.inj looked
    have reported := Option.some.inj reported
    cases request : call.request with
    | read =>
      rw [request] at reported
      have decoded : decodeParams version packet = some params := SdReport.read.inj reported
      refine ⟨packet, kind request, own, ?_, decoded⟩
      -- A read that failed is not decoded.
      by_contra failed
      rw [decodeParams, if_pos failed] at decoded
      cases decoded
    | write params' written =>
      rw [request] at reported
      exact nomatch reported
  · exact nomatch expired

/-- A look that returns success has found a successful write of its call's image. -/
theorem Calling.writesOwn_looked {call : SdCall F} (calling : world.Calling version call)
    {packet : ParamPacket} (own : packet.timestamp = call.requestId)
    (kind : ∀ params written, call.request = .write params written →
      .writeDone packet ∈ world.log ∧ written.values = packet.values) :
    WritesOwn version world.log
      (.looked call.requestId (some (SdWorld.report version call.request (some packet)))) := by
  rintro id params (looked | ⟨_, expired⟩)
  · obtain ⟨rfl, reported⟩ := SdRecord.looked.inj looked
    have reported := Option.some.inj reported
    cases request : call.request with
    | read =>
      rw [request] at reported
      exact nomatch reported
    | write params' written =>
      rw [request] at reported
      obtain ⟨rfl, success⟩ := SdReport.write.inj reported
      obtain ⟨done, image⟩ := kind params' written request
      refine ⟨packet, done, own, eq_of_beq success, ?_⟩
      -- What was written is what the call encoded.
      rw [← image]
      exact (calling.asked request).2
  · exact nomatch expired

/-- A call that finds its answer returns what it says. -/
theorem Coherent.return (coherent : world.Coherent version) {call : SdCall F}
    (calls : world.call = some call) (sent : ¬ call.Unsent) {packet : ParamPacket}
    (waits : world.sdReadSignal = some (.ok packet)) (own : packet.timestamp = call.requestId) :
    (({ world with sdReadSignal := none, call := none } : SdWorld F).record
      (.looked call.requestId
        (some (SdWorld.report version call.request (some packet))))).Coherent version := by
  have calling := coherent.calling calls
  have progress := calling.sent sent
  obtain ⟨packet', entry, same, member, published⟩ := coherent.answers waits
  cases same
  have made : world.Requested packet.timestamp call.request := by
    rw [own]
    exact progress.requested
  -- The answer is that of an operation of the call's kind.
  obtain ⟨readKind, writeKind⟩ := coherent.requests.answer_kind member published made
  refine coherent.of_same ⟨rfl, rfl, rfl, .inr ⟨_, rfl, rfl, by simp⟩⟩ (UInt64.le_refl _)
    (fun _ waits => nomatch waits) (fun calls => nomatch calls) ?_ ?_
  · intro entry id report member returns
    rcases List.mem_append.mp member with old | new
    · exact .inl old
    · rw [List.mem_singleton.mp new] at returns
      rcases returns with looked | ⟨_, expired⟩
      · cases looked
        exact .inr ⟨_, _, progress.requested, rfl⟩
      · exact nomatch expired
  · -- Only the look for an answer can break a promise, and it is the one of this call.
    refine coherent.promises.concat (readsOwn_looked own readKind)
      (calling.writesOwn_looked own writeKind) ?_ ?_ ?_
    · apply progress.reportsAnswer
      intro packet' waits' _
      rw [waits] at waits'
      cases waits'
      rfl
    · intro packet changed
      exact nomatch changed
    · intro id elapsed report expired
      exact nomatch expired

/-- A call that looks for its answer returns it, or looks again. -/
theorem Coherent.waitForSdResponse (coherent : world.Coherent version) {call : SdCall F}
    (calls : world.call = some call) (sent : ¬ call.Unsent) (start : Nat) :
    (world.waitForSdResponse version call start).Coherent version := by
  -- The task never answers with an error.
  rw [SdWorld.waitForSdResponse]
  rcases waits : world.sdReadSignal with - | answer
  · apply coherent.lookAgain calls sent start
    intro packet answered
    exact nomatch waits.symm.trans answered
  · obtain ⟨packet, entry, rfl, member, published⟩ := coherent.answers waits
    by_cases own : packet.timestamp = call.requestId
    · simp only [if_pos own]
      exact coherent.return calls sent waits own
    · simp only [if_neg own]
      apply coherent.lookAgain calls sent start
      intro packet' answered
      cases waits.symm.trans answered
      exact own

/-- A new request is handed to the task, over whatever waited in its place. -/
structure Hands (world other : SdWorld F) (id : UInt64) (request : SdRequest F) : Prop where
  readSignal : ∀ {pending}, other.sdReadRequestSignal = some pending →
    world.sdReadRequestSignal = some pending ∨ pending = id ∧ request = .read
  writeSignal : ∀ {pending}, other.sdWriteSignal = some pending →
    world.sdWriteSignal = some pending ∨
      ∃ params packet, pending = .ok packet ∧ packet.timestamp = id ∧ request = .write params packet
  task : other.task = world.task
  counted : other.sdRequestId = world.sdRequestId
  log : other.log = world.log ++ [.requested id request]

namespace Hands

variable {other : SdWorld F} {id : UInt64} {request : SdRequest F}

omit [FloatBits F] [FlightFloat F] in
/-- The request is made besides those made before. -/
theorem requested (hands : Hands world other id request) {made : UInt64}
    {asked : SdRequest F} :
    other.Requested made asked ↔ world.Requested made asked ∨ made = id ∧ asked = request := by
  rw [Requested, Requested, hands.log, List.mem_append, List.mem_singleton,
    SdRecord.requested.injEq]

omit [FloatBits F] [FlightFloat F] in
/-- No answer is added. -/
theorem answered (hands : Hands world other id request) {made : UInt64} :
    other.Answered made ↔ world.Answered made := by
  -- The new entry is a request.
  rw [Answered, Answered, hands.log]
  constructor
  · rintro ⟨entry, member, packet, answers⟩
    rcases List.mem_append.mp member with old | new
    · exact ⟨entry, old, packet, answers⟩
    · rw [List.mem_singleton.mp new] at answers
      exact nomatch answers.1
  · rintro ⟨entry, member, answers⟩
    exact ⟨entry, List.mem_append_left _ member, answers⟩

omit [FloatBits F] [FlightFloat F] in
/-- The same requests are being worked on. -/
theorem running (hands : Hands world other id request) {made : UInt64} :
    other.Running made ↔ world.Running made := by
  rw [Running, Running, hands.task]

omit [FloatBits F] [FlightFloat F] in
/-- Only the new request may have come to wait. -/
theorem pending (hands : Hands world other id request) {made : UInt64}
    (waits : other.Pending made) : world.Pending made ∨ made = id := by
  -- Each of the two places holds what it held, or the new request.
  rcases waits with reads | ⟨packet, writes, stamped⟩
  · rcases hands.readSignal reads with old | ⟨new, -⟩
    · exact .inl (.inl old)
    · exact .inr new
  · rcases hands.writeSignal writes with old | ⟨params, packet', same, new, -⟩
    · exact .inl (.inr ⟨packet, old, stamped⟩)
    · cases same
      exact .inr (stamped.symm.trans new)

/-- Requests stay in order when a new one is handed over. -/
theorem requests (hands : Hands world other id request) (requests : world.Requests version)
    (newest : id = world.sdRequestId) (fresh : ∀ asked, ¬ world.Requested id asked)
    (asked : ∀ {params packet}, request = .write params packet →
      packet.timestamp = id ∧ ImageOf version params packet.values) :
    other.Requests version where
  -- The new number was asked for by nothing before, so two requests with it are the same one.
  unique {made one two} first second := by
    rcases hands.requested.mp first with old | ⟨rfl, rfl⟩
    · rcases hands.requested.mp second with old' | ⟨rfl, rfl⟩
      · exact requests.unique old old'
      · exact absurd old (fresh _)
    · rcases hands.requested.mp second with old' | ⟨-, rfl⟩
      · exact absurd old' (fresh _)
      · rfl
  issued made := by
    rw [hands.counted]
    rcases hands.requested.mp made with old | ⟨rfl, -⟩
    · exact requests.issued old
    · exact UInt64.le_of_eq newest
  -- A write carries the image of its parameters; reads have nothing to encode.
  encoded made := by
    rcases hands.requested.mp made with old | ⟨rfl, same⟩
    · exact requests.encoded old
    · exact asked same.symm
  -- What waits in a signal waited there before, or is the request just handed over.
  readPending waits := by
    rcases hands.readSignal waits with old | ⟨rfl, same⟩
    · exact hands.requested.mpr (.inl (requests.readPending old))
    · exact hands.requested.mpr (.inr ⟨rfl, same.symm⟩)
  writePending waits := by
    rcases hands.writeSignal waits with old | ⟨params, packet, same, stamped, write⟩
    · obtain ⟨params, packet, same, made⟩ := requests.writePending old
      exact ⟨params, packet, same, hands.requested.mpr (.inl made)⟩
    · exact ⟨params, packet, same, hands.requested.mpr (.inr ⟨stamped, write.symm⟩)⟩
  -- The task and what it published are untouched by handing over.
  reading runs := by
    rw [hands.task] at runs
    exact hands.requested.mpr (.inl (requests.reading runs))
  writing runs := by
    rw [hands.task] at runs
    obtain ⟨params, made⟩ := requests.writing runs
    exact ⟨params, hands.requested.mpr (.inl made)⟩
  readDone done := by
    rw [hands.log, List.mem_append, List.mem_singleton] at done
    rcases done with old | new
    · exact hands.requested.mpr (.inl (requests.readDone old))
    · exact nomatch new
  writeDone done := by
    rw [hands.log, List.mem_append, List.mem_singleton] at done
    rcases done with old | new
    · obtain ⟨params, written, made, image⟩ := requests.writeDone old
      exact ⟨params, written, hands.requested.mpr (.inl made), image⟩
    · exact nomatch new
  -- The new request is neither running nor answered, since either would mean it was asked.
  pendingOnce waits := by
    rw [hands.running, hands.answered]
    rcases hands.pending waits with old | rfl
    · exact requests.pendingOnce old
    · refine ⟨fun runs => ?_, fun answered => ?_⟩
      · obtain ⟨asked, made⟩ := requests.requested (.inr (.inl runs))
        exact fresh asked made
      · obtain ⟨asked, made⟩ := requests.requested (.inr (.inr answered))
        exact fresh asked made
  runningOnce runs := by
    rw [hands.answered]
    exact requests.runningOnce (hands.running.mp runs)

/-- A request just handed over is neither running nor answered. -/
theorem idle (hands : Hands world other id request) (requests : world.Requests version)
    (fresh : ∀ asked, ¬ world.Requested id asked) : ¬ (other.Running id ∨ other.Answered id) := by
  rw [hands.running, hands.answered]
  intro known
  obtain ⟨asked, made⟩ := requests.requested (.inr known)
  exact fresh asked made

/-- A call that has handed its request over waits for the answer. -/
theorem calling {call next : SdCall F} (hands : Hands world other call.requestId call.request)
    (requests : world.Requests version) (calling : world.Calling version call)
    (unsent : call.Unsent) (id : next.requestId = call.requestId)
    (request : next.request = call.request) (sent : ¬ next.Unsent) :
    other.Calling version next where
  newest := by
    rw [id, hands.counted]
    exact calling.newest
  asked := by
    rw [id, request]
    exact calling.asked
  unsent unsent := absurd unsent sent
  sent _ := by
    -- Everything else about the request concerns later stages of it.
    have idle := hands.idle requests fun asked => calling.unsent unsent
    rw [← id] at idle
    refine ⟨?_, fun known => absurd known idle, fun _ known => absurd known idle,
      fun answered => absurd (.inr answered) idle, ?_⟩
    · rw [id, request]
      exact hands.requested.mpr (.inr ⟨rfl, rfl⟩)
    · intro before done between packet split answers
      exact absurd (.inr ⟨done, split ▸ by simp, packet, answers⟩) idle

end Hands

/-- A call hands its request over. -/
theorem Coherent.hand (coherent : world.Coherent version) {call next : SdCall F}
    {other : SdWorld F} (calls : world.call = some call) (unsent : call.Unsent)
    (hands : Hands world other call.requestId call.request)
    (signal : other.sdReadSignal = world.sdReadSignal) (calls' : other.call = some next)
    (id : next.requestId = call.requestId) (request : next.request = call.request)
    (sent : ¬ next.Unsent) : other.Coherent version where
  requests :=
    have calling := coherent.calling calls
    hands.requests coherent.requests calling.newest (fun asked => calling.unsent unsent)
      calling.asked
  answers waits := by
    rw [signal] at waits
    obtain ⟨packet, entry, same, member, published⟩ := coherent.answers waits
    exact ⟨packet, entry, same, hands.log ▸ List.mem_append_left _ member, published⟩
  calling calls'' := by
    cases calls'.symm.trans calls''
    exact hands.calling coherent.requests (coherent.calling calls) unsent id request sent
  returned member returns := by
    rw [hands.log] at member
    obtain ⟨asked, answer, made, reported⟩ :=
      coherent.returned (returns.old (by simp [SdRecord.Returns]) member) returns
    exact ⟨asked, answer, hands.requested.mpr (.inl made), reported⟩
  promises := by
    -- Handing over is no report, no look and no change.
    rw [hands.log]
    exact coherent.promises.concat_plain (by simp [SdRecord.Returns]) (by simp) (by simp)

/-- A call that does its next action keeps the board and the task coherent. -/
theorem Coherent.proceed (coherent : world.Coherent version) {call : SdCall F}
    (calls : world.call = some call) : (world.proceed version call).Coherent version := by
  -- The phases are the places of the source where the call gives way to the task.
  cases phase : call.phase with
  | resetting =>
    rw [SdWorld.proceed, phase]
    exact coherent.reset calls phase
  | signalling =>
    have sent : ¬ ({ call with phase := .starting } : SdCall F).Unsent := by simp [SdCall.Unsent]
    rw [SdWorld.proceed, phase]
    dsimp only
    -- Reads and writes differ only in the signal that takes the request.
    cases request : call.request with
    | read =>
      refine coherent.hand calls (.inr phase) ⟨?_, fun waits => .inl waits, rfl, rfl, ?_⟩ rfl rfl
        rfl ?_ sent
      · rintro pending ⟨⟩
        exact .inr ⟨rfl, request⟩
      · rw [request]
        rfl
      · exact request.symm
    | write params packet =>
      refine coherent.hand calls (.inr phase) ⟨fun waits => .inl waits, ?_, rfl, rfl, ?_⟩ rfl rfl
        rfl ?_ sent
      · rintro pending ⟨⟩
        have stamped := ((coherent.calling calls).asked request).1
        exact .inr ⟨params, packet, rfl, stamped, request⟩
      · rw [request]
        rfl
      · exact request.symm
  | starting =>
    rw [SdWorld.proceed, phase]
    exact coherent.wait calls (by simp [SdCall.Unsent, phase]) (by simp [SdCall.Unsent])
  | checking start =>
    have sent : ¬ call.Unsent := by simp [SdCall.Unsent, phase]
    rw [SdWorld.proceed, phase]
    dsimp only
    -- The call waits on while its time has not passed.
    split
    · exact coherent.wait calls sent (by simp [SdCall.Unsent])
    · rename_i late
      exact coherent.expire calls sent (Nat.not_lt.mp late)
  | taking start =>
    rw [SdWorld.proceed, phase]
    exact coherent.waitForSdResponse calls (by simp [SdCall.Unsent, phase]) start

end SdWorld

end Veloxity
