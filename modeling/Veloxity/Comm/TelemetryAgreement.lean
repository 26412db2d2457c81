import Veloxity.Comm.TelemetryDrain
import Veloxity.Library.Run

/-! Whether the batch of due telemetry streams and one stream at a time come to the same. -/

namespace Veloxity

namespace TelemetrySender

variable {F R : Type}

/-- Two senders will schedule their streams alike, whatever they have put on the link. -/
structure SameScheduling (sender other : TelemetrySender) : Prop where
  rates : other.telemetryRates = sender.telemetryRates
  heartbeat : other.lastHeartbeatUs = sender.lastHeartbeatUs
  status : other.lastStatusSendUs = sender.lastStatusSendUs
  count : other.outputRawImuCount = sender.outputRawImuCount
  periods : ∀ stream, other.telemetryRateState stream = sender.telemetryRateState stream
  freshness : ∀ stream, other.lastSent stream = sender.lastSent stream

/-- Sending one stream at a time until nothing is due ends, with the streams and the scheduling of
the batch. -/
def SendsAlike (batch one final : TelemetrySender) (nowUs : Nat) (sensors : ProcessedSensors F R) :
    Prop :=
  (∃ fuel count, one.runRealtimeTelemetryStageWithAvailableSlack (fun _ => true) nowUs sensors
      fuel = some (final, count)) ∧
    (∃ sentOne sentBatch, final.commLink = one.commLink ++ sentOne ∧
      (batch.sendNamedTelemetryStreams nowUs sensors).commLink = batch.commLink ++ sentBatch ∧
      ∀ stream, stream ∈ sentOne ↔ stream ∈ sentBatch) ∧
    SameScheduling (batch.sendNamedTelemetryStreams nowUs sensors) final

/-- At each of some instants both ways of sending end with the same streams and scheduling. -/
def AgreesAlong : TelemetrySender → TelemetrySender → List (Nat × ProcessedSensors F R) → Prop
  | _, _, [] => True
  | batch, one, (nowUs, sensors) :: rest =>
    ∃ final, SendsAlike batch one final nowUs sensors ∧
      AgreesAlong (batch.sendNamedTelemetryStreams nowUs sensors) final rest

/-- One instant of sending in batches. -/
def batchInstant (sender : TelemetrySender) (instant : Nat × ProcessedSensors F R) :
    TelemetrySender :=
  sender.sendNamedTelemetryStreams instant.1 instant.2

/-- An inertial sample is there that the raw outputs have not been sent for. -/
def FreshForOutputRaw (sender : TelemetrySender) (sensors : ProcessedSensors F R) : Prop :=
  (telemetryStreamSampleTimestamp .outputRaw sensors).isSome = true ∧
    sender.lastSent .outputRaw ≠ telemetryStreamSampleTimestamp .outputRaw sensors

instance (sender : TelemetrySender) (sensors : ProcessedSensors F R) :
    Decidable (sender.FreshForOutputRaw sensors) := inferInstanceAs (Decidable (_ ∧ _))

/-- The raw outputs go by count and the count lets them, or they go by rate and are not due. -/
def OutputRawByCount (sender : TelemetrySender) (nowUs : Nat) : Prop :=
  if sender.telemetryRates.hz .outputRaw = 0 then sender.outputRawDueByCount = true
  else sender.sampleDeadline .outputRaw nowUs = none

instance (sender : TelemetrySender) (nowUs : Nat) : Decidable (sender.OutputRawByCount nowUs) :=
  inferInstanceAs (Decidable (ite (_ = 0) (_ = true) (_ = none)))

/-- Start of the next period of a stream that is sent. -/
def nextPeriod (rates : TelemetryRates) (stream : NamedTelemetryStream) (nowUs periodUs : Nat) :
    Nat :=
  match stream with
  | .heartbeat | .status => periodUs
  | _ =>
    if stream = .outputRaw ∧ rates.hz .outputRaw = 0 then periodUs
    else (streamDue nowUs periodUs (rates.hz stream)).2

/-- Each of some streams has been sent once, apart from what is remembered of the raw outputs. -/
structure SentEach (before after : TelemetrySender) (sent : List NamedTelemetryStream)
    (nowUs : Nat) (sensors : ProcessedSensors F R) : Prop where
  link : after.commLink = before.commLink ++ sent
  rates : after.telemetryRates = before.telemetryRates
  heartbeat : after.lastHeartbeatUs = if .heartbeat ∈ sent then nowUs else before.lastHeartbeatUs
  status : after.lastStatusSendUs = if .status ∈ sent then nowUs else before.lastStatusSendUs
  periods : ∀ stream, after.telemetryRateState stream =
    if stream ∈ sent then
      nextPeriod before.telemetryRates stream nowUs (before.telemetryRateState stream)
    else before.telemetryRateState stream
  freshness : ∀ stream, stream ≠ .outputRaw → after.lastSent stream =
    if stream ∈ sent ∧ (telemetryStreamSampleTimestamp stream sensors).isSome then
      telemetryStreamSampleTimestamp stream sensors
    else before.lastSent stream

/-- What is remembered of the raw outputs stays as it is. -/
structure RawKept (before after : TelemetrySender) : Prop where
  lastSent : after.lastSent .outputRaw = before.lastSent .outputRaw
  count : after.outputRawImuCount = before.outputRawImuCount

section Steps

variable {sender : TelemetrySender} {nowUs : Nat} {sensors : ProcessedSensors F R}
  {stream : NamedTelemetryStream}

/-- Nothing sent changes nothing. -/
theorem SentEach.refl : SentEach sender sender [] nowUs sensors where
  -- No stream is in the empty list.
  link := (List.append_nil _).symm
  rates := rfl
  heartbeat := rfl
  status := rfl
  periods _ := rfl
  freshness _ _ := by simp

/-- Other streams sent afterwards are sent as if they were the first. -/
theorem SentEach.trans {middle after : TelemetrySender} {first second : List NamedTelemetryStream}
    (earlier : SentEach sender middle first nowUs sensors)
    (later : SentEach middle after second nowUs sensors)
    (apart : ∀ stream ∈ second, stream ∉ first) :
    SentEach sender after (first ++ second) nowUs sensors where
  -- The later sends start from what the earlier ones left, and touch other streams.
  link := by rw [later.link, earlier.link, List.append_assoc]
  rates := later.rates.trans earlier.rates
  heartbeat := by
    rw [later.heartbeat, earlier.heartbeat]
    by_cases sent : NamedTelemetryStream.heartbeat ∈ second <;> simp [sent]
  status := by
    rw [later.status, earlier.status]
    by_cases sent : NamedTelemetryStream.status ∈ second <;> simp [sent]
  periods stream := by
    rw [later.periods, earlier.periods, earlier.rates]
    by_cases sent : stream ∈ second
    · simp [sent, apart stream sent]
    · simp [sent]
  freshness stream other := by
    rw [later.freshness stream other, earlier.freshness stream other]
    by_cases sent : stream ∈ second
    · cases telemetryStreamSampleTimestamp stream sensors <;> simp [sent]
    · simp [sent]

/-- Streams that have not been sent keep their deadlines. -/
theorem SentEach.deadline_of_notMem {after : TelemetrySender} {sent : List NamedTelemetryStream}
    (effect : SentEach sender after sent nowUs sensors) (waiting : stream ∉ sent)
    (kept : stream = .outputRaw → RawKept sender after) :
    after.namedTelemetryStreamDeadline stream nowUs sensors =
      sender.namedTelemetryStreamDeadline stream nowUs sensors := by
  have periods := effect.periods stream
  rw [if_neg waiting] at periods
  have fresh : after.lastSent stream = sender.lastSent stream := by
    by_cases raw : stream = .outputRaw
    · rw [raw]
      exact (kept raw).lastSent
    · rw [effect.freshness stream raw, if_neg fun both => waiting both.1]
  have rated : after.sampleDeadline stream nowUs = sender.sampleDeadline stream nowUs := by
    -- Only the raw outputs look at the count.
    unfold sampleDeadline
    rw [effect.rates, periods]
    split
    · rename_i shared
      rw [outputRawDueByCount, outputRawDueByCount, effect.rates, (kept shared.1).count]
    · rfl
  cases stream with
  | heartbeat => simp only [namedTelemetryStreamDeadline, effect.heartbeat, if_neg waiting,
      effect.rates]
  | status => simp only [namedTelemetryStreamDeadline, effect.status, if_neg waiting, effect.rates]
  | _ => simp only [namedTelemetryStreamDeadline, fresh, rated]

/-- The effect of a send is that of sending one stream, if it starts the stream's next period. -/
theorem SendEffect.sentEach {after : TelemetrySender}
    (effect : SendEffect sender after stream nowUs (telemetryStreamSampleTimestamp stream sensors))
    (own : after.telemetryRateState stream =
      nextPeriod sender.telemetryRates stream nowUs (sender.telemetryRateState stream)) :
    SentEach sender after [stream] nowUs sensors where
  -- A single stream is its own list of streams.
  link := effect.link
  rates := effect.rates
  heartbeat := by simp [effect.heartbeat, eq_comm]
  status := by simp [effect.status, eq_comm]
  periods other := by
    simp only [List.mem_singleton]
    by_cases same : other = stream
    · rw [if_pos same, same, own]
    · rw [if_neg same, effect.periods other same]
  freshness other _ := by
    simp only [List.mem_singleton, effect.freshness other]
    by_cases same : other = stream
    · rw [same]
    · rw [if_neg fun both => same both.1, if_neg fun both => same both.1]

/-- A send of another stream keeps what is remembered of the raw outputs. -/
theorem SendEffect.rawKept {after : TelemetrySender} {timestamp : Option Nat}
    (effect : SendEffect sender after stream nowUs timestamp) (other : stream ≠ .outputRaw) :
    RawKept sender after where
  lastSent := by rw [effect.freshness, if_neg fun both => other both.1.symm]
  count := effect.count other

/-- The raw outputs that are due start their next period unless they go by count, and count and
remember the sample. -/
theorem sendSelected_outputRaw (due : sender.Due nowUs sensors .outputRaw) :
    ∃ asked timestamp,
      asked = (if sender.telemetryRates.hz .outputRaw = 0 then sender
        else (sender.takeDue .outputRaw nowUs).1) ∧
      telemetryStreamSampleTimestamp .outputRaw sensors = some timestamp ∧
      (sender.sendSelectedWithGate .outputRaw .dueDeadline nowUs sensors).1 =
        (({ asked with
            outputRawImuCount := (asked.outputRawImuCount + 1) % longWordSize } :
          TelemetrySender).transmit .outputRaw).markSent .outputRaw timestamp := by
  obtain ⟨timestamp, present, _, passed⟩ := due.sampled (by simp) (by simp)
  obtain ⟨sent, _⟩ := sendOutputRaw_effect timestamp passed
  have alive : sensors.imu.isSome = true := by
    simpa [telemetryStreamSampleTimestamp] using congrArg Option.isSome present
  refine ⟨_, timestamp, rfl, present, ?_⟩
  simp only [sendSelectedWithGate, sendStream, alive, if_true, sent, present]
  -- What was asked for was due, and went on the link.
  unfold sendOutputRaw at sent ⊢
  by_cases shared : sender.telemetryRates.hz .outputRaw = 0
  · simp only [shared, if_true] at sent ⊢
    split at sent
    · rename_i counted
      rw [if_pos counted]
    · cases sent
  · simp only [shared, if_false] at sent ⊢
    split at sent
    · rename_i asked
      rw [if_pos asked]
    · cases sent

/-- Sending a due stream starts its next period. -/
theorem sendSelected_period (due : sender.Due nowUs sensors stream) :
    (sender.sendSelectedWithGate stream .dueDeadline nowUs sensors).1.telemetryRateState stream =
      nextPeriod sender.telemetryRates stream nowUs (sender.telemetryRateState stream) := by
  by_cases notHeartbeat : stream = .heartbeat
  · subst notHeartbeat
    rfl
  by_cases notStatus : stream = .status
  · subst notStatus
    rfl
  by_cases raw : stream = .outputRaw
  · subst raw
    obtain ⟨asked, timestamp, rfl, _, sent⟩ := sendSelected_outputRaw due
    rw [sent]
    by_cases shared : sender.telemetryRates.hz .outputRaw = 0
    · simp [markSent, transmit, nextPeriod, shared]
    · simp [markSent, transmit, takeDue, nextPeriod, shared]
  · obtain ⟨timestamp, present, fresh, passed⟩ := due.sampled notHeartbeat notStatus
    rw [sendSelected_of_sampled notHeartbeat notStatus raw present fresh passed]
    -- Only the question whether the stream is due touches its period.
    cases stream <;> simp_all [markSent, transmit, takeDue, nextPeriod]

/-- What is remembered of the raw outputs once they have been sent on their own. -/
structure RawSent (before after : TelemetrySender) (sensors : ProcessedSensors F R) : Prop where
  lastSent : after.lastSent .outputRaw = telemetryStreamSampleTimestamp .outputRaw sensors
  count : after.outputRawImuCount = (before.outputRawImuCount + 1) % longWordSize

/-- Sending the raw outputs on their own counts the sample and remembers it. -/
theorem rawSent_sendSelected (due : sender.Due nowUs sensors .outputRaw) :
    RawSent sender (sender.sendSelectedWithGate .outputRaw .dueDeadline nowUs sensors).1
      sensors := by
  obtain ⟨asked, timestamp, rfl, present, sent⟩ := sendSelected_outputRaw due
  rw [sent]
  refine ⟨?_, ?_⟩
  · rw [present]
    simp [lastSent, markSent]
  · -- Asking whether they are due does not count.
    by_cases shared : sender.telemetryRates.hz .outputRaw = 0
    · simp [markSent, transmit, shared]
    · simp [markSent, transmit, takeDue, shared]

end Steps

section Drained

variable {sender : TelemetrySender} {nowUs : Nat} {sensors : ProcessedSensors F R}

/-- Streams that were due have been sent one at a time, and are no longer due. -/
structure Drained (sender after : TelemetrySender) (sent : List NamedTelemetryStream)
    (nowUs : Nat) (sensors : ProcessedSensors F R) : Prop where
  each : SentEach sender after sent nowUs sensors
  due : ∀ stream ∈ sent, sender.Due nowUs sensors stream
  spent : ∀ stream ∈ sent, ¬ after.Due nowUs sensors stream
  rawSent : .outputRaw ∈ sent → RawSent sender after sensors
  rawKept : .outputRaw ∉ sent → RawKept sender after

/-- Before anything is sent nothing has changed. -/
theorem Drained.refl : Drained sender sender [] nowUs sensors where
  -- No stream has been sent, so nothing is asked of any.
  each := .refl
  due _ sent := nomatch sent
  spent _ sent := nomatch sent
  rawSent sent := nomatch sent
  rawKept _ := ⟨rfl, rfl⟩

/-- A stream that is due after others were sent was due before them. -/
theorem Drained.due_of_due {middle : TelemetrySender} {sent : List NamedTelemetryStream}
    {stream : NamedTelemetryStream} (drained : Drained sender middle sent nowUs sensors)
    (waiting : stream ∉ sent) :
    middle.Due nowUs sensors stream ↔ sender.Due nowUs sensors stream := by
  -- What has been sent does not reach the others' deadlines.
  rw [Due, Due, drained.each.deadline_of_notMem waiting fun raw => drained.rawKept (raw ▸ waiting)]

/-- One more due stream may be sent. -/
theorem Drained.send {middle : TelemetrySender} {sent : List NamedTelemetryStream}
    {stream : NamedTelemetryStream} (drained : Drained sender middle sent nowUs sensors)
    (paced : Paced sender.telemetryRates) (due : middle.Due nowUs sensors stream) :
    Drained sender (middle.sendSelectedWithGate stream .dueDeadline nowUs sensors).1
      (sent ++ [stream]) nowUs sensors := by
  -- A stream that was sent is no longer due, so this one was not sent before.
  have waiting : stream ∉ sent := fun before => drained.spent stream before due
  have effect := (sendSelected_effect due).2
  have next := effect.sentEach (sendSelected_period due)
  have still : Paced middle.telemetryRates := by rw [drained.each.rates]; exact paced
  have raw (other : stream ≠ .outputRaw) := effect.rawKept other
  refine ⟨drained.each.trans next ?_, ?_, ?_, ?_, ?_⟩
  · intro other same
    rw [List.mem_singleton.mp same]
    exact waiting
  · intro other either
    rcases List.mem_append.mp either with before | now
    · exact drained.due other before
    · rw [List.mem_singleton.mp now]
      exact (drained.due_of_due waiting).mp due
  · intro other either
    rcases List.mem_append.mp either with before | now
    · -- Another stream does not become due again.
      have apart : other ≠ stream := fun same => waiting (same ▸ before)
      rw [Due, effect.deadline_of_ne apart]
      exact drained.spent other before
    · rw [List.mem_singleton.mp now]
      exact effect.not_due still due
  · -- The raw outputs keep a count of their own besides their period.
    intro either
    by_cases now : stream = .outputRaw
    · subst now
      have sentRaw := rawSent_sendSelected due
      exact ⟨sentRaw.lastSent, by rw [sentRaw.count, (drained.rawKept waiting).count]⟩
    · have before : .outputRaw ∈ sent := by
        rcases List.mem_append.mp either with before | same
        · exact before
        · exact absurd (List.mem_singleton.mp same).symm now
      have earlier := drained.rawSent before
      exact ⟨by rw [(raw now).lastSent, earlier.lastSent], by rw [(raw now).count, earlier.count]⟩
  · intro neither
    rw [List.mem_append, not_or, List.mem_singleton] at neither
    have earlier := drained.rawKept neither.1
    have kept := raw fun same => neither.2 same.symm
    exact ⟨kept.lastSent.trans earlier.lastSent, kept.count.trans earlier.count⟩

/-- A drain that ends has sent exactly the due streams. -/
theorem drained_of_ends (paced : Paced sender.telemetryRates) {fuel : Nat}
    {result : TelemetrySender × Nat}
    (ended : sender.runRealtimeTelemetryStageWithAvailableSlack (fun _ => true) nowUs sensors fuel =
      some result) :
    ∃ sent, Drained sender result.1 sent nowUs sensors ∧
      ∀ stream, stream ∈ sent ↔ sender.Due nowUs sensors stream := by
  -- Each repetition sends one more due stream, until none is left.
  refine Library.drainLoop_ends
    (fun state => ∃ sent, Drained sender state sent nowUs sensors)
    (fun state => ∃ sent, Drained sender state sent nowUs sensors ∧
      ∀ stream, stream ∈ sent ↔ sender.Due nowUs sensors stream) ?_ ?_ ⟨[], .refl⟩ ended
  · rintro round state ⟨sent, drained⟩ more
    simp only [drainStep, if_true, sendOneNamedTelemetryStream] at more ⊢
    cases selection : state.selectDueNamedTelemetryStream nowUs sensors with
    | none => rw [selection] at more; cases more
    | some stream => exact ⟨_, drained.send paced (due_of_select selection)⟩
  · rintro round state ⟨sent, drained⟩ idle
    simp only [drainStep, if_true] at idle ⊢
    have quiet (stream : NamedTelemetryStream) : ¬ state.Due nowUs sensors stream := fun due =>
      absurd ((sendOne_of_due due).symm.trans idle) (by decide)
    have same : (state.sendOneNamedTelemetryStream nowUs sensors).1 = state := by
      unfold sendOneNamedTelemetryStream at idle ⊢
      cases selection : state.selectDueNamedTelemetryStream nowUs sensors with
      | none => rfl
      | some stream => exact absurd (due_of_select selection) (quiet stream)
    rw [same]
    refine ⟨sent, drained, fun stream => ⟨drained.due stream, fun due => ?_⟩⟩
    by_contra waiting
    exact quiet stream ((drained.due_of_due waiting).mpr due)

end Drained

section Batch

variable {sender : TelemetrySender} {nowUs : Nat} {sensors : ProcessedSensors F R}

/-- The streams of the batch in their order. -/
def batchStreams : List NamedTelemetryStream :=
  [.heartbeat, .status, .imu, .attitude, .outputRaw, .diffPressure, .baro, .mag, .range, .battery,
    .gnss, .rc]

/-- What the batch does about one stream. -/
def batchStep (nowUs : Nat) (sensors : ProcessedSensors F R) (sender : TelemetrySender)
    (stream : NamedTelemetryStream) : TelemetrySender :=
  match stream with
  | .heartbeat =>
    if fixedRateDue nowUs sender.lastHeartbeatUs (sender.telemetryRates.hz .heartbeat) then
      { sender.transmit .heartbeat with lastHeartbeatUs := nowUs }
    else sender
  | .status =>
    if fixedRateDue nowUs sender.lastStatusSendUs (sender.telemetryRates.hz .status) then
      { sender.transmit .status with lastStatusSendUs := nowUs }
    else sender
  | stream => sender.sendFreshIfDue sensors nowUs stream

/-- The batch takes its streams one after another. -/
theorem sendNamedTelemetryStreams_eq (sender : TelemetrySender) (nowUs : Nat)
    (sensors : ProcessedSensors F R) :
    sender.sendNamedTelemetryStreams nowUs sensors =
      batchStreams.foldl (batchStep nowUs sensors) sender := rfl

/-- A fixed-rate stream is due exactly when it has a passed deadline. -/
theorem fixedRateDue_iff_deadline (nowUs lastUs rateHz : Nat) :
    fixedRateDue nowUs lastUs rateHz = (fixedRateDueDeadlineUs nowUs lastUs rateHz).isSome := by
  -- Both distinguish the same rates.
  unfold fixedRateDue fixedRateDueDeadlineUs
  split
  · rfl
  · split
    · rfl
    · dsimp only
      split
      · rename_i late
        exact decide_eq_true late
      · rename_i early
        exact decide_eq_false early

/-- A sampled stream without a sample is not due. -/
theorem not_due_of_missing {stream : NamedTelemetryStream} (notHeartbeat : stream ≠ .heartbeat)
    (notStatus : stream ≠ .status)
    (missing : telemetryStreamSampleTimestamp stream sensors = none) :
    ¬ sender.Due nowUs sensors stream := fun due => by
  obtain ⟨timestamp, present, _⟩ := due.sampled notHeartbeat notStatus
  exact nomatch missing.symm.trans present

/-- A sampled stream with a sample is due when the sample is new and the rate allows. -/
theorem due_iff_of_present {stream : NamedTelemetryStream} {timestamp : Nat}
    (notHeartbeat : stream ≠ .heartbeat) (notStatus : stream ≠ .status)
    (present : telemetryStreamSampleTimestamp stream sensors = some timestamp) :
    sender.Due nowUs sensors stream ↔ sender.lastSent stream ≠ some timestamp ∧
      (sender.sampleDeadline stream nowUs).isSome = true := by
  constructor
  · intro due
    obtain ⟨other, sampled, fresh, passed⟩ := due.sampled notHeartbeat notStatus
    obtain rfl : timestamp = other := Option.some.inj (present.symm.trans sampled)
    exact ⟨fresh, passed⟩
  · rintro ⟨fresh, passed⟩
    -- The deadline of a sampled stream is that of its rate.
    cases stream with
    | heartbeat => exact absurd rfl notHeartbeat
    | status => exact absurd rfl notStatus
    | _ => simpa [Due, namedTelemetryStreamDeadline, present, fresh] using passed

/-- Asking about a stream that is not due starts no period. -/
theorem takeDue_of_idle {stream : NamedTelemetryStream}
    (idle : (sender.takeDue stream nowUs).2 = false) :
    (sender.takeDue stream nowUs).1 = sender := by
  have kept (lastUs rateHz : Nat) (late : (streamDue nowUs lastUs rateHz).1 = false) :
      (streamDue nowUs lastUs rateHz).2 = lastUs := by
    unfold streamDue at late ⊢
    dsimp only at late ⊢
    split_ifs at late ⊢
    · rfl
    · rfl
  -- The old start of the period is put back.
  unfold takeDue at idle ⊢
  dsimp only at idle ⊢
  rw [kept _ _ idle, Function.update_eq_self]

/-- What the batch remembers of the raw outputs: it consumes every new sample when they go by
count, and else only those it sends. -/
structure BatchRaw (before after : TelemetrySender) (nowUs : Nat) (sensors : ProcessedSensors F R) :
    Prop where
  lastSent : after.lastSent .outputRaw =
    if before.FreshForOutputRaw sensors ∧ (before.telemetryRates.hz .outputRaw = 0 ∨
        before.Due nowUs sensors .outputRaw) then
      telemetryStreamSampleTimestamp .outputRaw sensors
    else before.lastSent .outputRaw
  count : after.outputRawImuCount =
    if before.FreshForOutputRaw sensors ∧ before.telemetryRates.hz .outputRaw = 0 then
      (before.outputRawImuCount + 1) % longWordSize
    else before.outputRawImuCount

/-- A sampled stream that does not go by count is sent by the batch exactly when it is due. -/
theorem sendFreshIfDue_eq {stream : NamedTelemetryStream} {timestamp : Nat}
    (notHeartbeat : stream ≠ .heartbeat) (notStatus : stream ≠ .status)
    (paced : ¬(stream = .outputRaw ∧ sender.telemetryRates.hz .outputRaw = 0))
    (present : telemetryStreamSampleTimestamp stream sensors = some timestamp) :
    sender.sendFreshIfDue sensors nowUs stream =
      if sender.Due nowUs sensors stream then
        ((sender.takeDue stream nowUs).1.transmit stream).markSent stream timestamp
      else sender := by
  have asks : (sender.takeDue stream nowUs).2 = (sender.sampleDeadline stream nowUs).isSome := by
    rw [takeDue, streamDue_iff_deadline, sampleDeadline, if_neg paced]
  simp only [sendFreshIfDue, present, if_neg paced]
  by_cases old : sender.lastSent stream = some timestamp
  · rw [if_pos old, if_neg]
    exact fun due => ((due_iff_of_present notHeartbeat notStatus present).mp due).1 old
  · rw [if_neg old, sendIfDue]
    -- The rate decides on a new sample.
    cases passed : (sender.sampleDeadline stream nowUs).isSome with
    | true =>
      rw [passed] at asks
      rw [if_pos asks, if_pos rfl,
        if_pos ((due_iff_of_present notHeartbeat notStatus present).mpr ⟨old, passed⟩)]
    | false =>
      rw [passed] at asks
      have idle : ¬ sender.Due nowUs sensors stream := fun due =>
        absurd (passed.symm.trans ((due_iff_of_present notHeartbeat notStatus present).mp due).2)
          Bool.false_ne_true
      rw [if_neg (by simp [asks]), if_neg (by simp [asks]), if_neg idle, takeDue_of_idle asks]

/-- The batch sends a stream exactly when it is due, and remembers the raw outputs in its way. -/
structure BatchEffect (before after : TelemetrySender) (stream : NamedTelemetryStream)
    (nowUs : Nat) (sensors : ProcessedSensors F R) : Prop where
  each : SentEach before after (if before.Due nowUs sensors stream then [stream] else []) nowUs
    sensors
  kept : stream ≠ .outputRaw → RawKept before after
  raw : stream = .outputRaw → BatchRaw before after nowUs sensors

/-- Of every stream but the raw outputs the batch does what a send on its own does. -/
theorem batchStep_of_other {stream : NamedTelemetryStream} (notRaw : stream ≠ .outputRaw) :
    batchStep nowUs sensors sender stream =
      if sender.Due nowUs sensors stream then
        (sender.sendSelectedWithGate stream .dueDeadline nowUs sensors).1
      else sender := by
  -- Heartbeat and status go by their own clocks, and every other stream by its sample.
  by_cases notHeartbeat : stream = .heartbeat
  · subst notHeartbeat
    simp only [batchStep, fixedRateDue_iff_deadline]
    rfl
  by_cases notStatus : stream = .status
  · subst notStatus
    simp only [batchStep, fixedRateDue_iff_deadline]
    rfl
  have sampled : batchStep nowUs sensors sender stream =
      sender.sendFreshIfDue sensors nowUs stream := by
    cases stream with
    | heartbeat => exact absurd rfl notHeartbeat
    | status => exact absurd rfl notStatus
    | _ => rfl
  rw [sampled]
  cases present : telemetryStreamSampleTimestamp stream sensors with
  | none =>
    rw [if_neg (not_due_of_missing notHeartbeat notStatus present)]
    simp only [sendFreshIfDue, present]
  | some timestamp =>
    rw [sendFreshIfDue_eq notHeartbeat notStatus (fun both => notRaw both.1) present]
    by_cases due : sender.Due nowUs sensors stream
    · obtain ⟨fresh, passed⟩ := (due_iff_of_present notHeartbeat notStatus present).mp due
      rw [if_pos due, if_pos due,
        sendSelected_of_sampled notHeartbeat notStatus notRaw present fresh passed]
    · rw [if_neg due, if_neg due]

/-- Raw outputs without a new sample are left alone. -/
theorem batchEffect_of_stale (stale : ¬ sender.FreshForOutputRaw sensors) :
    BatchEffect sender sender .outputRaw nowUs sensors where
  each := by
    -- A due stream of raw outputs would need a new sample.
    have idle : ¬ sender.Due nowUs sensors .outputRaw := fun due => by
      obtain ⟨timestamp, present, fresh, _⟩ := due.sampled (by simp) (by simp)
      exact stale ⟨by rw [present]; rfl, by rw [present]; exact fresh⟩
    rw [if_neg idle]
    exact .refl
  kept other := absurd rfl other
  raw _ := ⟨by rw [if_neg fun both => stale both.1], by rw [if_neg fun both => stale both.1]⟩

/-- Raw outputs that go by rate are sent when they are due, without being counted. -/
theorem batchEffect_of_rate {timestamp : Nat}
    (present : telemetryStreamSampleTimestamp .outputRaw sensors = some timestamp)
    (rated : sender.telemetryRates.hz .outputRaw ≠ 0) :
    BatchEffect sender (sender.sendFreshIfDue sensors nowUs .outputRaw) .outputRaw nowUs
      sensors := by
  -- With a period of their own the raw outputs are a stream like any other.
  rw [sendFreshIfDue_eq (by simp) (by simp) (fun both => rated both.2) present]
  by_cases due : sender.Due nowUs sensors .outputRaw
  · obtain ⟨fresh, _⟩ := (due_iff_of_present (by simp) (by simp) present).mp due
    have new : sender.FreshForOutputRaw sensors :=
      ⟨by rw [present]; rfl, by rw [present]; exact fresh⟩
    have effect : SendEffect sender
        (((sender.takeDue .outputRaw nowUs).1.transmit .outputRaw).markSent .outputRaw timestamp)
        .outputRaw nowUs (some timestamp) := sendEffect_of_sampled (by simp) (by simp)
    rw [← present] at effect
    rw [if_pos due]
    refine ⟨?_, fun other => absurd rfl other, fun _ => ⟨?_, ?_⟩⟩
    · rw [if_pos due]
      refine effect.sentEach ?_
      simp [markSent, transmit, takeDue, nextPeriod, rated]
    · rw [if_pos ⟨new, Or.inr due⟩, present]
      simp [lastSent, markSent]
    · rw [if_neg fun both => rated both.2]
      rfl
  · rw [if_neg due]
    refine ⟨?_, fun other => absurd rfl other, fun _ => ⟨?_, ?_⟩⟩
    · rw [if_neg due]
      exact .refl
    · rw [if_neg fun both => both.2.elim rated due]
    · rw [if_neg fun both => rated both.2]

/-- Raw outputs that go by count consume every new sample, and are sent when the count lets
them. -/
theorem batchEffect_of_count {timestamp : Nat}
    (present : telemetryStreamSampleTimestamp .outputRaw sensors = some timestamp)
    (fresh : sender.lastSent .outputRaw ≠ some timestamp)
    (shared : sender.telemetryRates.hz .outputRaw = 0) :
    BatchEffect sender (sender.sendFreshIfDue sensors nowUs .outputRaw) .outputRaw nowUs
      sensors := by
  have new : sender.FreshForOutputRaw sensors :=
    ⟨by rw [present]; rfl, by rw [present]; exact fresh⟩
  have counts : sender.Due nowUs sensors .outputRaw ↔ sender.outputRawDueByCount = true := by
    rw [due_iff_of_present (by simp) (by simp) present, sampleDeadline, if_pos ⟨rfl, shared⟩]
    cases sender.outputRawDueByCount <;> simp [fresh]
  simp only [sendFreshIfDue, present, if_neg fresh, shared, and_self, if_true]
  refine ⟨?_, fun other => absurd rfl other, fun _ => ⟨?_, ?_⟩⟩
  · cases counted : sender.outputRawDueByCount with
    | true =>
      rw [if_pos (counts.mpr counted), if_pos rfl]
      have effect : SendEffect sender
          (((({ sender with
              outputRawImuCount := (sender.outputRawImuCount + 1) % longWordSize } :
            TelemetrySender).transmit .outputRaw).markSent .outputRaw timestamp)) .outputRaw nowUs
          (some timestamp) := sendEffect_of_counted (Or.inl rfl)
      rw [← present] at effect
      refine effect.sentEach ?_
      simp [markSent, transmit, nextPeriod, shared]
    | false =>
      rw [if_neg fun due => absurd (counted.symm.trans (counts.mp due)) Bool.false_ne_true,
        if_neg Bool.false_ne_true]
      -- Only what is remembered of the raw outputs changes.
      refine ⟨(List.append_nil _).symm, rfl, rfl, rfl, fun _ => rfl, fun stream other => ?_⟩
      cases stream <;> simp_all [lastSent, markSent]
  · refine Eq.trans ?_ (if_pos ⟨new, Or.inl shared⟩).symm
    rw [present]
    cases sender.outputRawDueByCount <;> simp [lastSent, markSent]
  · refine Eq.trans ?_ (if_pos ⟨new, shared⟩).symm
    cases sender.outputRawDueByCount <;> rfl

/-- The batch deals with the raw outputs. -/
theorem batchEffect_outputRaw :
    BatchEffect sender (batchStep nowUs sensors sender .outputRaw) .outputRaw nowUs sensors := by
  show BatchEffect sender (sender.sendFreshIfDue sensors nowUs .outputRaw) .outputRaw nowUs sensors
  -- They are stale, go by rate or go by count.
  cases present : telemetryStreamSampleTimestamp .outputRaw sensors with
  | none =>
    have same : sender.sendFreshIfDue sensors nowUs .outputRaw = sender := by
      simp only [sendFreshIfDue, present]
    rw [same]
    exact batchEffect_of_stale fun new => by simp [FreshForOutputRaw, present] at new
  | some timestamp =>
    by_cases rated : sender.telemetryRates.hz .outputRaw ≠ 0
    · exact batchEffect_of_rate present rated
    by_cases fresh : sender.lastSent .outputRaw = some timestamp
    · have same : sender.sendFreshIfDue sensors nowUs .outputRaw = sender := by
        simp only [sendFreshIfDue, present, if_pos fresh]
      rw [same]
      exact batchEffect_of_stale fun new => new.2 (fresh.trans present.symm)
    · exact batchEffect_of_count present fresh (not_not.mp rated)

/-- The batch deals with every stream. -/
theorem batchEffect (stream : NamedTelemetryStream) :
    BatchEffect sender (batchStep nowUs sensors sender stream) stream nowUs sensors := by
  -- Only the raw outputs are treated apart from a single send.
  by_cases notRaw : stream = .outputRaw
  · rw [notRaw]
    exact batchEffect_outputRaw
  rw [batchStep_of_other notRaw]
  by_cases due : sender.Due nowUs sensors stream
  · have effect := (sendSelected_effect due).2
    refine ⟨?_, fun _ => ?_, fun raw => absurd raw notRaw⟩
    · rw [if_pos due, if_pos due]
      exact effect.sentEach (sendSelected_period due)
    · rw [if_pos due]
      exact effect.rawKept notRaw
  · refine ⟨?_, fun _ => ?_, fun raw => absurd raw notRaw⟩
    · rw [if_neg due, if_neg due]
      exact .refl
    · rw [if_neg due]
      exact ⟨rfl, rfl⟩

/-- What the batch does about one stream leaves whether another is due. -/
theorem BatchEffect.due_of_ne {after : TelemetrySender} {stream other : NamedTelemetryStream}
    (effect : BatchEffect sender after stream nowUs sensors) (differs : other ≠ stream) :
    after.Due nowUs sensors other ↔ sender.Due nowUs sensors other := by
  have waiting : other ∉ if sender.Due nowUs sensors stream then [stream] else [] := by
    split <;> simp [differs]
  -- The raw outputs are remembered apart.
  rw [Due, Due, effect.each.deadline_of_notMem waiting fun raw =>
    effect.kept fun same => differs (raw.trans same.symm)]

/-- What is remembered of the raw outputs is the same if they were left alone before. -/
theorem BatchRaw.of_kept {middle after : TelemetrySender} (kept : RawKept sender middle)
    (rates : middle.telemetryRates = sender.telemetryRates)
    (due : middle.Due nowUs sensors .outputRaw ↔ sender.Due nowUs sensors .outputRaw)
    (raw : BatchRaw middle after nowUs sensors) : BatchRaw sender after nowUs sensors := by
  have fresh : middle.FreshForOutputRaw sensors ↔ sender.FreshForOutputRaw sensors := by
    rw [FreshForOutputRaw, FreshForOutputRaw, kept.lastSent]
  -- Each condition reads what was kept.
  refine ⟨?_, ?_⟩
  · rw [raw.lastSent, kept.lastSent, rates]
    simp only [fresh, due]
  · rw [raw.count, kept.count, rates]
    simp only [fresh]

/-- The batch sends exactly the due streams among those it takes. -/
theorem batch_foldl (sender : TelemetrySender) (nowUs : Nat) (sensors : ProcessedSensors F R)
    {streams : List NamedTelemetryStream} (distinct : streams.Nodup) :
    ∃ sent, SentEach sender (streams.foldl (batchStep nowUs sensors) sender) sent nowUs sensors ∧
      (∀ stream, stream ∈ sent ↔ stream ∈ streams ∧ sender.Due nowUs sensors stream) ∧
      (.outputRaw ∉ streams →
        RawKept sender (streams.foldl (batchStep nowUs sensors) sender)) ∧
      (.outputRaw ∈ streams →
        BatchRaw sender (streams.foldl (batchStep nowUs sensors) sender) nowUs sensors) := by
  induction streams generalizing sender with
  | nil => exact ⟨[], .refl, fun _ => by simp, fun _ => ⟨rfl, rfl⟩, fun member => nomatch member⟩
  | cons stream rest ih =>
    obtain ⟨new, apart⟩ := List.nodup_cons.mp distinct
    have effect : BatchEffect sender (batchStep nowUs sensors sender stream) stream nowUs sensors :=
      batchEffect stream
    obtain ⟨sent, each, members, kept, raw⟩ := ih (batchStep nowUs sensors sender stream) apart
    have others (other : NamedTelemetryStream) (later : other ∈ rest) : other ≠ stream :=
      fun same => new (same ▸ later)
    refine ⟨_, effect.each.trans each ?_, ?_, ?_, ?_⟩
    · intro other later before
      have differs := others other ((members other).mp later).1
      revert before
      split <;> simp [differs]
    · intro other
      rw [List.mem_append, members, List.mem_cons]
      by_cases same : other = stream
      · subst same
        split <;> simp_all
      · rw [effect.due_of_ne same]
        split <;> simp [same]
    · -- The raw outputs are not among the streams at all.
      intro absent
      rw [List.mem_cons, not_or] at absent
      have before := effect.kept fun same => absent.1 same.symm
      have after := kept absent.2
      exact ⟨after.lastSent.trans before.lastSent, after.count.trans before.count⟩
    · intro present
      by_cases now : stream = .outputRaw
      · -- They come first, and nothing touches them afterwards.
        have before := effect.raw now
        have after := kept (now ▸ new)
        exact ⟨after.lastSent.trans before.lastSent, after.count.trans before.count⟩
      · have later : .outputRaw ∈ rest := by
          rcases List.mem_cons.mp present with same | later
          · exact absurd same.symm now
          · exact later
        exact .of_kept (effect.kept now) effect.each.rates
          (effect.due_of_ne fun same => now same.symm) (raw later)

/-- The batch sends exactly the due streams. -/
theorem batch_sends (sender : TelemetrySender) (nowUs : Nat) (sensors : ProcessedSensors F R) :
    ∃ sent, SentEach sender (sender.sendNamedTelemetryStreams nowUs sensors) sent nowUs sensors ∧
      (∀ stream, stream ∈ sent ↔ sender.Due nowUs sensors stream) ∧
      BatchRaw sender (sender.sendNamedTelemetryStreams nowUs sensors) nowUs sensors := by
  -- Every stream is taken, and none twice.
  have all (stream : NamedTelemetryStream) : stream ∈ batchStreams := by cases stream <;> decide
  have distinct : batchStreams.Nodup := by decide
  obtain ⟨sent, each, members, _, raw⟩ := batch_foldl sender nowUs sensors distinct
  exact ⟨sent, each, fun stream => by rw [members, and_iff_right (all stream)], raw (all _)⟩

end Batch

section Agreement

variable {sender : TelemetrySender} {nowUs : Nat} {sensors : ProcessedSensors F R}

/-- Raw outputs with a new sample are due when the count, or else the rate, lets them. -/
theorem due_outputRaw_iff (new : sender.FreshForOutputRaw sensors) :
    sender.Due nowUs sensors .outputRaw ↔
      if sender.telemetryRates.hz .outputRaw = 0 then sender.outputRawDueByCount = true
      else sender.sampleDeadline .outputRaw nowUs ≠ none := by
  obtain ⟨alive, fresh⟩ := new
  obtain ⟨timestamp, present⟩ := Option.isSome_iff_exists.mp alive
  rw [present] at fresh
  rw [due_iff_of_present (by simp) (by simp) present, and_iff_right fresh,
    ← Option.isSome_iff_ne_none]
  -- At rate zero the deadline is that of the count.
  split
  · rename_i shared
    rw [sampleDeadline, if_pos ⟨rfl, shared⟩]
    cases sender.outputRawDueByCount <;> simp
  · exact Iff.rfl

/-- Streams scheduled alike are due alike. -/
theorem SameScheduling.due_iff {other : TelemetrySender} (alike : SameScheduling sender other)
    (stream : NamedTelemetryStream) :
    other.Due nowUs sensors stream ↔ sender.Due nowUs sensors stream := by
  have rated : other.sampleDeadline stream nowUs = sender.sampleDeadline stream nowUs := by
    rw [sampleDeadline, sampleDeadline, outputRawDueByCount, outputRawDueByCount, alike.rates,
      alike.count, alike.periods]
  rw [Due, Due]
  -- A deadline reads nothing but the scheduling.
  cases stream with
  | heartbeat => simp only [namedTelemetryStreamDeadline, alike.heartbeat, alike.rates]
  | status => simp only [namedTelemetryStreamDeadline, alike.status, alike.rates]
  | _ => simp only [namedTelemetryStreamDeadline, alike.freshness, rated]

/-- Sent one at a time and in a batch, streams leave the same scheduling exactly when they leave the
same memory of the raw outputs. -/
theorem sameScheduling_iff_raw {other final : TelemetrySender} {one : List NamedTelemetryStream}
    (alike : SameScheduling sender other) (drained : Drained other final one nowUs sensors)
    (members : ∀ stream, stream ∈ one ↔ sender.Due nowUs sensors stream) :
    SameScheduling (sender.sendNamedTelemetryStreams nowUs sensors) final ↔
      final.lastSent .outputRaw =
          (sender.sendNamedTelemetryStreams nowUs sensors).lastSent .outputRaw ∧
        final.outputRawImuCount =
          (sender.sendNamedTelemetryStreams nowUs sensors).outputRawImuCount := by
  obtain ⟨sent, each, batchMembers, _⟩ := batch_sends sender nowUs sensors
  -- Both ways the same streams are sent, and only raw outputs remember more than that.
  have same (stream : NamedTelemetryStream) : stream ∈ one ↔ stream ∈ sent :=
    (members stream).trans (batchMembers stream).symm
  refine ⟨fun equal => ⟨equal.freshness .outputRaw, equal.count⟩, fun remembered => ?_⟩
  refine ⟨?_, ?_, ?_, remembered.2, fun stream => ?_, fun stream => ?_⟩
  · rw [drained.each.rates, each.rates, alike.rates]
  · simp only [drained.each.heartbeat, each.heartbeat, same, alike.heartbeat]
  · simp only [drained.each.status, each.status, same, alike.status]
  · simp only [drained.each.periods, each.periods, same, alike.rates, alike.periods]
  · by_cases raws : stream = .outputRaw
    · rw [raws]
      exact remembered.1
    · simp only [drained.each.freshness stream raws, each.freshness stream raws, same,
        alike.freshness]

/-- Sent one at a time and in a batch, streams leave the same scheduling exactly when a new
sample is one of those that the raw outputs are sent for by count, or not at all. -/
theorem sameScheduling_iff {other final : TelemetrySender} {one : List NamedTelemetryStream}
    (alike : SameScheduling sender other) (drained : Drained other final one nowUs sensors)
    (members : ∀ stream, stream ∈ one ↔ sender.Due nowUs sensors stream) :
    SameScheduling (sender.sendNamedTelemetryStreams nowUs sensors) final ↔
      (sender.FreshForOutputRaw sensors → sender.OutputRawByCount nowUs) := by
  obtain ⟨_, _, _, raw⟩ := batch_sends sender nowUs sensors
  have counted : (sender.outputRawImuCount + 1) % longWordSize ≠ sender.outputRawImuCount := by
    simp only [longWordSize]
    omega
  rw [sameScheduling_iff_raw alike drained members, raw.lastSent, raw.count, OutputRawByCount]
  by_cases new : sender.FreshForOutputRaw sensors
  · have due : sender.Due nowUs sensors .outputRaw ↔
        if sender.telemetryRates.hz .outputRaw = 0 then sender.outputRawDueByCount = true
        else sender.sampleDeadline .outputRaw nowUs ≠ none := due_outputRaw_iff new
    by_cases sentRaw : sender.Due nowUs sensors .outputRaw
    · -- One at a time the sample is always counted, and in the batch only if they go by count.
      have remembered := drained.rawSent ((members _).mpr sentRaw)
      rw [remembered.lastSent, remembered.count, alike.count]
      by_cases shared : sender.telemetryRates.hz .outputRaw = 0
      · rw [if_pos shared] at due
        simp [new, shared, due.mp sentRaw]
      · rw [if_neg shared] at due
        simp [new, shared, sentRaw, counted, due.mp sentRaw]
    · -- One at a time the sample is left alone, and in the batch unless they go by count.
      have remembered := drained.rawKept fun member => sentRaw ((members _).mp member)
      rw [remembered.lastSent, remembered.count, alike.freshness, alike.count]
      by_cases shared : sender.telemetryRates.hz .outputRaw = 0
      · rw [if_pos shared] at due
        have skipped : sender.outputRawDueByCount = false := by simpa using mt due.mpr sentRaw
        simp [new, shared, new.2, skipped]
      · rw [if_neg shared] at due
        have early : sender.sampleDeadline .outputRaw nowUs = none :=
          not_not.mp (mt due.mpr sentRaw)
        simp [new, shared, sentRaw, early]
  · have idle : .outputRaw ∉ one := fun member => by
      obtain ⟨timestamp, present, fresh, _⟩ := ((members _).mp member).sampled (by simp) (by simp)
      exact new ⟨by rw [present]; rfl, by rw [present]; exact fresh⟩
    have remembered := drained.rawKept idle
    rw [remembered.lastSent, remembered.count, alike.freshness, alike.count]
    simp [new]

/-- Rates fit in sixteen bits. -/
def Narrow (sender : TelemetrySender) : Prop :=
  ∀ stream, sender.telemetryRates.hz stream ≤ TELEMETRY_RATE_DISABLED

/-- Neither fixed-rate stream runs at rate zero, and of a new inertial sample the raw outputs are
sent by count or not at all. -/
def Unambiguous (sender : TelemetrySender) (instant : Nat × ProcessedSensors F R) : Prop :=
  sender.telemetryRates.hz .heartbeat ≠ 0 ∧ sender.telemetryRates.hz .status ≠ 0 ∧
    (sender.FreshForOutputRaw instant.2 → sender.OutputRawByCount instant.1)

/-- Positive fixed rates of sixteen bits are paced. -/
theorem Narrow.paced (narrow : sender.Narrow) (heartbeat : sender.telemetryRates.hz .heartbeat ≠ 0)
    (status : sender.telemetryRates.hz .status ≠ 0) : Paced sender.telemetryRates :=
  ⟨heartbeat, status, fun stream => (narrow stream).trans (by decide)⟩

/-- Both ways of sending agree only at an unambiguous instant. -/
theorem unambiguous_of_sendsAlike {one final : TelemetrySender} (narrow : sender.Narrow)
    (alike : SameScheduling sender one) (sends : SendsAlike sender one final nowUs sensors) :
    sender.Unambiguous (nowUs, sensors) := by
  obtain ⟨⟨fuel, count, ended⟩, _, equal⟩ := sends
  have positive : one.telemetryRates.hz .heartbeat ≠ 0 ∧ one.telemetryRates.hz .status ≠ 0 := by
    -- A rate of zero would leave every amount of fuel without a result.
    by_contra zero
    rw [drain_diverges_of_zero (by tauto)] at ended
    exact nomatch ended
  have heartbeat := positive.1
  have status := positive.2
  rw [alike.rates] at heartbeat status
  have paced := narrow.paced heartbeat status
  rw [← alike.rates] at paced
  obtain ⟨sent, drained, members⟩ := drained_of_ends paced ended
  exact ⟨heartbeat, status, (sameScheduling_iff alike drained fun stream =>
    (members stream).trans (alike.due_iff stream)).mp equal⟩

/-- At an unambiguous instant both ways of sending agree. -/
theorem sendsAlike_of_unambiguous {one : TelemetrySender} (narrow : sender.Narrow)
    (alike : SameScheduling sender one) (unambiguous : sender.Unambiguous (nowUs, sensors)) :
    ∃ final, SendsAlike sender one final nowUs sensors := by
  obtain ⟨heartbeat, status, raw⟩ := unambiguous
  have paced := narrow.paced heartbeat status
  rw [← alike.rates] at paced
  have drains : one.DrainsEachOnce nowUs sensors := drainsEachOnce_of_paced paced
  obtain ⟨fuel, final, taken, ended, _, _⟩ := drains fun _ => true
  obtain ⟨sentOne, drained, members⟩ := drained_of_ends paced ended
  obtain ⟨sentBatch, each, batchMembers, _⟩ := batch_sends sender nowUs sensors
  have due (stream : NamedTelemetryStream) : stream ∈ sentOne ↔ sender.Due nowUs sensors stream :=
    (members stream).trans (alike.due_iff stream)
  -- What is sent are the due streams in both cases.
  exact ⟨final, ⟨fuel, _, ended⟩, ⟨sentOne, sentBatch, drained.each.link, each.link, fun stream =>
    (due stream).trans (batchMembers stream).symm⟩, (sameScheduling_iff alike drained due).mpr raw⟩

/-- From senders scheduled alike, both ways of sending agree at every instant exactly when every
instant is unambiguous. -/
theorem agreesAlong_iff_of_alike {one : TelemetrySender} (narrow : sender.Narrow)
    (alike : SameScheduling sender one) (instants : List (Nat × ProcessedSensors F R)) :
    AgreesAlong sender one instants ↔ Library.Along Unambiguous batchInstant sender instants := by
  induction instants generalizing sender one with
  | nil => exact Iff.rfl
  | cons instant rest ih =>
    obtain ⟨nowUs, sensors⟩ := instant
    have still : (sender.batchInstant (nowUs, sensors)).Narrow := by
      obtain ⟨_, each, _, _⟩ := batch_sends sender nowUs sensors
      rw [Narrow, show (sender.batchInstant (nowUs, sensors)).telemetryRates =
        sender.telemetryRates from each.rates]
      exact narrow
    -- Agreement at the first instant leaves both scheduled alike for the rest.
    constructor
    · rintro ⟨final, sends, later⟩
      exact ⟨unambiguous_of_sendsAlike narrow alike sends, (ih still sends.2.2).mp later⟩
    · rintro ⟨unambiguous, later⟩
      obtain ⟨final, sends⟩ := sendsAlike_of_unambiguous narrow alike unambiguous
      exact ⟨final, sends, (ih still sends.2.2).mpr later⟩

/-- From equal senders, batches and single streams agree at every instant if and only if neither
fixed-rate stream runs at rate zero and every new inertial sample is one that the raw outputs are
sent for by count, or not at all. -/
theorem agreesAlong_iff (narrow : sender.Narrow) (instants : List (Nat × ProcessedSensors F R)) :
    AgreesAlong sender sender instants ↔
      Library.Along Unambiguous batchInstant sender instants :=
  agreesAlong_iff_of_alike narrow ⟨rfl, rfl, rfl, rfl, fun _ => rfl, fun _ => rfl⟩ instants

end Agreement

/-- A snapshot with an inertial sample alone. -/
def imuSnapshot (timestamp : Nat) : ProcessedSensors ℚ ℚ :=
  { imu := some
      { header := { timestamp }, accel := fun _ => 0, gyro := fun _ => 0, temperature := 0
        seq := 0 } }

/-- A new sender's rates fit in sixteen bits. -/
theorem narrow_new (nowUs : Nat) : (new nowUs).Narrow := by
  -- The upstream rates are at most ten hertz.
  intro stream
  show TelemetryRates.upstream.hz stream ≤ _
  cases stream <;> decide

/-- A new sender sends its first inertial sample alike in both ways. -/
theorem agreesAlong_first : AgreesAlong (new 0) (new 0) [(1000, imuSnapshot 1000)] := by
  -- The first sample is one that the raw outputs are sent for by count.
  refine (agreesAlong_iff (narrow_new 0) _).mpr ⟨⟨by decide, by decide, fun _ => ?_⟩, trivial⟩
  decide

/-- The second inertial sample is consumed by the batch alone. -/
theorem not_agreesAlong_second :
    ¬ AgreesAlong (new 0) (new 0) [(1000, imuSnapshot 1000), (3000, imuSnapshot 3000)] := by
  intro agrees
  have alike : SameScheduling (new 0) (new 0) :=
    ⟨rfl, rfl, rfl, rfl, fun _ => rfl, fun _ => rfl⟩
  obtain ⟨_, ⟨_, _, counted⟩, _⟩ := (agreesAlong_iff_of_alike (narrow_new 0) alike _).mp agrees
  -- Only every eighth sample is sent.
  revert counted
  decide

end TelemetrySender

end Veloxity
