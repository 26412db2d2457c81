import Mathlib.Data.Finset.Filter
import Mathlib.Data.Finset.Insert
import Veloxity.Comm.Telemetry
import Veloxity.Library.DrainLoop

/-! Draining the due telemetry streams in one go. -/

namespace Veloxity

open Library

variable {F R : Type}

/-- All streams. -/
def NamedTelemetryStream.all : Finset NamedTelemetryStream :=
  {.heartbeat, .status, .imu, .rc, .attitude, .outputRaw, .gnss, .diffPressure, .baro, .mag, .range,
    .battery}

/-- Every stream is among all streams. -/
theorem NamedTelemetryStream.mem_all (stream : NamedTelemetryStream) : stream ∈ all := by
  -- Each of the twelve is listed.
  cases stream <;> decide

/-- A sampled stream is due exactly when it has a passed deadline. -/
theorem streamDue_iff_deadline (nowUs lastUs rateHz : Nat) :
    (streamDue nowUs lastUs rateHz).1 = (streamDueDeadlineUs nowUs lastUs rateHz).isSome := by
  -- Both distinguish the same rates and periods.
  unfold streamDue streamDueDeadlineUs
  split
  · rfl
  · split
    · rfl
    · split
      · rfl
      · simp only
        split <;> rfl

/-- A fixed-rate stream with a positive rate is idle right after it was sent. -/
theorem fixedRateDueDeadlineUs_idle {rateHz : Nat} (positive : rateHz ≠ 0)
    (bounded : rateHz ≤ 1000000) (nowUs : Nat) :
    fixedRateDueDeadlineUs nowUs nowUs rateHz = none := by
  -- The interval is at least one microsecond, and none has passed.
  have interval : 0 < 1000000 / rateHz := Nat.div_pos bounded (by omega)
  unfold fixedRateDueDeadlineUs
  rw [if_neg positive]
  split
  · rfl
  · exact if_neg (by omega)

/-- A fixed-rate stream with rate zero is always due. -/
theorem fixedRateDueDeadlineUs_always (nowUs lastUs : Nat) :
    fixedRateDueDeadlineUs nowUs lastUs 0 = some nowUs := by
  -- Rate zero is not the disabled rate.
  rfl

/-- A rate is zero exactly when its parameter is the integer zero. -/
theorem telemetryRateParam_eq_zero_iff (params : Params F) (id : ParamId) :
    telemetryRateParam params id = 0 ↔ params.getById id = .int 0 := by
  -- A positive integer keeps a positive rate, and every other value disables the stream.
  unfold telemetryRateParam
  cases params.getById id with
  | int value =>
    simp only [ParamValue.int.injEq]
    split
    · rename_i negative
      simp only [TELEMETRY_RATE_DISABLED]
      omega
    · simp only [asU16, MAX_TELEMETRY_RATE_HZ]
      omega
  | float value => simp [TELEMETRY_RATE_DISABLED]
  | uint value => simp [TELEMETRY_RATE_DISABLED]
  | bool value => simp [TELEMETRY_RATE_DISABLED]

/-- A rate never exceeds the disabled rate. -/
theorem telemetryRateParam_le (params : Params F) (id : ParamId) :
    telemetryRateParam params id ≤ TELEMETRY_RATE_DISABLED := by
  -- A configured rate is at most two kilohertz.
  unfold telemetryRateParam
  split
  · split
    · exact Nat.le_refl _
    · simp only [asU16, MAX_TELEMETRY_RATE_HZ, TELEMETRY_RATE_DISABLED]
      omega
  · exact Nat.le_refl _

namespace TelemetrySender

/-- One repetition of the drain: send a stream, unless the slack test answers no; the test's
answer may differ from one repetition to the next. -/
def drainStep (canContinue : Nat → Bool) (nowUs : Nat) (sensors : ProcessedSensors F R)
    (round : Nat) (sender : TelemetrySender) : TelemetrySender × Bool :=
  if canContinue round then sender.sendOneNamedTelemetryStream nowUs sensors else (sender, false)

/-- Send due streams until nothing is due or the slack test answers no, counting them. -/
def runRealtimeTelemetryStageWithAvailableSlack (canContinue : Nat → Bool) (nowUs : Nat)
    (sensors : ProcessedSensors F R) (fuel : Nat) (sender : TelemetrySender) :
    Option (TelemetrySender × Nat) :=
  drainLoop (drainStep canContinue nowUs sensors) 0 fuel sender

/-- A stream has a passed deadline and something new to send. -/
def Due (sender : TelemetrySender) (nowUs : Nat) (sensors : ProcessedSensors F R)
    (stream : NamedTelemetryStream) : Prop :=
  (sender.namedTelemetryStreamDeadline stream nowUs sensors).isSome = true

instance (sender : TelemetrySender) (nowUs : Nat) (sensors : ProcessedSensors F R) :
    DecidablePred (sender.Due nowUs sensors) :=
  fun _ => inferInstanceAs (Decidable (_ = true))

/-- The due streams. -/
def dueStreams (sender : TelemetrySender) (nowUs : Nat) (sensors : ProcessedSensors F R) :
    Finset NamedTelemetryStream :=
  NamedTelemetryStream.all.filter (sender.Due nowUs sensors)

/-- A stream is among the due ones exactly when it is due. -/
theorem mem_dueStreams {sender : TelemetrySender} {nowUs : Nat} {sensors : ProcessedSensors F R}
    {stream : NamedTelemetryStream} :
    stream ∈ sender.dueStreams nowUs sensors ↔ sender.Due nowUs sensors stream := by
  -- The filter runs over all streams.
  simp [dueStreams, stream.mem_all]

section Selection

variable {sender : TelemetrySender} {nowUs : Nat} {sensors : ProcessedSensors F R}

/-- The selected stream is the one already selected or a due one among those considered. -/
theorem foldl_consider_some {streams : List NamedTelemetryStream}
    {initial : Option (NamedTelemetryStream × Nat)} {selected : NamedTelemetryStream × Nat}
    (folded : streams.foldl (sender.consider nowUs sensors) initial = some selected) :
    initial = some selected ∨ sender.Due nowUs sensors selected.1 := by
  -- Each considered stream is either skipped or takes over with its own deadline.
  induction streams generalizing initial with
  | nil => exact Or.inl folded
  | cons stream rest ih =>
    rcases ih folded with considered | due
    · unfold consider at considered
      split at considered
      · exact Or.inl considered
      · rename_i deadline passed
        have own : sender.Due nowUs sensors stream := by simp [Due, passed]
        split at considered
        · cases considered
          exact Or.inr own
        · split at considered
          · cases considered
            exact Or.inr own
          · exact Or.inl considered
    · exact Or.inr due

/-- Nothing is selected only if nothing considered is due. -/
theorem foldl_consider_none {streams : List NamedTelemetryStream}
    {initial : Option (NamedTelemetryStream × Nat)}
    (folded : streams.foldl (sender.consider nowUs sensors) initial = none) :
    initial = none ∧ ∀ stream ∈ streams, ¬ sender.Due nowUs sensors stream := by
  -- A due stream would leave something selected, which later streams only replace.
  induction streams generalizing initial with
  | nil => exact ⟨folded, by simp⟩
  | cons stream rest ih =>
    obtain ⟨considered, others⟩ := ih folded
    unfold consider at considered
    split at considered
    · rename_i idle
      refine ⟨considered, ?_⟩
      intro other member
      rcases List.mem_cons.mp member with rfl | later
      · simp [Due, idle]
      · exact others other later
    · split at considered
      · cases considered
      · split at considered <;> cases considered

/-- A due stream is considered. -/
theorem Due.considered {stream : NamedTelemetryStream} (due : sender.Due nowUs sensors stream) :
    stream ∈ consideredStreams sensors := by
  -- Apart from the two fixed-rate streams, being due takes a sample of the stream's sensor.
  unfold Due namedTelemetryStreamDeadline at due
  split at due
  · simp [consideredStreams]
  · simp [consideredStreams]
  · split at due
    · cases due
    · rename_i timestamp sampled
      cases stream <;> simp_all [telemetryStreamSampleTimestamp, consideredStreams] <;>
        obtain ⟨packet, present, -⟩ := sampled <;> simp [present]

/-- A selected stream is due. -/
theorem due_of_select {stream : NamedTelemetryStream}
    (selected : sender.selectDueNamedTelemetryStream nowUs sensors = some stream) :
    sender.Due nowUs sensors stream := by
  -- The selection starts with nothing selected.
  obtain ⟨⟨chosen, deadline⟩, folded, rfl⟩ := Option.map_eq_some_iff.mp selected
  rcases foldl_consider_some folded with absent | due
  · cases absent
  · exact due

/-- A due stream makes the selection find one. -/
theorem select_of_due {stream : NamedTelemetryStream} (due : sender.Due nowUs sensors stream) :
    ∃ selected, sender.selectDueNamedTelemetryStream nowUs sensors = some selected := by
  -- Otherwise nothing considered would be due.
  cases selection : sender.selectDueNamedTelemetryStream nowUs sensors with
  | some selected => exact ⟨selected, rfl⟩
  | none =>
    have folded := Option.map_eq_none_iff.mp selection
    exact absurd due ((foldl_consider_none folded).2 stream due.considered)

end Selection

/-- What sending one message of a stream changes, and what it leaves alone. -/
structure SendEffect (before after : TelemetrySender) (stream : NamedTelemetryStream)
    (nowUs : Nat) (timestamp : Option Nat) : Prop where
  link : after.commLink = before.commLink ++ [stream]
  rates : after.telemetryRates = before.telemetryRates
  heartbeat : after.lastHeartbeatUs = if stream = .heartbeat then nowUs else before.lastHeartbeatUs
  status : after.lastStatusSendUs = if stream = .status then nowUs else before.lastStatusSendUs
  periods : ∀ other, other ≠ stream →
    after.telemetryRateState other = before.telemetryRateState other
  count : stream ≠ .outputRaw → after.outputRawImuCount = before.outputRawImuCount
  freshness : ∀ other, after.lastSent other =
    if other = stream ∧ timestamp.isSome then timestamp else before.lastSent other

section Sending

variable {sender : TelemetrySender} {nowUs : Nat} {sensors : ProcessedSensors F R}
  {stream : NamedTelemetryStream}

/-- A due sampled stream has a sample it has not sent and a passed deadline. -/
theorem Due.sampled (due : sender.Due nowUs sensors stream) (notHeartbeat : stream ≠ .heartbeat)
    (notStatus : stream ≠ .status) :
    ∃ timestamp, telemetryStreamSampleTimestamp stream sensors = some timestamp ∧
      sender.lastSent stream ≠ some timestamp ∧ (sender.sampleDeadline stream nowUs).isSome := by
  -- The deadline of a sampled stream asks for the sample, then for news, then for the rate.
  unfold Due namedTelemetryStreamDeadline at due
  split at due
  · exact absurd rfl notHeartbeat
  · exact absurd rfl notStatus
  · split at due
    · cases due
    · rename_i timestamp present
      split at due
      · cases due
      · rename_i fresh
        exact ⟨timestamp, present, fresh, due⟩

/-- A stream whose deadline has passed is put on the link when it is asked for. -/
theorem sendIfDue_of_deadline (passed : (streamDueDeadlineUs nowUs
    (sender.telemetryRateState stream) (sender.telemetryRates.hz stream)).isSome) :
    sender.sendIfDue stream nowUs = ((sender.takeDue stream nowUs).1.transmit stream, true) := by
  -- The deadline and the question agree on what is due.
  have asked : (sender.takeDue stream nowUs).2 = true := by
    rw [takeDue, streamDue_iff_deadline]
    exact passed
  rw [sendIfDue, asked]
  rfl

/-- Putting a sampled stream on the link and remembering its sample has the effect of a send. -/
theorem sendEffect_of_sampled {timestamp : Nat} (notHeartbeat : stream ≠ .heartbeat)
    (notStatus : stream ≠ .status) :
    SendEffect sender (((sender.takeDue stream nowUs).1.transmit stream).markSent stream timestamp)
      stream nowUs (some timestamp) := by
  -- Only the stream's own period and freshness change.
  constructor
  case link => cases stream <;> rfl
  case rates => cases stream <;> rfl
  case heartbeat => rw [if_neg notHeartbeat]; cases stream <;> rfl
  case status => rw [if_neg notStatus]; cases stream <;> rfl
  case periods =>
    intro other differs
    cases stream <;> simp [markSent, transmit, takeDue, Function.update_of_ne differs]
  case count => intro _; cases stream <;> rfl
  case freshness =>
    intro other
    cases stream <;> cases other <;> simp_all [lastSent, markSent, transmit, takeDue]

/-- Counting an inertial sample, putting the raw outputs on the link and remembering the sample
has the effect of a send, whether or not a period was started. -/
theorem sendEffect_of_counted {asked : TelemetrySender} {timestamp : Nat}
    (same : asked = sender ∨ asked = (sender.takeDue .outputRaw nowUs).1) :
    SendEffect sender
      ((({ asked with outputRawImuCount := (asked.outputRawImuCount + 1) % longWordSize } :
        TelemetrySender).transmit .outputRaw).markSent .outputRaw timestamp) .outputRaw nowUs
      (some timestamp) := by
  -- Asking about the period touches nothing but the period of the raw outputs.
  constructor
  case link => rcases same with rfl | rfl <;> rfl
  case rates => rcases same with rfl | rfl <;> rfl
  case heartbeat => rcases same with rfl | rfl <;> rfl
  case status => rcases same with rfl | rfl <;> rfl
  case periods =>
    intro other differs
    rcases same with rfl | rfl
    · rfl
    · exact Function.update_of_ne differs _ _
  case count => exact fun differs => absurd rfl differs
  case freshness =>
    intro other
    rcases same with rfl | rfl <;> cases other <;> simp [lastSent, markSent, transmit, takeDue]

/-- The raw outputs are put on the link when their deadline has passed. -/
theorem sendOutputRaw_effect (timestamp : Nat)
    (passed : (sender.sampleDeadline .outputRaw nowUs).isSome) :
    (sender.sendOutputRaw nowUs).2 = true ∧
      SendEffect sender ((sender.sendOutputRaw nowUs).1.markSent .outputRaw timestamp) .outputRaw
        nowUs (some timestamp) := by
  unfold sendOutputRaw
  by_cases shared : sender.telemetryRates.hz .outputRaw = 0
  · -- At rate zero the count decides, and no period is started.
    have due : sender.outputRawDueByCount = true := by
      by_contra idle
      simp [sampleDeadline, shared, idle] at passed
    simp only [shared, ↓reduceIte, due]
    exact ⟨trivial, sendEffect_of_counted (Or.inl rfl)⟩
  · -- Otherwise the raw outputs have a period of their own.
    have asked : (sender.takeDue .outputRaw nowUs).2 = true := by
      rw [takeDue, streamDue_iff_deadline]
      simpa [sampleDeadline, shared] using passed
    simp only [shared, ↓reduceIte, asked]
    exact ⟨trivial, sendEffect_of_counted (Or.inr rfl)⟩

/-- A due sampled stream starts its next period, goes on the link and has its sample remembered. -/
theorem sendSelected_of_sampled {timestamp : Nat} (notHeartbeat : stream ≠ .heartbeat)
    (notStatus : stream ≠ .status) (notRaw : stream ≠ .outputRaw)
    (present : telemetryStreamSampleTimestamp stream sensors = some timestamp)
    (fresh : sender.lastSent stream ≠ some timestamp)
    (passed : (sender.sampleDeadline stream nowUs).isSome) :
    sender.sendSelectedWithGate stream .dueDeadline nowUs sensors =
      (((sender.takeDue stream nowUs).1.transmit stream).markSent stream timestamp, true) := by
  have sending : sender.sendStream stream .dueDeadline nowUs sensors =
      ((sender.takeDue stream nowUs).1.transmit stream, true) := by
    rw [← sendIfDue_of_deadline (by simpa [sampleDeadline, notRaw] using passed)]
    cases stream with
    | heartbeat => exact absurd rfl notHeartbeat
    | status => exact absurd rfl notStatus
    | outputRaw => exact absurd rfl notRaw
    | imu =>
      obtain ⟨packet, alive, rfl⟩ := Option.map_eq_some_iff.mp present
      simp [sendStream, sendImuIfDue, alive, fresh]
    | _ => simp [sendStream, present]
  -- Whatever was sent has its sample remembered.
  simp only [sendSelectedWithGate, sending, present]

/-- Sending a due stream succeeds, with the effect of a send. -/
theorem sendSelected_effect (due : sender.Due nowUs sensors stream) :
    (sender.sendSelectedWithGate stream .dueDeadline nowUs sensors).2 = true ∧
      SendEffect sender (sender.sendSelectedWithGate stream .dueDeadline nowUs sensors).1 stream
        nowUs (telemetryStreamSampleTimestamp stream sensors) := by
  by_cases notHeartbeat : stream = .heartbeat
  · -- A heartbeat moves only its own clock.
    subst notHeartbeat
    exact ⟨rfl, ⟨rfl, rfl, rfl, rfl, fun _ _ => rfl, fun _ => rfl, fun other => by
      simp [telemetryStreamSampleTimestamp, sendSelectedWithGate, sendStream, transmit, lastSent]⟩⟩
  by_cases notStatus : stream = .status
  · -- So does a status report.
    subst notStatus
    exact ⟨rfl, ⟨rfl, rfl, rfl, rfl, fun _ _ => rfl, fun _ => rfl, fun other => by
      simp [telemetryStreamSampleTimestamp, sendSelectedWithGate, sendStream, transmit, lastSent]⟩⟩
  obtain ⟨timestamp, present, fresh, passed⟩ := due.sampled notHeartbeat notStatus
  by_cases raw : stream = .outputRaw
  · subst raw
    obtain ⟨sent, effect⟩ := sendOutputRaw_effect timestamp passed
    have alive : sensors.imu.isSome = true := by
      simpa [telemetryStreamSampleTimestamp] using congrArg Option.isSome present
    simp only [sendSelectedWithGate, sendStream, alive, ↓reduceIte, sent, present]
    exact ⟨trivial, effect⟩
  · -- Every other stream has a sample to send and a period to start.
    rw [sendSelected_of_sampled notHeartbeat notStatus raw present fresh passed, present]
    exact ⟨rfl, sendEffect_of_sampled notHeartbeat notStatus⟩

/-- A send leaves the deadline of every other stream as it was. -/
theorem SendEffect.deadline_of_ne {next : TelemetrySender} {timestamp : Option Nat}
    {other : NamedTelemetryStream} (effect : SendEffect sender next stream nowUs timestamp)
    (differs : other ≠ stream) :
    next.namedTelemetryStreamDeadline other nowUs sensors =
      sender.namedTelemetryStreamDeadline other nowUs sensors := by
  have fresh : next.lastSent other = sender.lastSent other := by
    rw [effect.freshness, if_neg fun same => differs same.1]
  have rated : next.sampleDeadline other nowUs = sender.sampleDeadline other nowUs := by
    -- Only the raw outputs look at the count, which no other stream moves.
    unfold sampleDeadline
    rw [effect.rates, effect.periods other differs]
    split
    · rename_i shared
      have kept := effect.count fun same => differs (shared.1.trans same.symm)
      rw [outputRawDueByCount, outputRawDueByCount, effect.rates, kept]
    · rfl
  cases other with
  | heartbeat =>
    simp only [namedTelemetryStreamDeadline, effect.heartbeat, if_neg differs.symm, effect.rates]
  | status =>
    simp only [namedTelemetryStreamDeadline, effect.status, if_neg differs.symm, effect.rates]
  | _ => simp only [namedTelemetryStreamDeadline, fresh, rated]

/-- Neither fixed-rate stream runs at rate zero, and every rate leaves an interval. -/
structure Paced (rates : TelemetryRates) : Prop where
  heartbeat : rates.hz .heartbeat ≠ 0
  status : rates.hz .status ≠ 0
  bounded : ∀ stream, rates.hz stream ≤ 1000000

/-- A stream that has just been sent is no longer due at a positive rate. -/
theorem SendEffect.not_due {next : TelemetrySender} (paced : Paced sender.telemetryRates)
    (due : sender.Due nowUs sensors stream)
    (effect : SendEffect sender next stream nowUs
      (telemetryStreamSampleTimestamp stream sensors)) :
    ¬ next.Due nowUs sensors stream := by
  by_cases notHeartbeat : stream = .heartbeat
  · -- The heartbeat's period starts at the clock it was sent at.
    subst notHeartbeat
    simp [Due, namedTelemetryStreamDeadline, effect.heartbeat, effect.rates,
      fixedRateDueDeadlineUs_idle paced.heartbeat (paced.bounded _)]
  by_cases notStatus : stream = .status
  · subst notStatus
    simp [Due, namedTelemetryStreamDeadline, effect.status, effect.rates,
      fixedRateDueDeadlineUs_idle paced.status (paced.bounded _)]
  · -- A sampled stream has nothing new to send until the sample changes.
    intro again
    obtain ⟨timestamp, present, -, -⟩ := due.sampled notHeartbeat notStatus
    obtain ⟨other, sampled, fresh, -⟩ := again.sampled notHeartbeat notStatus
    apply fresh
    rw [effect.freshness, present]
    simpa [present] using sampled

/-- Sending a due stream takes exactly that stream out of the due ones. -/
theorem SendEffect.dueStreams_eq_erase {next : TelemetrySender}
    (paced : Paced sender.telemetryRates) (due : sender.Due nowUs sensors stream)
    (effect : SendEffect sender next stream nowUs
      (telemetryStreamSampleTimestamp stream sensors)) :
    next.dueStreams nowUs sensors = (sender.dueStreams nowUs sensors).erase stream := by
  ext other
  rw [Finset.mem_erase, mem_dueStreams, mem_dueStreams]
  -- The stream just sent is no longer due, and the deadlines of all others stay.
  by_cases same : other = stream
  · subst same
    exact iff_of_false (effect.not_due paced due) fun waiting => waiting.1 rfl
  · rw [Due, effect.deadline_of_ne same]
    exact ⟨fun waiting => ⟨same, waiting⟩, fun waiting => waiting.2⟩

/-- A successful call of the sender sent a due stream. -/
theorem sendOne_effect (sent : (sender.sendOneNamedTelemetryStream nowUs sensors).2 = true) :
    ∃ stream, sender.Due nowUs sensors stream ∧
      SendEffect sender (sender.sendOneNamedTelemetryStream nowUs sensors).1 stream nowUs
        (telemetryStreamSampleTimestamp stream sensors) := by
  -- The selection found the stream that was sent.
  unfold sendOneNamedTelemetryStream at sent ⊢
  cases selection : sender.selectDueNamedTelemetryStream nowUs sensors with
  | none =>
    rw [selection] at sent
    cases sent
  | some stream =>
    have due := due_of_select selection
    exact ⟨stream, due, (sendSelected_effect due).2⟩

/-- A due stream makes a call of the sender succeed. -/
theorem sendOne_of_due (due : sender.Due nowUs sensors stream) :
    (sender.sendOneNamedTelemetryStream nowUs sensors).2 = true := by
  -- Whatever was selected is due itself, so that sending it succeeds.
  obtain ⟨selected, selection⟩ := select_of_due due
  simp only [sendOneNamedTelemetryStream, selection]
  exact (sendSelected_effect (due_of_select selection)).1

/-- A call of the sender never changes the rates. -/
theorem sendOne_rates :
    (sender.sendOneNamedTelemetryStream nowUs sensors).1.telemetryRates =
      sender.telemetryRates := by
  cases sent : (sender.sendOneNamedTelemetryStream nowUs sensors).2 with
  | true =>
    obtain ⟨stream, -, effect⟩ := sendOne_effect sent
    exact effect.rates
  | false =>
    -- An unsuccessful call selected nothing and left the sender alone.
    unfold sendOneNamedTelemetryStream at sent ⊢
    cases selection : sender.selectDueNamedTelemetryStream nowUs sensors with
    | none => rfl
    | some stream =>
      rw [selection] at sent
      have succeeded := (sendSelected_effect (due_of_select selection)).1
      exact absurd (succeeded.symm.trans sent) (by decide)

/-- An unsuccessful call of the sender puts nothing on the link. -/
theorem sendOne_quiet (idle : (sender.sendOneNamedTelemetryStream nowUs sensors).2 = false) :
    (sender.sendOneNamedTelemetryStream nowUs sensors).1.commLink = sender.commLink := by
  unfold sendOneNamedTelemetryStream at idle ⊢
  -- A selected stream is due, and sending a due stream succeeds.
  cases selection : sender.selectDueNamedTelemetryStream nowUs sensors with
  | none => rfl
  | some stream =>
    rw [selection] at idle
    have succeeded := (sendSelected_effect (due_of_select selection)).1
    exact absurd (succeeded.symm.trans idle) (by decide)

end Sending

/-- Whatever the slack test answers, the drain stops after sending each stream at most once. -/
def DrainsEachOnce (sender : TelemetrySender) (nowUs : Nat) (sensors : ProcessedSensors F R) :
    Prop :=
  ∀ canContinue : Nat → Bool, ∃ fuel final sent,
    sender.runRealtimeTelemetryStageWithAvailableSlack canContinue nowUs sensors fuel =
        some (final, sent.length) ∧
      final.commLink = sender.commLink ++ sent ∧ sent.Nodup

section Drain

variable {sender : TelemetrySender} {nowUs : Nat} {sensors : ProcessedSensors F R}

/-- A repetition that sends takes one due stream out of the due ones. -/
theorem drainStep_takes (canContinue : Nat → Bool) (round : Nat)
    (paced : Paced sender.telemetryRates)
    (sent : (drainStep canContinue nowUs sensors round sender).2 = true) :
    Paced (drainStep canContinue nowUs sensors round sender).1.telemetryRates ∧
      ∃ stream ∈ sender.dueStreams nowUs sensors,
        (drainStep canContinue nowUs sensors round sender).1.dueStreams nowUs sensors =
            (sender.dueStreams nowUs sensors).erase stream ∧
          (drainStep canContinue nowUs sensors round sender).1.commLink =
            sender.commLink ++ [stream] := by
  cases slack : canContinue round with
  | false => simp [drainStep, slack] at sent
  | true =>
    simp only [drainStep, slack, ↓reduceIte] at sent ⊢
    -- The sender chose a due stream, and its send has the effect of a send.
    obtain ⟨stream, due, effect⟩ := sendOne_effect sent
    refine ⟨?_, stream, mem_dueStreams.mpr due, effect.dueStreams_eq_erase paced due, effect.link⟩
    rw [sendOne_rates]
    exact paced

/-- A repetition that does not send puts nothing on the link. -/
theorem drainStep_quiet (canContinue : Nat → Bool) (round : Nat)
    (idle : (drainStep canContinue nowUs sensors round sender).2 = false) :
    (drainStep canContinue nowUs sensors round sender).1.commLink = sender.commLink := by
  -- Without slack nothing is tried.
  cases slack : canContinue round with
  | false => simp [drainStep, slack]
  | true =>
    simp only [drainStep, slack, ↓reduceIte] at idle ⊢
    exact sendOne_quiet idle

/-- At positive fixed rates the drain stops after sending each stream at most once. -/
theorem drainsEachOnce_of_paced (paced : Paced sender.telemetryRates) :
    sender.DrainsEachOnce nowUs sensors := by
  -- The due streams shrink with each send, and the rates stay as they are.
  intro canContinue
  obtain ⟨final, sent, stopped, extended, distinct, -⟩ := drainLoop_takes_each_once
    (fun state => Paced state.telemetryRates) (fun state => state.dueStreams nowUs sensors)
    commLink (fun round _ _ => drainStep_quiet canContinue round)
    (fun round _ => drainStep_takes canContinue round)
    ((sender.dueStreams nowUs sensors).card + 1) 0 paced (Nat.lt_succ_self _)
  exact ⟨_, final, sent, stopped, extended, distinct⟩

/-- A fixed-rate stream at rate zero keeps the drain going for ever while there is slack. -/
theorem drain_diverges_of_zero
    (zero : sender.telemetryRates.hz .heartbeat = 0 ∨ sender.telemetryRates.hz .status = 0)
    (fuel : Nat) :
    sender.runRealtimeTelemetryStageWithAvailableSlack (fun _ => true) nowUs sensors fuel =
      none := by
  -- The stream at rate zero is due again as soon as it was sent.
  refine drainLoop_diverges (fun state => state.telemetryRates = sender.telemetryRates) ?_ fuel 0
    rfl
  intro round state kept
  have due : ∃ stream, state.Due nowUs sensors stream := by
    rcases zero with zero | zero
    · exact ⟨.heartbeat, by simp [Due, namedTelemetryStreamDeadline, kept, zero,
        fixedRateDueDeadlineUs_always]⟩
    · exact ⟨.status, by simp [Due, namedTelemetryStreamDeadline, kept, zero,
        fixedRateDueDeadlineUs_always]⟩
  obtain ⟨stream, due⟩ := due
  exact ⟨sendOne_of_due due, sendOne_rates.trans kept⟩

/-- With rates from the parameters, the drain of due streams at a fixed clock and fixed samples
stops after at most one send for each stream exactly when neither fixed-rate parameter is zero. -/
theorem drainsEachOnce_iff {params : Params F}
    (configured : sender.telemetryRates = .fromParams params) :
    sender.DrainsEachOnce nowUs sensors ↔
      params.getById .PARAM_TELEM_HEARTBEAT_HZ ≠ .int 0 ∧
        params.getById .PARAM_TELEM_STATUS_HZ ≠ .int 0 := by
  have heartbeat : sender.telemetryRates.hz .heartbeat = 0 ↔
      params.getById .PARAM_TELEM_HEARTBEAT_HZ = .int 0 := by
    rw [configured]
    exact telemetryRateParam_eq_zero_iff params _
  have status : sender.telemetryRates.hz .status = 0 ↔
      params.getById .PARAM_TELEM_STATUS_HZ = .int 0 := by
    rw [configured]
    exact telemetryRateParam_eq_zero_iff params _
  rw [ne_eq, ne_eq, ← heartbeat, ← status]
  constructor
  · -- A rate of zero would leave every amount of fuel without a result.
    intro drains
    by_contra zero
    obtain ⟨fuel, final, sent, stopped, -⟩ := drains fun _ => true
    rw [drain_diverges_of_zero (by tauto)] at stopped
    cases stopped
  · rintro ⟨beats, reports⟩
    refine drainsEachOnce_of_paced ⟨beats, reports, fun stream => ?_⟩
    rw [configured]
    exact (telemetryRateParam_le params _).trans (by decide)

end Drain

/-- A battery sample and a packet of radio channels, both taken after one millisecond. -/
def earlySamples : ProcessedSensors ℚ ℚ where
  battery := some { header := { timestamp := 1000, status := 0 }, voltage := 12, current := 1 }
  rc := some { header := { timestamp := 1000, status := 0 }, nChan := 0, chan _ := 0, lol := false }

/-- With the default parameters and two samples, the drain two seconds after the start sends four
streams and stops. -/
theorem drainsEachOnce_iff_default :
    let sender := (new 0).configureTelemetryFromParams (Params.new : Params ℚ)
    sender.DrainsEachOnce 2000000 earlySamples ∧
      (sender.runRealtimeTelemetryStageWithAvailableSlack (fun _ => true) 2000000 earlySamples
          5).map (fun result => (result.1.commLink, result.2)) =
        some ([.rc, .battery, .status, .heartbeat], 4) := by
  -- The default fixed rates are one and ten hertz.
  refine ⟨(drainsEachOnce_iff rfl).mpr ⟨?_, ?_⟩, ?_⟩
  · simp [Params.new, Params.getById, ParamId.default]
  · simp [Params.new, Params.getById, ParamId.default]
  · decide +kernel

/-- Default parameters with a heartbeat rate of zero. -/
def heartbeatZero : Params ℚ := Params.new.setById .PARAM_TELEM_HEARTBEAT_HZ (.int 0)

/-- With the heartbeat rate at zero and no samples the drain never stops. -/
theorem heartbeatZero_not_drainsEachOnce :
    ¬ ((new 0).configureTelemetryFromParams heartbeatZero).DrainsEachOnce 0
      ({} : ProcessedSensors ℚ ℚ) := by
  -- With slack all along, no amount of fuel is enough.
  intro drains
  obtain ⟨fuel, final, sent, stopped, -⟩ := drains fun _ => true
  have zero : ((new 0).configureTelemetryFromParams heartbeatZero).telemetryRates.hz .heartbeat =
      0 := (telemetryRateParam_eq_zero_iff heartbeatZero .PARAM_TELEM_HEARTBEAT_HZ).mpr
    (Params.getById_setById_self _ _ _)
  rw [drain_diverges_of_zero (Or.inl zero)] at stopped
  cases stopped

end TelemetrySender

end Veloxity
