import Veloxity.Comm.TelemetryAgreement

/-! The passes that send due telemetry, and what each of them puts on the link. -/

namespace Veloxity

/-- A reading of the microsecond clock, which fits its word. -/
abbrev ClockReading := Fin longWordSize

/-- A way of sending due streams in one pass: the batch, the batch unless nothing is due, or one
stream at a time, with prioritised streams first. -/
inductive TelemetryService where
  | batch (nowUs : ClockReading)
  | stage (nowUs : ClockReading)
  | realtime (priorities : List (NamedTelemetryStream × ClockReading))
      (opportunities : List ClockReading)

/-- The clocks a pass may read. -/
def TelemetryService.readings : TelemetryService → List ClockReading
  | .batch nowUs => [nowUs]
  | .stage nowUs => [nowUs]
  | .realtime priorities opportunities => priorities.map Prod.snd ++ opportunities

/-- The sender a pass leaves, the streams it put on the link with the clock each was sent at, and
whether it went on until nothing was due. -/
structure PassOutcome where
  sender : TelemetrySender
  sends : List (NamedTelemetryStream × ClockReading)
  complete : Bool

namespace TelemetrySender

variable {F R : Type}

/-- Streams put on the link between two senders, all at one clock. -/
def sentSince (before after : TelemetrySender) (nowUs : ClockReading) :
    List (NamedTelemetryStream × ClockReading) :=
  (after.commLink.drop before.commLink.length).map fun stream => (stream, nowUs)

/-- Send the prioritised streams that are due, each at a clock of its own. -/
def sendPrioritized (sensors : ProcessedSensors F R) :
    List (NamedTelemetryStream × ClockReading) → TelemetrySender →
      TelemetrySender × List (NamedTelemetryStream × ClockReading)
  | [], sender => (sender, [])
  | (stream, nowUs) :: later, sender =>
    let asked := (sender.sendNamedTelemetryStreamIfDue stream nowUs sensors).1
    let rest := sendPrioritized sensors later asked
    (rest.1, sender.sentSince asked nowUs ++ rest.2)

/-- Send one due stream after another until there is no opportunity left or nothing is due. -/
def sendOneByOne (sensors : ProcessedSensors F R) :
    List ClockReading → TelemetrySender → PassOutcome
  | [], sender => ⟨sender, [], false⟩
  | nowUs :: later, sender =>
    let asked := sender.sendOneNamedTelemetryStream nowUs sensors
    if asked.2 then
      let rest := sendOneByOne sensors later asked.1
      { rest with sends := sender.sentSince asked.1 nowUs ++ rest.sends }
    else ⟨asked.1, sender.sentSince asked.1 nowUs, true⟩

/-- One telemetry pass over a snapshot of the sensors. -/
def pass (sender : TelemetrySender) (service : TelemetryService) (sensors : ProcessedSensors F R) :
    PassOutcome :=
  match service with
  | .batch nowUs =>
    let after := sender.sendNamedTelemetryStreams nowUs sensors
    ⟨after, sender.sentSince after nowUs, true⟩
  | .stage nowUs =>
    let after := if sender.namedTelemetryDue nowUs sensors then
        sender.sendNamedTelemetryStreams nowUs sensors
      else sender
    ⟨after, sender.sentSince after nowUs, true⟩
  | .realtime priorities opportunities =>
    let first := sendPrioritized sensors priorities sender
    let rest := sendOneByOne sensors opportunities first.1
    { rest with sends := first.2 ++ rest.sends }

/-- A due stream has been sent once: its next period is started and its sample is remembered. -/
structure Sends (before after : TelemetrySender) (stream : NamedTelemetryStream) (nowUs : Nat)
    (sensors : ProcessedSensors F R) : Prop where
  due : before.Due nowUs sensors stream
  link : after.commLink = before.commLink ++ [stream]
  rates : after.telemetryRates = before.telemetryRates
  periods : ∀ other, after.telemetryRateState other =
    if other = stream then
      nextPeriod before.telemetryRates stream nowUs (before.telemetryRateState stream)
    else before.telemetryRateState other
  freshness : ∀ other, after.lastSent other =
    if other = stream ∧ (telemetryStreamSampleTimestamp stream sensors).isSome then
      telemetryStreamSampleTimestamp stream sensors
    else before.lastSent other

/-- Due streams have been sent one after another, each at its clock. -/
def SendsAll (sensors : ProcessedSensors F R) :
    TelemetrySender → List (NamedTelemetryStream × ClockReading) → TelemetrySender → Prop
  | before, [], after => after = before
  | before, (stream, nowUs) :: later, after =>
    ∃ middle, Sends before middle stream nowUs sensors ∧ SendsAll sensors middle later after

/-- Raw outputs that go by count have no new sample to consume. -/
def OutputRawSteady (sender : TelemetrySender) (sensors : ProcessedSensors F R) : Prop :=
  sender.telemetryRates.hz .outputRaw = 0 → ¬ sender.FreshForOutputRaw sensors

/-- No sampled stream at rate zero, the raw outputs apart, has a sample left to send. -/
def Settled (sender : TelemetrySender) (sensors : ProcessedSensors F R) : Prop :=
  ∀ stream, stream ≠ .heartbeat → stream ≠ .status → stream ≠ .outputRaw →
    sender.telemetryRates.hz stream = 0 → ∀ timestamp,
      telemetryStreamSampleTimestamp stream sensors = some timestamp →
        sender.lastSent stream = some timestamp

section Calls

variable {sender : TelemetrySender} {nowUs : Nat} {sensors : ProcessedSensors F R}
  {stream : NamedTelemetryStream}

/-- The effect of a send is a send, if it starts the stream's next period. -/
theorem SendEffect.sends {after : TelemetrySender} (due : sender.Due nowUs sensors stream)
    (effect : SendEffect sender after stream nowUs (telemetryStreamSampleTimestamp stream sensors))
    (own : after.telemetryRateState stream =
      nextPeriod sender.telemetryRates stream nowUs (sender.telemetryRateState stream)) :
    Sends sender after stream nowUs sensors where
  due := due
  link := effect.link
  rates := effect.rates
  periods other := by
    -- The effect speaks of the other streams alone.
    by_cases same : other = stream
    · rw [if_pos same, same, own]
    · rw [if_neg same, effect.periods other same]
  freshness := effect.freshness

/-- Sending a due stream on its own is a send. -/
theorem sends_sendSelected (due : sender.Due nowUs sensors stream) :
    Sends sender (sender.sendSelectedWithGate stream .dueDeadline nowUs sensors).1 stream nowUs
      sensors :=
  (sendSelected_effect due).2.sends due (sendSelected_period due)

/-- A call of the sender sends a due stream or finds none and leaves the sender alone. -/
theorem sendOne_cases (sender : TelemetrySender) (nowUs : Nat) (sensors : ProcessedSensors F R) :
    ((sender.sendOneNamedTelemetryStream nowUs sensors).2 = true ∧ ∃ stream,
        Sends sender (sender.sendOneNamedTelemetryStream nowUs sensors).1 stream nowUs sensors) ∨
      (sender.sendOneNamedTelemetryStream nowUs sensors = (sender, false) ∧
        ∀ stream, ¬ sender.Due nowUs sensors stream) := by
  unfold sendOneNamedTelemetryStream
  -- What is selected is due.
  cases selection : sender.selectDueNamedTelemetryStream nowUs sensors with
  | none =>
    refine Or.inr ⟨rfl, fun stream due => ?_⟩
    obtain ⟨selected, found⟩ := select_of_due due
    exact nomatch selection.symm.trans found
  | some stream =>
    have due := due_of_select selection
    exact Or.inl ⟨(sendSelected_effect due).1, stream, sends_sendSelected due⟩

/-- A prioritised stream is sent when it is due, and else the sender is left alone. -/
theorem sendIfDue_cases (sender : TelemetrySender) (stream : NamedTelemetryStream) (nowUs : Nat)
    (sensors : ProcessedSensors F R) :
    Sends sender (sender.sendNamedTelemetryStreamIfDue stream nowUs sensors).1 stream nowUs
        sensors ∨
      (sender.sendNamedTelemetryStreamIfDue stream nowUs sensors).1 = sender := by
  unfold sendNamedTelemetryStreamIfDue
  -- The call asks for the deadline first.
  split
  · exact Or.inr rfl
  · rename_i passed
    exact Or.inl (sends_sendSelected (by simpa [Due, Option.isSome_iff_ne_none] using passed))

/-- A send leaves raw outputs that go by count without a new sample. -/
theorem Sends.steady {after : TelemetrySender} (sends : Sends sender after stream nowUs sensors)
    (steady : sender.OutputRawSteady sensors) : after.OutputRawSteady sensors := by
  -- Either their memory is untouched or it holds the sample.
  rw [OutputRawSteady, FreshForOutputRaw, sends.rates, sends.freshness]
  split
  · rename_i raw
    rw [← raw.1]
    exact fun _ new => new.2 rfl
  · exact steady

/-- The batch sends a stream that is due, and leaves the sender alone otherwise. -/
theorem batchStep_cases (steady : sender.OutputRawSteady sensors) (stream : NamedTelemetryStream) :
    Sends sender (batchStep nowUs sensors sender stream) stream nowUs sensors ∨
      batchStep nowUs sensors sender stream = sender := by
  by_cases raw : stream = .outputRaw
  · subst raw
    show Sends sender (sender.sendFreshIfDue sensors nowUs .outputRaw) .outputRaw nowUs sensors ∨
      sender.sendFreshIfDue sensors nowUs .outputRaw = sender
    cases present : telemetryStreamSampleTimestamp .outputRaw sensors with
    | none => exact Or.inr (by simp only [sendFreshIfDue, present])
    | some timestamp =>
      by_cases shared : sender.telemetryRates.hz .outputRaw = 0
      · -- By count there is nothing new to consume.
        have old : sender.lastSent .outputRaw = some timestamp := by
          by_contra fresh
          exact steady shared ⟨by rw [present]; rfl, by rw [present]; exact fresh⟩
        exact Or.inr (by simp only [sendFreshIfDue, present, if_pos old])
      · rw [sendFreshIfDue_eq (by simp) (by simp) (fun both => shared both.2) present]
        by_cases due : sender.Due nowUs sensors .outputRaw
        · rw [if_pos due]
          refine Or.inl (SendEffect.sends due ?_ ?_)
          · rw [present]
            exact sendEffect_of_sampled (by simp) (by simp)
          · simp [markSent, transmit, takeDue, nextPeriod, shared]
        · exact Or.inr (if_neg due)
  · rw [batchStep_of_other raw]
    split
    · rename_i due
      exact Or.inl (sends_sendSelected due)
    · exact Or.inr rfl

/-- A new sample of a stream at rate zero makes the stream due at any clock. -/
theorem due_of_fresh (notHeartbeat : stream ≠ .heartbeat) (notStatus : stream ≠ .status)
    (notRaw : stream ≠ .outputRaw) (always : sender.telemetryRates.hz stream = 0) {timestamp : Nat}
    (present : telemetryStreamSampleTimestamp stream sensors = some timestamp)
    (fresh : sender.lastSent stream ≠ some timestamp) (nowUs : Nat) :
    sender.Due nowUs sensors stream := by
  refine (due_iff_of_present notHeartbeat notStatus present).mpr ⟨fresh, ?_⟩
  -- Rate zero has a passed deadline whatever the period.
  rw [sampleDeadline, if_neg fun both => notRaw both.1, always]
  rfl

/-- When nothing is due, nothing at rate zero is left to send. -/
theorem settled_of_idle (idle : ∀ stream, ¬ sender.Due nowUs sensors stream) :
    sender.Settled sensors := by
  -- A sample left to send would make its stream due.
  intro stream notHeartbeat notStatus notRaw always timestamp present
  by_contra fresh
  exact idle stream (due_of_fresh notHeartbeat notStatus notRaw always present fresh nowUs)

/-- A sampled stream with a rate starts its next period by its rate. -/
theorem nextPeriod_of_rate {rates : TelemetryRates} {periodUs : Nat}
    (notHeartbeat : stream ≠ .heartbeat) (notStatus : stream ≠ .status)
    (rated : rates.hz stream ≠ 0) :
    nextPeriod rates stream nowUs periodUs = (streamDue nowUs periodUs (rates.hz stream)).2 := by
  -- Only raw outputs at rate zero keep their period.
  cases stream with
  | heartbeat => exact absurd rfl notHeartbeat
  | status => exact absurd rfl notStatus
  | _ => simp [nextPeriod, rated]

/-- After the batch nothing at rate zero is left to send. -/
theorem settled_batch : (sender.sendNamedTelemetryStreams nowUs sensors).Settled sensors := by
  intro stream notHeartbeat notStatus notRaw always timestamp present
  obtain ⟨sent, each, members, _⟩ := batch_sends sender nowUs sensors
  rw [each.rates] at always
  rw [each.freshness stream notRaw, present]
  -- A stream that was not sent was not due, and so had nothing new.
  split
  · rfl
  · rename_i unsent
    by_contra fresh
    have due := due_of_fresh notHeartbeat notStatus notRaw always present fresh nowUs
    exact unsent ⟨(members stream).mpr due, rfl⟩

end Calls

section Passes

variable {sender : TelemetrySender} {sensors : ProcessedSensors F R}

/-- Sends may be followed by others. -/
theorem SendsAll.append {middle after : TelemetrySender}
    {first second : List (NamedTelemetryStream × ClockReading)}
    (earlier : SendsAll sensors sender first middle)
    (later : SendsAll sensors middle second after) :
    SendsAll sensors sender (first ++ second) after := by
  -- The earlier sends are peeled off one at a time.
  induction first generalizing sender with
  | nil => exact earlier ▸ later
  | cons send rest ih =>
    obtain ⟨next, sent, others⟩ := earlier
    exact ⟨next, sent, ih others⟩

/-- Sends put their streams on the link in their order. -/
theorem SendsAll.link {after : TelemetrySender}
    {sends : List (NamedTelemetryStream × ClockReading)}
    (all : SendsAll sensors sender sends after) :
    after.commLink = sender.commLink ++ sends.map Prod.fst := by
  -- The first send puts its stream in front of those of the rest.
  induction sends generalizing sender with
  | nil => simp [show after = sender from all]
  | cons send rest ih =>
    obtain ⟨middle, sent, others⟩ := all
    rw [ih others, sent.link, List.append_assoc]
    rfl

/-- Sends at one clock are what has been put on the link since. -/
theorem SendsAll.sentSince {after : TelemetrySender} {nowUs : ClockReading}
    (streams : List NamedTelemetryStream)
    (all : SendsAll sensors sender (streams.map fun stream => (stream, nowUs)) after) :
    SendsAll sensors sender (sender.sentSince after nowUs) after := by
  -- The link holds what it held before, then these streams.
  have added : after.commLink.drop sender.commLink.length = streams := by
    rw [all.link, List.drop_left, List.map_map]
    exact List.map_id _
  rw [TelemetrySender.sentSince, added]
  exact all

/-- One send is what has been put on the link since. -/
theorem Sends.sentSince {after : TelemetrySender} {stream : NamedTelemetryStream}
    {nowUs : ClockReading} (sends : Sends sender after stream nowUs sensors) :
    SendsAll sensors sender (sender.sentSince after nowUs) after :=
  SendsAll.sentSince [stream] ⟨after, sends, rfl⟩

/-- Nothing has been put on the link since the same sender. -/
theorem sendsAll_refl (sender : TelemetrySender) (sensors : ProcessedSensors F R)
    (nowUs : ClockReading) :
    SendsAll sensors sender (sender.sentSince sender nowUs) sender :=
  SendsAll.sentSince [] rfl

/-- The batch sends streams one after another. -/
theorem sendsAll_batch (steady : sender.OutputRawSteady sensors) (nowUs : ClockReading) :
    SendsAll sensors sender
      (sender.sentSince (sender.sendNamedTelemetryStreams nowUs sensors) nowUs)
      (sender.sendNamedTelemetryStreams nowUs sensors) := by
  rw [sendNamedTelemetryStreams_eq]
  suffices chain : ∃ streams : List NamedTelemetryStream, SendsAll sensors sender
      (streams.map fun stream => (stream, nowUs))
      (batchStreams.foldl (batchStep nowUs sensors) sender) from chain.elim SendsAll.sentSince
  -- Each stream of the batch is sent or passed over.
  induction batchStreams generalizing sender with
  | nil => exact ⟨[], rfl⟩
  | cons stream rest ih =>
    rcases batchStep_cases steady stream with sends | same
    · obtain ⟨streams, later⟩ := ih (sends.steady steady)
      exact ⟨stream :: streams, _, sends, later⟩
    · rw [List.foldl_cons, same]
      exact ih steady

/-- Prioritised streams are sent one after another. -/
theorem sendsAll_prioritized (priorities : List (NamedTelemetryStream × ClockReading))
    (sender : TelemetrySender) :
    SendsAll sensors sender (sendPrioritized sensors priorities sender).2
      (sendPrioritized sensors priorities sender).1 := by
  induction priorities generalizing sender with
  | nil => rfl
  | cons priority later ih =>
    refine SendsAll.append ?_ (ih _)
    -- The call sends one stream or none.
    rcases sendIfDue_cases sender priority.1 priority.2 sensors with sends | same
    · exact sends.sentSince
    · rw [same]
      exact sendsAll_refl sender sensors priority.2

/-- Due streams are sent one after another. -/
theorem sendsAll_oneByOne (opportunities : List ClockReading) (sender : TelemetrySender) :
    SendsAll sensors sender (sendOneByOne sensors opportunities sender).sends
      (sendOneByOne sensors opportunities sender).sender := by
  induction opportunities generalizing sender with
  | nil => rfl
  | cons nowUs later ih =>
    rw [sendOneByOne]
    rcases sendOne_cases sender nowUs sensors with ⟨sent, stream, sends⟩ | ⟨idle, _⟩
    · rw [if_pos sent]
      exact sends.sentSince.append (ih _)
    · -- The last call finds nothing due.
      rw [idle, if_neg Bool.false_ne_true]
      exact sendsAll_refl sender sensors nowUs

/-- A pass sends streams one after another. -/
theorem sendsAll_pass (steady : sender.OutputRawSteady sensors) (service : TelemetryService) :
    SendsAll sensors sender (sender.pass service sensors).sends
      (sender.pass service sensors).sender := by
  -- The stage leaves out a batch that would send nothing, and a realtime pass has two parts.
  cases service with
  | batch nowUs => exact sendsAll_batch steady nowUs
  | stage nowUs =>
    simp only [pass]
    split
    · exact sendsAll_batch steady nowUs
    · exact sendsAll_refl sender sensors nowUs
  | realtime priorities opportunities =>
    exact (sendsAll_prioritized priorities sender).append (sendsAll_oneByOne opportunities _)

/-- What has been put on the link at one clock carries that clock. -/
theorem clock_of_sentSince {after : TelemetrySender} {nowUs : ClockReading}
    {send : NamedTelemetryStream × ClockReading} (member : send ∈ sender.sentSince after nowUs) :
    send.2 = nowUs := by
  obtain ⟨_, _, rfl⟩ := List.mem_map.mp member
  rfl

/-- Prioritised streams are sent at their clocks. -/
theorem mem_priorities {priorities : List (NamedTelemetryStream × ClockReading)}
    {sender : TelemetrySender} {send : NamedTelemetryStream × ClockReading}
    (member : send ∈ (sendPrioritized sensors priorities sender).2) :
    send.2 ∈ priorities.map Prod.snd := by
  induction priorities generalizing sender with
  | nil => exact nomatch member
  | cons priority later ih =>
    -- What the first call put on the link carries its clock.
    rcases List.mem_append.mp member with now | rest
    · exact List.mem_cons.mpr (Or.inl (clock_of_sentSince now))
    · exact List.mem_cons_of_mem _ (ih rest)

/-- Streams sent one by one are sent at opportunities. -/
theorem mem_opportunities {opportunities : List ClockReading} {sender : TelemetrySender}
    {send : NamedTelemetryStream × ClockReading}
    (member : send ∈ (sendOneByOne sensors opportunities sender).sends) :
    send.2 ∈ opportunities := by
  induction opportunities generalizing sender with
  | nil => exact nomatch member
  | cons nowUs later ih =>
    rw [sendOneByOne] at member
    split at member
    · rcases List.mem_append.mp member with now | rest
      · exact List.mem_cons.mpr (Or.inl (clock_of_sentSince now))
      · exact List.mem_cons_of_mem _ (ih rest)
    · -- The last call carries its clock too.
      exact List.mem_cons.mpr (Or.inl (clock_of_sentSince member))

/-- A pass sends at the clocks it reads. -/
theorem mem_readings {service : TelemetryService} {send : NamedTelemetryStream × ClockReading}
    (member : send ∈ (sender.pass service sensors).sends) : send.2 ∈ service.readings := by
  cases service with
  | batch nowUs => exact List.mem_singleton.mpr (clock_of_sentSince member)
  | stage nowUs => exact List.mem_singleton.mpr (clock_of_sentSince member)
  | realtime priorities opportunities =>
    -- Its prioritised streams come first.
    rcases List.mem_append.mp member with first | rest
    · exact List.mem_append.mpr (Or.inl (mem_priorities first))
    · exact List.mem_append.mpr (Or.inr (mem_opportunities rest))

/-- Once a call finds nothing due, nothing at rate zero is left to send. -/
theorem settled_oneByOne {opportunities : List ClockReading} {sender : TelemetrySender}
    (complete : (sendOneByOne sensors opportunities sender).complete = true) :
    (sendOneByOne sensors opportunities sender).sender.Settled sensors := by
  induction opportunities generalizing sender with
  | nil => exact nomatch complete
  | cons nowUs later ih =>
    rw [sendOneByOne] at complete ⊢
    rcases sendOne_cases sender nowUs sensors with ⟨sent, _⟩ | ⟨same, idle⟩
    · rw [if_pos sent] at complete ⊢
      exact ih complete
    · -- This call found nothing due.
      rw [same, if_neg Bool.false_ne_true]
      exact settled_of_idle idle

/-- After a complete pass nothing at rate zero is left to send. -/
theorem settled_pass {service : TelemetryService}
    (complete : (sender.pass service sensors).complete = true) :
    (sender.pass service sensors).sender.Settled sensors := by
  cases service with
  | batch nowUs => exact settled_batch
  | stage nowUs =>
    simp only [pass]
    split
    · exact settled_batch
    · rename_i idle
      -- A due stream would have been selected.
      have quiet (stream : NamedTelemetryStream) : ¬ sender.Due nowUs sensors stream := by
        intro due
        obtain ⟨selected, found⟩ := select_of_due due
        rw [namedTelemetryDue, found] at idle
        exact idle rfl
      exact settled_of_idle quiet
  | realtime priorities opportunities => exact settled_oneByOne complete

end Passes

end TelemetrySender

end Veloxity
