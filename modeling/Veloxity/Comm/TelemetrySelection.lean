import Veloxity.Comm.TelemetryAgreement

/-! The selected telemetry stream has the earliest deadline, and sending it succeeds. -/

namespace Veloxity

namespace TelemetrySender

variable {F R : Type}

/-- The rate test that a send of a sampled stream makes, which starts the next period. -/
def rateTest (sender : TelemetrySender) (stream : NamedTelemetryStream) (nowUs : Nat) : Bool :=
  if stream = .outputRaw ∧ sender.telemetryRates.hz .outputRaw = 0 then sender.outputRawDueByCount
  else (streamDue nowUs (sender.telemetryRateState stream) (sender.telemetryRates.hz stream)).1

/-- The due test of a stream: its fixed rate, or a sample it has not sent and its rate test. -/
def dueTest (sender : TelemetrySender) (stream : NamedTelemetryStream) (nowUs : Nat)
    (sensors : ProcessedSensors F R) : Bool :=
  match stream with
  | .heartbeat => fixedRateDue nowUs sender.lastHeartbeatUs (sender.telemetryRates.hz .heartbeat)
  | .status => fixedRateDue nowUs sender.lastStatusSendUs (sender.telemetryRates.hz .status)
  | stream =>
    match telemetryStreamSampleTimestamp stream sensors with
    | none => false
    | some timestamp =>
      if sender.lastSent stream = some timestamp then false else sender.rateTest stream nowUs

variable {sender : TelemetrySender} {nowUs : Nat} {sensors : ProcessedSensors F R}

/-- The rate test passes exactly when the rate has a passed deadline. -/
theorem rateTest_eq (stream : NamedTelemetryStream) :
    sender.rateTest stream nowUs = (sender.sampleDeadline stream nowUs).isSome := by
  unfold rateTest sampleDeadline
  split
  · -- Sharing by count asks the same count in both.
    cases sender.outputRawDueByCount <;> rfl
  · exact streamDue_iff_deadline _ _ _

/-- The due test passes exactly when the stream has a passed deadline. -/
theorem dueTest_iff (stream : NamedTelemetryStream) :
    sender.dueTest stream nowUs sensors = true ↔ sender.Due nowUs sensors stream := by
  by_cases heartbeat : stream = .heartbeat
  · subst heartbeat
    rw [dueTest, fixedRateDue_iff_deadline]
    rfl
  by_cases status : stream = .status
  · subst status
    rw [dueTest, fixedRateDue_iff_deadline]
    rfl
  cases present : telemetryStreamSampleTimestamp stream sensors with
  | none =>
    -- Without a sample neither the test nor the deadline asks the rate.
    have silent : sender.dueTest stream nowUs sensors = false := by
      cases stream with
      | heartbeat => exact absurd rfl heartbeat
      | status => exact absurd rfl status
      | _ => simp only [dueTest, present]
    rw [silent]
    constructor
    · intro due
      cases due
    · intro due
      obtain ⟨timestamp, sampled, -⟩ := due.sampled heartbeat status
      rw [present] at sampled
      cases sampled
  | some timestamp =>
    rw [due_iff_of_present heartbeat status present, ← rateTest_eq]
    have sampled : sender.dueTest stream nowUs sensors =
        if sender.lastSent stream = some timestamp then false
        else sender.rateTest stream nowUs := by
      cases stream with
      | heartbeat => exact absurd rfl heartbeat
      | status => exact absurd rfl status
      | _ => simp only [dueTest, present]
    rw [sampled]
    -- A sample that has been sent is not due, whatever the rate says.
    by_cases sent : sender.lastSent stream = some timestamp
    · simp [sent]
    · simp [sent]

/-- What is selected among the streams seen so far: one of the earliest deadlines, if any. -/
structure EarliestOf (sender : TelemetrySender) (nowUs : Nat) (sensors : ProcessedSensors F R)
    (seen : List NamedTelemetryStream) (selected : Option (NamedTelemetryStream × Nat)) : Prop where
  own : ∀ chosen earliest, selected = some (chosen, earliest) →
    sender.namedTelemetryStreamDeadline chosen nowUs sensors = some earliest
  least : ∀ stream ∈ seen, ∀ deadline,
    sender.namedTelemetryStreamDeadline stream nowUs sensors = some deadline →
      ∃ chosen earliest, selected = some (chosen, earliest) ∧ earliest ≤ deadline

/-- A selection is one of the earliest of one more stream if it was for the others and undercuts
that one too. -/
theorem EarliestOf.concat {seen : List NamedTelemetryStream}
    {selected : Option (NamedTelemetryStream × Nat)} {stream : NamedTelemetryStream}
    (earliest : sender.EarliestOf nowUs sensors seen selected)
    (undercuts : ∀ deadline,
      sender.namedTelemetryStreamDeadline stream nowUs sensors = some deadline →
        ∃ chosen earliest, selected = some (chosen, earliest) ∧ earliest ≤ deadline) :
    sender.EarliestOf nowUs sensors (seen ++ [stream]) selected := by
  refine ⟨earliest.own, ?_⟩
  intro other member deadline due
  -- A stream seen before is no earlier by assumption, and neither is the new one.
  rcases List.mem_append.mp member with before | now
  · exact earliest.least other before deadline due
  · obtain rfl := List.mem_singleton.mp now
    exact undercuts deadline due

/-- Another stream takes over the selection with a deadline that undercuts the selected one. -/
theorem EarliestOf.replace {seen : List NamedTelemetryStream}
    {selected : Option (NamedTelemetryStream × Nat)} {stream : NamedTelemetryStream}
    {deadline : Nat}
    (earliest : sender.EarliestOf nowUs sensors seen selected)
    (passed : sender.namedTelemetryStreamDeadline stream nowUs sensors = some deadline)
    (sooner : ∀ chosen soonest, selected = some (chosen, soonest) → deadline ≤ soonest) :
    sender.EarliestOf nowUs sensors seen (some (stream, deadline)) := by
  refine ⟨?_, ?_⟩
  · intro chosen soonest taken
    cases taken
    exact passed
  · intro other member later due
    -- What the old selection undercut is undercut by less.
    obtain ⟨chosen, soonest, same, bound⟩ := earliest.least other member later due
    have below := sooner chosen soonest same
    exact ⟨stream, deadline, rfl, by omega⟩

/-- Considering one more stream keeps one of the earliest deadlines selected. -/
theorem EarliestOf.consider {seen : List NamedTelemetryStream}
    {selected : Option (NamedTelemetryStream × Nat)} (stream : NamedTelemetryStream)
    (earliest : sender.EarliestOf nowUs sensors seen selected) :
    sender.EarliestOf nowUs sensors (seen ++ [stream])
      (sender.consider nowUs sensors selected stream) := by
  unfold TelemetrySender.consider
  cases passed : sender.namedTelemetryStreamDeadline stream nowUs sensors with
  | none =>
    -- A stream without a deadline changes nothing.
    apply earliest.concat
    intro deadline due
    rw [passed] at due
    cases due
  | some deadline =>
    have own (later : Nat) (due : sender.namedTelemetryStreamDeadline stream nowUs sensors =
        some later) : deadline = later := Option.some.inj (passed.symm.trans due)
    cases selected with
    | none =>
      -- The first deadline is selected, and no stream before it had one.
      apply (earliest.replace passed fun _ _ absent => by cases absent).concat
      intro later due
      exact ⟨stream, deadline, rfl, (own later due).le⟩
    | some before =>
      obtain ⟨chosen, soonest⟩ := before
      by_cases sooner : deadline < soonest
      · -- An earlier deadline takes over.
        simp only [if_pos sooner]
        apply (earliest.replace passed ?_).concat
        · intro later due
          exact ⟨stream, deadline, rfl, (own later due).le⟩
        · intro _ _ same
          cases same
          exact sooner.le
      · -- Otherwise the selected deadline undercuts this one too.
        simp only [if_neg sooner]
        apply earliest.concat
        intro later due
        have bound := own later due
        exact ⟨chosen, soonest, rfl, by omega⟩

/-- Considering a list of streams keeps one of the earliest deadlines selected. -/
theorem EarliestOf.foldl {seen : List NamedTelemetryStream}
    {selected : Option (NamedTelemetryStream × Nat)} (streams : List NamedTelemetryStream)
    (earliest : sender.EarliestOf nowUs sensors seen selected) :
    sender.EarliestOf nowUs sensors (seen ++ streams)
      (streams.foldl (sender.consider nowUs sensors) selected) := by
  induction streams generalizing seen selected with
  | nil =>
    rw [List.append_nil]
    exact earliest
  | cons stream rest ih =>
    -- The rest is considered with one more stream seen.
    have next := ih (earliest.consider stream)
    rw [List.append_assoc] at next
    exact next

/-- The selected stream has a passed deadline, and no other stream has an earlier one. -/
theorem select_earliest {stream : NamedTelemetryStream}
    (selected : sender.selectDueNamedTelemetryStream nowUs sensors = some stream) :
    ∃ deadline, sender.namedTelemetryStreamDeadline stream nowUs sensors = some deadline ∧
      ∀ other later, sender.namedTelemetryStreamDeadline other nowUs sensors = some later →
        deadline ≤ later := by
  obtain ⟨⟨chosen, deadline⟩, folded, same⟩ := Option.map_eq_some_iff.mp selected
  subst same
  have start : sender.EarliestOf nowUs sensors [] none := ⟨by simp, by simp⟩
  have all := start.foldl (consideredStreams sensors)
  rw [folded] at all
  refine ⟨deadline, all.own chosen deadline rfl, ?_⟩
  intro other later passed
  -- Every stream with a deadline is among those considered.
  have due : sender.Due nowUs sensors other := by
    rw [Due, passed]
    rfl
  obtain ⟨_, _, same, bound⟩ := all.least other due.considered later passed
  cases same
  exact bound

/-- Nothing is selected exactly when no due test passes. -/
theorem select_none_iff :
    sender.selectDueNamedTelemetryStream nowUs sensors = none ↔
      ∀ stream, sender.dueTest stream nowUs sensors = false := by
  constructor
  · intro idle stream
    -- A due stream would have been selected.
    apply Bool.eq_false_iff.mpr
    intro passes
    obtain ⟨selected, found⟩ := select_of_due ((dueTest_iff stream).mp passes)
    rw [idle] at found
    cases found
  · intro idle
    cases selection : sender.selectDueNamedTelemetryStream nowUs sensors with
    | none => rfl
    | some stream =>
      have passes := (dueTest_iff stream).mpr (due_of_select selection)
      rw [idle stream] at passes
      cases passes

/-- A selected stream has the earliest deadline, passes its due test and is put on the link by a
send at the same time, and none is selected exactly when no due test passes. -/
theorem selection_sound (sender : TelemetrySender) (nowUs : Nat)
    (sensors : ProcessedSensors F R) :
    (∀ stream, sender.selectDueNamedTelemetryStream nowUs sensors = some stream →
      (∃ deadline, sender.namedTelemetryStreamDeadline stream nowUs sensors = some deadline ∧
        ∀ other later, sender.namedTelemetryStreamDeadline other nowUs sensors = some later →
          deadline ≤ later) ∧
      sender.dueTest stream nowUs sensors = true ∧
      (sender.sendSelectedWithGate stream .dueDeadline nowUs sensors).2 = true ∧
      (sender.sendSelectedWithGate stream .dueDeadline nowUs sensors).1.commLink =
        sender.commLink ++ [stream]) ∧
    (sender.selectDueNamedTelemetryStream nowUs sensors = none ↔
      ∀ stream, sender.dueTest stream nowUs sensors = false) := by
  refine ⟨?_, select_none_iff⟩
  intro stream selected
  -- A selected stream is due, and a due stream passes its test and is sent.
  have due : sender.Due nowUs sensors stream := due_of_select selected
  obtain ⟨sent, effect⟩ := sendSelected_effect due
  exact ⟨select_earliest selected, (dueTest_iff stream).mpr due, sent, effect.link⟩

end TelemetrySender

end Veloxity
