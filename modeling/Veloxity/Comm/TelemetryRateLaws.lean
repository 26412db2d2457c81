import Veloxity.Comm.TelemetryPasses
import Veloxity.Library.PeriodicDeadline

/-! What the rate parameter of a telemetry stream promises of every pass. -/

namespace Veloxity

open Library (OncePerSlot caughtUp slot)

variable {F R : Type}

/-- A stream that sends samples of a sensor. -/
def NamedTelemetryStream.Sampled (stream : NamedTelemetryStream) : Prop :=
  stream ≠ .heartbeat ∧ stream ≠ .status

/-- A rate parameter asks for a fixed rate. -/
def AsksPositive (value : ParamValue F) : Prop := ∃ rateHz > 0, value = .int rateHz

/-- Length of an interval slot at a positive rate. -/
def slotIntervalUs (rateHz : Int) : Nat := 1000000 / (min rateHz MAX_TELEMETRY_RATE_HZ).toNat

/-- What an observer of the parameters and of the link knows of each stream: the value of its rate
parameter, the timestamp of the sample it sent last, the clock of the live change that set its
rate, and the clocks it has been sent at since the rate was set. -/
structure TelemetryRecord (F : Type) where
  asked : NamedTelemetryStream → ParamValue F
  reported : NamedTelemetryStream → Option Nat
  changedUs : NamedTelemetryStream → Option Nat
  sentUs : NamedTelemetryStream → List Nat

namespace TelemetryRecord

/-- Where the interval slots of a stream are counted from: the live change of its rate, or else
the first send since its rate was set. -/
def slotStartUs (record : TelemetryRecord F) (stream : NamedTelemetryStream) (nowUs : Nat) : Nat :=
  (record.changedUs stream).getD ((record.sentUs stream).headD nowUs)

/-- A sample is present that the stream has not sent last. -/
def Fresh (record : TelemetryRecord F) (sensors : ProcessedSensors F R)
    (stream : NamedTelemetryStream) : Prop :=
  (telemetryStreamSampleTimestamp stream sensors).isSome = true ∧
    record.reported stream ≠ telemetryStreamSampleTimestamp stream sensors

/-- Note that a stream has been sent. -/
def note (sensors : ProcessedSensors F R) (record : TelemetryRecord F)
    (send : NamedTelemetryStream × ClockReading) : TelemetryRecord F :=
  { record with
    reported := Function.update record.reported send.1
      (telemetryStreamSampleTimestamp send.1 sensors)
    sentUs := Function.update record.sentUs send.1 (record.sentUs send.1 ++ [send.2.val]) }

/-- Note the rates that are adopted from the parameters. -/
def configure (record : TelemetryRecord F) (params : Params F) : TelemetryRecord F :=
  { record with
    asked := fun stream => params.getById stream.rateParam
    changedUs := fun _ => none
    sentUs := fun _ => [] }

/-- Note that one rate parameter has been changed. -/
def change (record : TelemetryRecord F) (stream : NamedTelemetryStream) (value : ParamValue F)
    (nowUs : Nat) : TelemetryRecord F :=
  { record with
    asked := Function.update record.asked stream value
    changedUs := Function.update record.changedUs stream (some nowUs)
    sentUs := Function.update record.sentUs stream [] }

/-- The sends of a stream in a pass are what its rate parameter allows: none at minus one, only a
new sample and not twice, and at a positive rate in another slot than every send before. -/
structure SendsLawfully (record : TelemetryRecord F) (sensors : ProcessedSensors F R)
    (sends : List (NamedTelemetryStream × ClockReading)) (stream : NamedTelemetryStream) :
    Prop where
  disabled : record.asked stream = .int (-1) → stream ∉ sends.map Prod.fst
  fresh : stream ∈ sends.map Prod.fst → record.Fresh sensors stream
  once : (sends.map Prod.fst).count stream ≤ 1
  spaced : ∀ rateHz > 0, record.asked stream = .int rateHz →
    ∀ nowUs, (stream, nowUs) ∈ sends → ∀ earlierUs ∈ record.sentUs stream,
      slot (slotIntervalUs rateHz) (record.slotStartUs stream nowUs) earlierUs ≠
        slot (slotIntervalUs rateHz) (record.slotStartUs stream nowUs) nowUs

/-- What a pass does for a stream is what its rate parameter says: its sends are lawful, and at
zero a pass that goes on until nothing is due sends every new sample exactly once. -/
structure KeepsRate (record : TelemetryRecord F) (outcome : PassOutcome)
    (sensors : ProcessedSensors F R) (stream : NamedTelemetryStream) : Prop
    extends record.SendsLawfully sensors outcome.sends stream where
  always : record.asked stream = .int 0 → record.Fresh sensors stream →
    outcome.complete = true → (outcome.sends.map Prod.fst).count stream = 1

end TelemetryRecord

/-- Something that happens to the telemetry: its rates are adopted from the parameters, one rate
parameter is changed, or a pass is made over a snapshot of the sensors. -/
inductive TelemetryEvent (F R : Type) where
  | configure (params : Params F)
  | update (params : Params F) (id : ParamId) (nowUs : ClockReading)
  | pass (service : TelemetryService) (sensors : ProcessedSensors F R)

/-- The sender with the record an observer keeps of it. -/
structure TelemetryWatch (F : Type) where
  sender : TelemetrySender
  record : TelemetryRecord F

namespace TelemetryWatch

/-- A new sender whose rates are adopted from the parameters. -/
def start (nowUs : Nat) (params : Params F) : TelemetryWatch F where
  sender := (TelemetrySender.new nowUs).configureTelemetryFromParams params
  record :=
    { asked := fun stream => params.getById stream.rateParam
      reported := fun _ => none
      changedUs := fun _ => none
      sentUs := fun _ => [] }

/-- What the sender does at an event, and what the observer notes of it. -/
def step (watch : TelemetryWatch F) (event : TelemetryEvent F R) : TelemetryWatch F :=
  match event with
  | .configure params =>
    { sender := watch.sender.configureTelemetryFromParams params
      record := watch.record.configure params }
  | .update params id nowUs =>
    { sender := (watch.sender.updateTelemetryParam params id nowUs).1
      record := match telemetryStreamForParam id with
        | none => watch.record
        | some stream => watch.record.change stream (params.getById id) nowUs }
  | .pass service sensors =>
    let outcome := watch.sender.pass service sensors
    { sender := outcome.sender
      record := outcome.sends.foldl (TelemetryRecord.note sensors) watch.record }

/-- A pass keeps the rate of every sampled stream. -/
def KeepsRates (watch : TelemetryWatch F) (event : TelemetryEvent F R) : Prop :=
  match event with
  | .configure _ => True
  | .update _ _ _ => True
  | .pass service sensors => ∀ stream : NamedTelemetryStream, stream.Sampled →
    watch.record.KeepsRate (watch.sender.pass service sensors) sensors stream

/-- No fixed rate of a sampled stream starts at clock zero, by a live change or by a new sample,
and no pass finds a new sample for raw outputs whose rate parameter is zero. -/
def Sound (watch : TelemetryWatch F) (event : TelemetryEvent F R) : Prop :=
  match event with
  | .configure _ => True
  | .update params id nowUs => nowUs.val = 0 → ∀ stream,
    telemetryStreamForParam id = some stream → stream.Sampled → ¬ AsksPositive (params.getById id)
  | .pass service sensors =>
    (watch.record.asked .outputRaw = .int 0 → ¬ watch.record.Fresh sensors .outputRaw) ∧
      ∀ nowUs ∈ service.readings, nowUs.val = 0 → ∀ stream : NamedTelemetryStream, stream.Sampled →
        AsksPositive (watch.record.asked stream) → ¬ watch.record.Fresh sensors stream

end TelemetryWatch

section Rates

/-- A slot at a positive rate has a length. -/
theorem slotIntervalUs_pos {rateHz : Int} (positive : 0 < rateHz) : 0 < slotIntervalUs rateHz := by
  -- The highest rate is far below a million.
  refine Nat.div_pos ?_ ?_
  · simp only [MAX_TELEMETRY_RATE_HZ]
    omega
  · simp only [MAX_TELEMETRY_RATE_HZ]
    omega

/-- How the rate of a stream follows the value of its parameter. -/
structure RateAdopted (value : ParamValue F) (rateHz : Nat) : Prop where
  disabled : value = .int (-1) → rateHz = TELEMETRY_RATE_DISABLED
  zero : value = .int 0 ↔ rateHz = 0
  positive : ∀ askedHz > 0, value = .int askedHz →
    rateHz = (min askedHz MAX_TELEMETRY_RATE_HZ).toNat

/-- Rates follow the parameters. -/
theorem rateAdopted (params : Params F) (id : ParamId) :
    RateAdopted (params.getById id) (telemetryRateParam params id) := by
  refine ⟨fun disabled => ?_, (telemetryRateParam_eq_zero_iff params id).symm, ?_⟩
  · rw [telemetryRateParam, disabled]
    rfl
  · intro askedHz positive asked
    -- The clamped rate fits in sixteen bits.
    simp only [telemetryRateParam, asked, asU16, MAX_TELEMETRY_RATE_HZ]
    rw [if_neg (by omega)]
    omega

variable {askedHz : Int} {rateHz nowUs periodUs : Nat}

/-- At a positive rate the next period starts at the first send, and is caught up from then on. -/
theorem streamDue_of_positive (positive : 0 < askedHz)
    (rated : rateHz = (min askedHz MAX_TELEMETRY_RATE_HZ).toNat) (word : nowUs < longWordSize)
    (due : (streamDueDeadlineUs nowUs periodUs rateHz).isSome = true) :
    (periodUs = 0 ∧ (streamDue nowUs periodUs rateHz).2 = nowUs) ∨
      (periodUs ≠ 0 ∧ periodUs + slotIntervalUs askedHz ≤ nowUs ∧
        (streamDue nowUs periodUs rateHz).2 =
          caughtUp (slotIntervalUs askedHz) periodUs nowUs) := by
  have interval : 1000000 / rateHz = slotIntervalUs askedHz := by rw [rated, slotIntervalUs]
  have length := slotIntervalUs_pos positive
  have enabled : rateHz ≠ TELEMETRY_RATE_DISABLED ∧ rateHz ≠ 0 := by
    simp only [rated, MAX_TELEMETRY_RATE_HZ, TELEMETRY_RATE_DISABLED]
    omega
  unfold streamDueDeadlineUs at due
  unfold streamDue
  rw [if_neg enabled.1, if_neg enabled.2] at due ⊢
  by_cases never : periodUs = 0
  · exact Or.inl ⟨never, by rw [if_pos never]⟩
  · simp only [if_neg never, interval] at due ⊢
    have late : slotIntervalUs askedHz ≤ nowUs - periodUs := by
      by_contra early
      rw [if_neg early] at due
      cases due
    refine Or.inr ⟨never, by omega, ?_⟩
    rw [if_pos late]
    -- The caught-up deadline is not ahead of the clock, which fits its word.
    have behind : caughtUp (slotIntervalUs askedHz) periodUs nowUs ≤ nowUs :=
      Library.caughtUp_le (by omega)
    unfold caughtUp at behind ⊢
    simp only [saturatingAddU64, saturatingMulU64]
    omega

end Rates

namespace TelemetrySender

variable {id : ParamId} {stream : NamedTelemetryStream}

/-- One changed rate parameter sets the rate of its stream, starts a period of it, and leaves what
has been sent and the other streams alone. -/
theorem updateTelemetryParam_of_some (sender : TelemetrySender) (params : Params F) (nowUs : Nat)
    (found : telemetryStreamForParam id = some stream) :
    (sender.updateTelemetryParam params id nowUs).1.telemetryRates.hz =
        Function.update sender.telemetryRates.hz stream (telemetryRateParam params id) ∧
      (∀ other, (sender.updateTelemetryParam params id nowUs).1.lastSent other =
        sender.lastSent other) ∧
      ∀ other : NamedTelemetryStream, other.Sampled →
        (sender.updateTelemetryParam params id nowUs).1.telemetryRateState other =
          if other = stream then nowUs else sender.telemetryRateState other := by
  simp only [updateTelemetryParam, found]
  -- Heartbeat and status have clocks of their own, and raw outputs a count besides.
  cases stream with
  | heartbeat => exact ⟨rfl, fun other => rfl, fun other sampled => (if_neg sampled.1).symm⟩
  | status => exact ⟨rfl, fun other => rfl, fun other sampled => (if_neg sampled.2).symm⟩
  | _ => exact ⟨rfl, fun other => rfl, fun other _ => by simp [Function.update_apply]⟩

end TelemetrySender

namespace TelemetryRecord

/-- The sends of a stream keep to slots counted from one start, in step with its period; a stream
that has no period yet has not been sent. -/
def KeepsSlots (record : TelemetryRecord F) (stream : NamedTelemetryStream) (rateHz : Int)
    (periodUs : Nat) : Prop :=
  (record.changedUs stream = none ∧ record.sentUs stream = [] ∧ periodUs = 0) ∨
    (periodUs ≠ 0 ∧ ∃ startUs, (∀ nowUs, record.slotStartUs stream nowUs = startUs) ∧
      OncePerSlot (slotIntervalUs rateHz) startUs periodUs (record.sentUs stream))

/-- The record agrees with what the sender remembers. -/
structure Tracks (record : TelemetryRecord F) (sender : TelemetrySender) : Prop where
  remembered : ∀ stream : NamedTelemetryStream, stream.Sampled →
    sender.lastSent stream = record.reported stream
  adopted : ∀ stream, RateAdopted (record.asked stream) (sender.telemetryRates.hz stream)
  slots : ∀ stream : NamedTelemetryStream, stream.Sampled → ∀ rateHz > 0,
    record.asked stream = .int rateHz →
      record.KeepsSlots stream rateHz (sender.telemetryRateState stream)

section Notes

variable (sensors : ProcessedSensors F R) (record : TelemetryRecord F)
  (stream : NamedTelemetryStream) (nowUs : ClockReading)

@[simp] theorem note_reported_self : (record.note sensors (stream, nowUs)).reported stream =
    telemetryStreamSampleTimestamp stream sensors := Function.update_self _ _ _

@[simp] theorem note_sentUs_self : (record.note sensors (stream, nowUs)).sentUs stream =
    record.sentUs stream ++ [nowUs.val] := Function.update_self _ _ _

variable {stream} {other : NamedTelemetryStream}

/-- A send is not a send of another stream. -/
theorem note_reported_of_ne (differs : other ≠ stream) :
    (record.note sensors (stream, nowUs)).reported other = record.reported other :=
  Function.update_of_ne differs _ record.reported

/-- A send does not add to the clocks of another stream. -/
theorem note_sentUs_of_ne (differs : other ≠ stream) :
    (record.note sensors (stream, nowUs)).sentUs other = record.sentUs other :=
  Function.update_of_ne differs _ record.sentUs

/-- A send leaves the slots of another stream where they are. -/
theorem note_slotStartUs_of_ne (differs : other ≠ stream) :
    (record.note sensors (stream, nowUs)).slotStartUs other = record.slotStartUs other := by
  funext laterUs
  rw [slotStartUs, slotStartUs, note_sentUs_of_ne sensors record nowUs differs]
  rfl

end Notes

section Sends

variable {record : TelemetryRecord F} {sender after : TelemetrySender}
  {stream : NamedTelemetryStream} {nowUs : ClockReading} {sensors : ProcessedSensors F R}

/-- A sampled stream is due at its rate only with a new sample and a passed deadline. -/
theorem Tracks.due (tracks : record.Tracks sender) (sampled : stream.Sampled)
    (due : sender.Due nowUs sensors stream) :
    record.Fresh sensors stream ∧ record.asked stream ≠ .int (-1) ∧
      ∀ rateHz > 0, record.asked stream = .int rateHz →
        (streamDueDeadlineUs nowUs (sender.telemetryRateState stream)
          (sender.telemetryRates.hz stream)).isSome = true := by
  obtain ⟨timestamp, present, fresh, passed⟩ := due.sampled sampled.1 sampled.2
  have adopted := tracks.adopted stream
  rw [tracks.remembered stream sampled] at fresh
  -- Only raw outputs at rate zero have a deadline of another kind.
  have own (paced : sender.telemetryRates.hz stream ≠ 0) :
      (streamDueDeadlineUs nowUs (sender.telemetryRateState stream)
        (sender.telemetryRates.hz stream)).isSome = true := by
    rw [TelemetrySender.sampleDeadline, if_neg] at passed
    · exact passed
    · rintro ⟨rfl, zero⟩
      exact paced zero
  refine ⟨⟨by rw [present]; rfl, by rw [present]; exact fresh⟩, ?_, ?_⟩
  · intro disabled
    have off := adopted.disabled disabled
    have never := own (by rw [off]; decide)
    rw [off, streamDueDeadlineUs, if_pos rfl] at never
    cases never
  · intro rateHz positive asked
    refine own fun zero => ?_
    have same := (adopted.zero.mpr zero).symm.trans asked
    rw [← ParamValue.int.inj same] at positive
    exact absurd positive (by decide)

/-- A send that is due at a positive rate is in another slot than every send before it. -/
theorem KeepsSlots.spaced {rateHz : Int} {periodUs hz : Nat}
    (kept : record.KeepsSlots stream rateHz periodUs) (positive : 0 < rateHz)
    (rated : hz = (min rateHz MAX_TELEMETRY_RATE_HZ).toNat)
    (due : (streamDueDeadlineUs nowUs periodUs hz).isSome = true) :
    ∀ earlierUs ∈ record.sentUs stream,
      slot (slotIntervalUs rateHz) (record.slotStartUs stream nowUs) earlierUs ≠
        slot (slotIntervalUs rateHz) (record.slotStartUs stream nowUs) nowUs := by
  intro earlierUs member
  rcases kept with ⟨_, unsent, _⟩ | ⟨running, startUs, start, paced⟩
  · rw [unsent] at member
    exact nomatch member
  · -- While the period is running, being due takes a whole interval.
    rcases streamDue_of_positive positive rated nowUs.isLt due with ⟨never, _⟩ | ⟨_, late, _⟩
    · exact absurd never running
    · rw [start]
      exact (paced.slot_lt (slotIntervalUs_pos positive) late member).ne

/-- Starting the next period of a stream at a positive rate, a send keeps to the slots. -/
theorem KeepsSlots.send {rateHz : Int} {periodUs hz : Nat}
    (kept : record.KeepsSlots stream rateHz periodUs) (positive : 0 < rateHz)
    (rated : hz = (min rateHz MAX_TELEMETRY_RATE_HZ).toNat)
    (due : (streamDueDeadlineUs nowUs periodUs hz).isSome = true) (awake : nowUs.val ≠ 0) :
    (record.note sensors (stream, nowUs)).KeepsSlots stream rateHz
      (streamDue nowUs periodUs hz).2 := by
  have noted := note_sentUs_self sensors record stream nowUs
  have changed : (record.note sensors (stream, nowUs)).changedUs = record.changedUs := rfl
  rcases streamDue_of_positive positive rated nowUs.isLt due with
    ⟨never, first⟩ | ⟨started, late, caught⟩
  · -- The first send starts the period and the slots.
    rcases kept with ⟨unchanged, unsent, _⟩ | ⟨running, _⟩
    · rw [first]
      refine Or.inr ⟨awake, nowUs, fun laterUs => ?_, ?_⟩
      · rw [slotStartUs, changed, noted, unchanged, unsent]
        rfl
      · rw [noted, unsent]
        exact Library.oncePerSlot_singleton
    · exact absurd never running
  · rcases kept with ⟨_, _, idle⟩ | ⟨_, startUs, start, paced⟩
    · exact absurd idle started
    · have reached := Library.le_caughtUp (slotIntervalUs rateHz) periodUs nowUs
      rw [caught]
      refine Or.inr ⟨by omega, startUs, fun laterUs => ?_, ?_⟩
      · -- The start does not depend on the clock, so that it is a change or an earlier send.
        rw [slotStartUs, changed, noted, ← start laterUs, slotStartUs]
        cases sent : record.sentUs stream with
        | cons firstUs others => rfl
        | nil =>
          have here := start laterUs
          have there := start (laterUs + 1)
          cases changing : record.changedUs stream with
          | some changeUs => rfl
          | none =>
            rw [slotStartUs, sent, changing] at here there
            exact absurd (here.trans there.symm) (by simp)
      · rw [noted]
        exact paced.concat (slotIntervalUs_pos positive) late

/-- A send keeps the record in agreement with the sender. -/
theorem Tracks.send (tracks : record.Tracks sender)
    (sends : TelemetrySender.Sends sender after stream nowUs sensors)
    (awake : nowUs.val = 0 → stream.Sampled → ¬ AsksPositive (record.asked stream)) :
    (record.note sensors (stream, nowUs)).Tracks after where
  remembered other sampled := by
    -- A sampled stream that has been sent remembers the sample that is noted.
    rw [sends.freshness]
    by_cases same : other = stream
    · subst same
      obtain ⟨timestamp, present, _⟩ := sends.due.sampled sampled.1 sampled.2
      rw [if_pos ⟨rfl, by rw [present]; rfl⟩, note_reported_self]
    · rw [if_neg fun both => same both.1, tracks.remembered other sampled,
        note_reported_of_ne sensors record nowUs same]
  adopted other := by
    rw [sends.rates]
    exact tracks.adopted other
  slots other sampled rateHz positive asked := by
    have kept := tracks.slots other sampled rateHz positive asked
    -- Only the stream that has been sent starts a period and takes a slot.
    rw [sends.periods]
    by_cases same : other = stream
    · subst same
      have rated := (tracks.adopted other).positive rateHz positive asked
      have zero : sender.telemetryRates.hz other ≠ 0 := by
        simp only [rated, MAX_TELEMETRY_RATE_HZ]
        omega
      have next : TelemetrySender.nextPeriod sender.telemetryRates other nowUs
          (sender.telemetryRateState other) = (streamDue nowUs (sender.telemetryRateState other)
            (sender.telemetryRates.hz other)).2 :=
        TelemetrySender.nextPeriod_of_rate sampled.1 sampled.2 zero
      rw [if_pos rfl, next]
      have passed := (tracks.due sampled sends.due).2.2 rateHz positive asked
      exact kept.send positive rated passed fun midnight =>
        awake midnight sampled ⟨rateHz, positive, asked⟩
    · rw [if_neg same]
      rw [KeepsSlots, note_sentUs_of_ne sensors record nowUs same,
        note_slotStartUs_of_ne sensors record nowUs same]
      exact kept

/-- What is new after a send is new before it, and of another stream. -/
theorem fresh_of_note {other : NamedTelemetryStream}
    (fresh : (record.note sensors (stream, nowUs)).Fresh sensors other) :
    other ≠ stream ∧ record.Fresh sensors other := by
  -- What a stream has just sent is not new for it.
  have differs : other ≠ stream := by
    rintro rfl
    exact fresh.2 (note_reported_self sensors record other nowUs)
  rw [Fresh, note_reported_of_ne sensors record nowUs differs] at fresh
  exact ⟨differs, fresh⟩

variable {rest : List (NamedTelemetryStream × ClockReading)}

/-- A lawful send of a stream comes first, because nothing new is left to send after it. -/
theorem SendsLawfully.cons_self
    (later : (record.note sensors (stream, nowUs)).SendsLawfully sensors rest stream)
    (enabled : record.asked stream ≠ .int (-1)) (fresh : record.Fresh sensors stream)
    (spaced : ∀ rateHz > 0, record.asked stream = .int rateHz →
      ∀ earlierUs ∈ record.sentUs stream,
        slot (slotIntervalUs rateHz) (record.slotStartUs stream nowUs) earlierUs ≠
          slot (slotIntervalUs rateHz) (record.slotStartUs stream nowUs) nowUs) :
    record.SendsLawfully sensors ((stream, nowUs) :: rest) stream := by
  have absent : stream ∉ rest.map Prod.fst := fun member =>
    (fresh_of_note (later.fresh member)).1 rfl
  refine ⟨fun disabled => absurd disabled enabled, fun _ => fresh, ?_, ?_⟩
  · rw [List.map_cons, List.count_cons_self, List.count_eq_zero.mpr absent]
  · intro rateHz positive asked thenUs member
    -- The only send of the stream is the first.
    rcases List.mem_cons.mp member with now | after
    · rw [(Prod.mk.inj now).2]
      exact spaced rateHz positive asked
    · exact absurd (List.mem_map_of_mem after) absent

/-- A send of another stream comes first without changing what is lawful. -/
theorem SendsLawfully.cons_of_ne {other : NamedTelemetryStream}
    (later : (record.note sensors (stream, nowUs)).SendsLawfully sensors rest other)
    (differs : other ≠ stream) :
    record.SendsLawfully sensors ((stream, nowUs) :: rest) other := by
  have elsewhere : other ∈ ((stream, nowUs) :: rest).map Prod.fst ↔ other ∈ rest.map Prod.fst := by
    rw [List.map_cons, List.mem_cons, or_iff_right differs]
  -- The record says the same of the other stream before and after the send.
  refine ⟨fun disabled => mt elsewhere.mp (later.disabled disabled), fun member => ?_, ?_, ?_⟩
  · exact (fresh_of_note (later.fresh (elsewhere.mp member))).2
  · rw [List.map_cons, List.count_cons_of_ne differs.symm]
    exact later.once
  · intro rateHz positive asked thenUs member
    have kept := later.spaced rateHz positive asked thenUs
    rw [note_sentUs_of_ne sensors record nowUs differs,
      note_slotStartUs_of_ne sensors record nowUs differs] at kept
    rcases List.mem_cons.mp member with now | after
    · exact absurd (Prod.mk.inj now).1 differs
    · exact kept after

/-- Sends one after another keep the record in agreement, and those of every stream are lawful. -/
theorem Tracks.sendsAll {sends : List (NamedTelemetryStream × ClockReading)}
    (tracks : record.Tracks sender) (all : TelemetrySender.SendsAll sensors sender sends after)
    (awake : ∀ send ∈ sends, send.2.val = 0 → ∀ stream : NamedTelemetryStream, stream.Sampled →
      AsksPositive (record.asked stream) → ¬ record.Fresh sensors stream) :
    (sends.foldl (note sensors) record).Tracks after ∧
      ∀ stream : NamedTelemetryStream, stream.Sampled →
        record.SendsLawfully sensors sends stream := by
  induction sends generalizing record sender with
  | nil =>
    rw [show after = sender from all]
    refine ⟨tracks, fun stream _ => ⟨fun _ => List.not_mem_nil, ?_, Nat.zero_le _, ?_⟩⟩
    · exact fun member => nomatch member
    · exact fun _ _ _ _ member => nomatch member
  | cons send rest ih =>
    obtain ⟨sent, nowUs⟩ := send
    obtain ⟨middle, sends, others⟩ := all
    have first : nowUs.val = 0 → sent.Sampled → ¬ AsksPositive (record.asked sent) := by
      intro midnight sampled positive
      exact awake (sent, nowUs) List.mem_cons_self midnight sent sampled positive
        (tracks.due sampled sends.due).1
    -- What is not new for the first send is not new for the later ones.
    have later : ∀ send ∈ rest, send.2.val = 0 → ∀ stream : NamedTelemetryStream, stream.Sampled →
        AsksPositive ((record.note sensors (sent, nowUs)).asked stream) →
          ¬ (record.note sensors (sent, nowUs)).Fresh sensors stream := by
      intro send member midnight stream sampled positive fresh
      exact awake send (List.mem_cons_of_mem _ member) midnight stream sampled positive
        (fresh_of_note fresh).2
    obtain ⟨final, lawful⟩ := ih (tracks.send sends first) others later
    refine ⟨final, fun stream sampled => ?_⟩
    -- A send of the stream itself leaves its slot, and any other one does not concern it.
    by_cases same : stream = sent
    · subst same
      obtain ⟨fresh, enabled, passed⟩ := tracks.due sampled sends.due
      refine (lawful stream sampled).cons_self enabled fresh fun rateHz positive asked => ?_
      have kept := tracks.slots stream sampled rateHz positive asked
      have rated := (tracks.adopted stream).positive rateHz positive asked
      exact kept.spaced positive rated (passed rateHz positive asked)
    · exact (lawful stream sampled).cons_of_ne same

/-- Sends change no rate parameter. -/
theorem asked_foldl_note (sends : List (NamedTelemetryStream × ClockReading))
    (record : TelemetryRecord F) : (sends.foldl (note sensors) record).asked = record.asked := by
  induction sends generalizing record with
  | nil => rfl
  | cons send rest ih => exact ih (record.note sensors send)

/-- A stream that is not sent keeps the sample it sent last. -/
theorem reported_foldl_note {sends : List (NamedTelemetryStream × ClockReading)}
    (record : TelemetryRecord F) (unsent : stream ∉ sends.map Prod.fst) :
    (sends.foldl (note sensors) record).reported stream = record.reported stream := by
  -- Each send notes another stream.
  induction sends generalizing record with
  | nil => rfl
  | cons send rest ih =>
    obtain ⟨differs, others⟩ := not_or.mp (mt List.mem_cons.mpr unsent)
    exact (ih (record.note sensors send) others).trans
      (note_reported_of_ne sensors record send.2 differs)

/-- A pass that finds no new sample for raw outputs at rate zero, and none for a stream at a
positive rate when its clock is at zero, keeps every rate and the record in agreement. -/
theorem Tracks.pass (tracks : record.Tracks sender) (service : TelemetryService)
    (raw : record.asked .outputRaw = .int 0 → ¬ record.Fresh sensors .outputRaw)
    (awake : ∀ nowUs ∈ service.readings, nowUs.val = 0 → ∀ stream : NamedTelemetryStream,
      stream.Sampled → AsksPositive (record.asked stream) → ¬ record.Fresh sensors stream) :
    ((sender.pass service sensors).sends.foldl (note sensors) record).Tracks
        (sender.pass service sensors).sender ∧
      ∀ stream : NamedTelemetryStream, stream.Sampled →
        record.KeepsRate (sender.pass service sensors) sensors stream := by
  have steady : sender.OutputRawSteady sensors := by
    intro zero new
    have remembered := tracks.remembered .outputRaw ⟨by simp, by simp⟩
    exact raw ((tracks.adopted _).zero.mpr zero) ⟨new.1, remembered ▸ new.2⟩
  have all := TelemetrySender.sendsAll_pass steady service
  obtain ⟨final, lawful⟩ := tracks.sendsAll all fun send member =>
    awake send.2 (TelemetrySender.mem_readings member)
  refine ⟨final, fun stream sampled => ?_⟩
  refine ⟨lawful stream sampled, fun zero new complete => ?_⟩
  have notRaw : stream ≠ .outputRaw := by
    rintro rfl
    exact raw zero new
  obtain ⟨timestamp, present⟩ := Option.isSome_iff_exists.mp new.1
  have always := (final.adopted stream).zero.mp (by rw [asked_foldl_note, zero])
  have settled := TelemetrySender.settled_pass complete stream sampled.1 sampled.2 notRaw always
    timestamp present
  -- An unsent stream would have kept the sample it had sent before.
  have sent : stream ∈ (sender.pass service sensors).sends.map Prod.fst := by
    by_contra unsent
    have remembered := final.remembered stream sampled
    rw [settled, reported_foldl_note record unsent] at remembered
    exact new.2 (remembered.symm.trans present.symm)
  have once := (lawful stream sampled).once
  have counted := List.count_pos_iff.mpr sent
  omega

/-- Rates adopted from the parameters keep the record in agreement. -/
theorem Tracks.configure (tracks : record.Tracks sender) (params : Params F) :
    (record.configure params).Tracks (sender.configureTelemetryFromParams params) where
  remembered stream sampled := tracks.remembered stream sampled
  adopted stream := rateAdopted params stream.rateParam
  -- Every period starts afresh.
  slots _ _ _ _ _ := Or.inl ⟨rfl, rfl, rfl⟩

/-- One changed rate parameter keeps the record in agreement, unless it sets a positive rate of a
sampled stream at clock zero. -/
theorem Tracks.change (tracks : record.Tracks sender) (params : Params F) {id : ParamId}
    (found : telemetryStreamForParam id = some stream)
    (awake : nowUs.val = 0 → stream.Sampled → ¬ AsksPositive (params.getById id)) :
    (record.change stream (params.getById id) nowUs).Tracks
      (sender.updateTelemetryParam params id nowUs).1 := by
  obtain ⟨rates, memory, periods⟩ :=
    sender.updateTelemetryParam_of_some params nowUs.val found
  refine ⟨fun other sampled => ?_, fun other => ?_, fun other sampled rateHz positive asked => ?_⟩
  · rw [memory]
    exact tracks.remembered other sampled
  · rw [rates]
    simp only [TelemetryRecord.change, Function.update_apply]
    split
    · exact rateAdopted params id
    · exact tracks.adopted other
  · rw [periods other sampled]
    by_cases same : other = stream
    · -- The slots of the changed stream are counted from the change.
      subst same
      simp only [TelemetryRecord.change, Function.update_self] at asked
      have later : nowUs.val ≠ 0 := fun midnight =>
        awake midnight sampled ⟨rateHz, positive, asked⟩
      rw [if_pos rfl]
      refine Or.inr ⟨later, nowUs, fun thenUs => ?_, ?_⟩
      · simp only [slotStartUs, TelemetryRecord.change, Function.update_self, Option.getD_some]
      · simp only [TelemetryRecord.change, Function.update_self]
        exact Library.oncePerSlot_nil
    · simp only [TelemetryRecord.change, Function.update_of_ne same] at asked
      rw [if_neg same]
      simpa only [KeepsSlots, slotStartUs, TelemetryRecord.change, Function.update_of_ne same] using
        tracks.slots other sampled rateHz positive asked

end Sends

end TelemetryRecord

namespace TelemetryWatch

/-- A new sender has sent nothing, and its record says so. -/
theorem tracks_start (nowUs : Nat) (params : Params F) :
    (start nowUs params).record.Tracks (start nowUs params).sender where
  remembered stream _ := by cases stream <;> rfl
  adopted stream := rateAdopted params stream.rateParam
  slots _ _ _ _ _ := Or.inl ⟨rfl, rfl, rfl⟩

/-- A sound event keeps the rates and the record in agreement. -/
theorem keepsRates_step {watch : TelemetryWatch F} (tracks : watch.record.Tracks watch.sender)
    {event : TelemetryEvent F R} (sound : watch.Sound event) :
    watch.KeepsRates event ∧ (watch.step event).record.Tracks (watch.step event).sender := by
  cases event with
  | configure params => exact ⟨trivial, tracks.configure params⟩
  | update params id nowUs =>
    refine ⟨trivial, ?_⟩
    -- Only the rate parameter of a stream is noted.
    simp only [step]
    cases found : telemetryStreamForParam id with
    | none =>
      simpa only [TelemetrySender.updateTelemetryParam, found] using tracks
    | some stream => exact tracks.change params found fun midnight => sound midnight stream found
  | pass service sensors =>
    obtain ⟨kept, lawful⟩ := tracks.pass service sound.1 sound.2
    exact ⟨lawful, kept⟩

/-- In every run of a new sender in which raw outputs at rate zero find no new sample and no
positive rate starts at clock zero, every pass keeps the rate of every sampled stream, whether or
not the clock ever goes back. -/
theorem keepsRates_along (nowUs : Nat) (params : Params F) {events : List (TelemetryEvent F R)}
    (sound : Library.Along Sound step (start nowUs params) events) :
    Library.Along KeepsRates step (start nowUs params) events :=
  -- The agreement of the record with the sender is what every sound event preserves.
  Library.along_of_along (fun watch => watch.record.Tracks watch.sender)
    (fun _ _ tracks lawful => keepsRates_step tracks lawful) (tracks_start nowUs params) sound

/-- Inertial samples that are sent at rate zero, then at a rate that has been changed to a hundred
hertz, once by the batch and once by a call of their own. -/
def paceChanged : List (TelemetryEvent ℚ ℚ) :=
  [.pass (.batch ⟨1000, by decide⟩) (TelemetrySender.imuSnapshot 1000),
    .update (Params.new.setById .PARAM_TELEM_IMU_HZ (.int 100)) .PARAM_TELEM_IMU_HZ
      ⟨2000, by decide⟩,
    .pass (.realtime [] [⟨12000, by decide⟩]) (TelemetrySender.imuSnapshot 11000)]

/-- Every pass of that run keeps the rates. -/
theorem keepsRates_paceChanged :
    Library.Along KeepsRates step (start 0 Params.new) paceChanged := by
  -- Raw outputs run at fifty hertz, and no clock is at zero.
  refine keepsRates_along 0 Params.new ⟨⟨?_, ?_⟩, ?_, ⟨?_, ?_⟩, trivial⟩
  · exact fun zero => absurd zero (by decide)
  · intro nowUs member midnight
    rw [List.mem_singleton.mp member] at midnight
    exact absurd midnight (by decide)
  · exact fun midnight => absurd midnight (by decide)
  · exact fun zero => absurd zero (by decide)
  · intro nowUs member midnight
    rw [List.mem_singleton.mp member] at midnight
    exact absurd midnight (by decide)

/-- Default parameters with raw outputs at rate zero. -/
def rawOutputsZero : Params ℚ := Params.new.setById .PARAM_TELEM_OUTPUT_RAW_HZ (.int 0)

/-- Default parameters with inertial samples at a hundred hertz. -/
def imuHundred : Params ℚ := Params.new.setById .PARAM_TELEM_IMU_HZ (.int 100)

/-- Raw outputs at rate zero are not sent for a new sample, and inertial samples at a hundred hertz
are sent twice in one slot that starts at clock zero. -/
theorem not_keepsRates_along :
    ¬ Library.Along KeepsRates step (start 0 rawOutputsZero)
        [.pass (.batch ⟨1000, by decide⟩) (TelemetrySender.imuSnapshot 1000)] ∧
      ¬ Library.Along KeepsRates step (start 0 imuHundred)
        [.pass (.batch ⟨0, by decide⟩) (TelemetrySender.imuSnapshot 7),
          .pass (.batch ⟨1, by decide⟩) (TelemetrySender.imuSnapshot 8)] := by
  -- The first pass leaves the raw outputs out, and the second comes a microsecond too early.
  constructor
  · rintro ⟨kept, _⟩
    have sent := (kept .outputRaw ⟨by decide, by decide⟩).always (by decide) ⟨rfl, by decide⟩ rfl
    revert sent
    decide
  · rintro ⟨_, kept, _⟩
    have apart := (kept .imu ⟨by decide, by decide⟩).spaced 100 (by decide) (by decide)
      ⟨1, by decide⟩ (by decide) 0 (by decide)
    revert apart
    decide

end TelemetryWatch

end Veloxity
