import Veloxity.Library.PeriodicDeadline
import Veloxity.World.Bench
import Veloxity.World.StageFrames

/-! Fixed-rate control consumes at most one update in each slot of its schedule. -/

namespace Veloxity

open Library (caughtUp slot)

variable {F R S O E C M D : Type}

namespace Stage

/-- The clock a stage reads for fixed-rate control. -/
def controlClock : Stage F R → Option Nat
  | .imuTick input => some input.nowUs
  | .controlUpdate nowUs _ => some nowUs
  | .controlRate _ nowUs => some nowUs
  | _ => none

end Stage

namespace World

/-- Worlds on one schedule move their deadlines on alike. -/
theorem schedule_consume_congr {first second : World F R E C M D}
    (same : first.schedule = second.schedule) (nowUs : Nat) :
    (first.consumeControlUpdateDeadline nowUs).schedule =
      (second.consumeControlUpdateDeadline nowUs).schedule := by
  obtain ⟨rate, last⟩ := Prod.mk.inj same
  -- Only the rate and the last update are read.
  by_cases unpaced : first.controlHz = 0
  · have idle : second.controlHz = 0 := rate ▸ unpaced
    simp [consumeControlUpdateDeadline, unpaced, idle, schedule, last]
  · have going : second.controlHz ≠ 0 := rate ▸ unpaced
    simp [consumeControlUpdateDeadline, going, schedule, controlIntervalUs, rate, last]

/-- Sending responses keeps the schedule of control. -/
theorem drainLogsAndSendResponses_schedule (world : World F R E C M D)
    (log : Option StatustextMsg) :
    (world.drainLogsAndSendResponses log).schedule = world.schedule := by
  obtain ⟨commEvents, drained⟩ := world.drainLogs_eq log
  rw [drainLogsAndSendResponses, drained]
  rfl

/-- Sending some responses keeps the schedule of control. -/
theorem drainLogsAndSendResponsesLimited_schedule (world : World F R E C M D)
    (log : Option StatustextMsg) (maxResponses : Nat) :
    (world.drainLogsAndSendResponsesLimited log maxResponses).schedule = world.schedule := by
  obtain ⟨commEvents, drained⟩ := world.drainLogs_eq log
  rw [drainLogsAndSendResponsesLimited, drained]
  rfl

section

variable [FlightFloat F] [FlightFloat R] [FloatCast F R] [ReflectionFormat F] [Estimator F R S E]
  [Controller F R S O C] [Mixer F R O M] [PwmDriver R D]

omit [ReflectionFormat F] [Controller F R S O C] [Mixer F R O M] [PwmDriver R D] in
/-- The schedule a stage leaves: its deadline moved on when it consumes an update. -/
def scheduleAfter (world : World F R E C M D) (stage : Stage F R) : Nat × Nat :=
  match world.consumesControlAt stage with
  | some nowUs => (world.consumeControlUpdateDeadline nowUs).schedule
  | none => world.schedule

omit [ReflectionFormat F] in
/-- A stage that asks for control leaves the schedule moved on exactly when it may run. -/
theorem schedule_runControlAndMixingStageIfControlDue {world ready : World F R E C M D}
    {stage : Stage F R} {nowUs : Nat} (asks : world.paced stage = some (ready, nowUs))
    (finishedUs : Nat) :
    (noteControl (ready.runControlAndMixingStageIfControlDue nowUs) finishedUs).schedule =
      world.scheduleAfter stage := by
  have same := (world.unserved_paced asks).schedule
  -- What runs before control does not touch the schedule.
  have due := (ready.runControlAndMixingStageIfControlDue_schedule nowUs).2
  rw [(unserved_noteControl _ finishedUs).schedule, due, scheduleAfter, consumesControlAt, asks]
  dsimp only
  split
  · exact schedule_consume_congr same nowUs
  · exact same

/-- Every stage but a change of the rate leaves that schedule. -/
theorem schedule_stage (world : World F R E C M D) (stage : Stage F R)
    (kept : ∀ controlHz nowUs, stage ≠ .controlRate controlHz nowUs) :
    (world.stage stage).schedule = world.scheduleAfter stage := by
  cases stage with
  | communication input =>
    exact (world.unserved_communication input).schedule.trans (world.serveReceived_schedule input)
  | sensors input log =>
    -- The responses are sent after the samples have been processed.
    have processed := (world.unserved_processSensorBusAfterUpdate input.raw input.nowMs).trans
      (unserved_updateSensorHealthAndCalibration _ input.nowUs)
    exact (drainLogsAndSendResponses_schedule _ log).trans processed.schedule
  | serviceSensors input =>
    have processed := world.unserved_sensed
      (show world.sensed (.serviceSensors input) = some (_, input.nowUs) from rfl)
    exact (processed.trans (unserved_updateSensorHealthAndCalibration _ input.nowUs)).schedule
  | imuTick input =>
    exact schedule_runControlAndMixingStageIfControlDue
      (show world.paced (.imuTick input) = some (_, input.nowUs) from rfl) input.finishedUs
  | controlUpdate nowUs finishedUs =>
    exact schedule_runControlAndMixingStageIfControlDue
      (show world.paced (.controlUpdate nowUs finishedUs) = some (world, nowUs) from rfl) finishedUs
  | rcCommand nowMs freshRc => exact (world.unserved_runRcCommandStateStages nowMs freshRc).schedule
  | control => exact world.unserved_runControlAndMixingStageIfNewImu.schedule
  | telemetry nowUs => exact (world.unserved_runTelemetryStage nowUs).schedule
  | realtimeTelemetry nowUs => rfl
  | responses log maxResponses =>
    exact world.drainLogsAndSendResponsesLimited_schedule log maxResponses
  | controlRate controlHz nowUs => exact absurd rfl (kept controlHz nowUs)
  | serviceOpportunity nextUs => rfl

omit [ReflectionFormat F] [Controller F R S O C] [Mixer F R O M] [PwmDriver R D] in
/-- An update is only consumed at the stage's clock, once a whole interval has passed. -/
theorem due_of_consumesControlAt {world : World F R E C M D} {stage : Stage F R} {nowUs : Nat}
    (consumes : world.consumesControlAt stage = some nowUs) :
    stage.controlClock = some nowUs ∧ world.controlHz ≠ 0 ∧
      world.controlIntervalUs ≤ nowUs - world.lastControlUpdateUs := by
  unfold consumesControlAt at consumes
  split at consumes
  · rename_i ready asked asks
    split at consumes
    · rename_i may
      obtain rfl := Option.some.inj consumes
      obtain ⟨rate, last⟩ := Prod.mk.inj (world.unserved_paced asks).schedule
      -- What is due in the ready world is due in the world before it.
      have due := may.2
      simp only [controlUpdateCanRunAt, controlUpdateDueAt, controlIntervalUs, Bool.and_eq_true,
        decide_eq_true_eq, rate, last] at due
      refine ⟨?_, rate ▸ may.1, due.1.2⟩
      cases stage with
      | imuTick input => exact congrArg some (Prod.mk.inj (Option.some.inj asks)).2
      | controlUpdate nowUs finishedUs => exact congrArg some (Prod.mk.inj (Option.some.inj asks)).2
      | _ => cases asks
    · cases consumes
  · cases consumes

omit [FlightFloat F] [FlightFloat R] [FloatCast F R] [ReflectionFormat F] [Estimator F R S E]
  [Controller F R S O C] [Mixer F R O M] [PwmDriver R D] in
/-- Within the clock's range no saturation shows, and the deadline is caught up. -/
theorem lastControlUpdateUs_consume {world : World F R E C M D} {nowUs : Nat}
    (paced : world.controlHz ≠ 0) (past : world.lastControlUpdateUs ≤ nowUs)
    (word : nowUs < longWordSize) :
    (world.consumeControlUpdateDeadline nowUs).lastControlUpdateUs =
      caughtUp world.controlIntervalUs world.lastControlUpdateUs nowUs := by
  -- The caught-up time is no later than the clock, which is a word.
  have bound : caughtUp world.controlIntervalUs world.lastControlUpdateUs nowUs ≤ nowUs :=
    Library.caughtUp_le past
  simp only [consumeControlUpdateDeadline, if_neg paced, saturatingAddU64, saturatingMulU64]
  rw [caughtUp] at bound ⊢
  omega

end

end World

/-- A world with its control schedule: when it began, its last clock and its updates since. -/
structure SlotWatch (F R E C M D : Type) where
  world : World F R E C M D
  startUs : Nat
  clockUs : Nat
  consumed : List Nat

namespace SlotWatch

variable [FlightFloat F] [FlightFloat R] [FloatCast F R] [ReflectionFormat F] [Estimator F R S E]
  [Controller F R S O C] [Mixer F R O M] [PwmDriver R D]

/-- Run a stage, where a change of the rate begins a new schedule. -/
def step (watch : SlotWatch F R E C M D) (stage : Stage F R) : SlotWatch F R E C M D :=
  match stage with
  | .controlRate _ nowUs =>
    { world := watch.world.stage stage, startUs := nowUs, clockUs := nowUs, consumed := [] }
  | _ =>
    { world := watch.world.stage stage
      startUs := watch.startUs
      clockUs := stage.controlClock.getD watch.clockUs
      consumed := watch.consumed ++ (watch.world.consumesControlAt stage).toList }

omit [ReflectionFormat F] [Estimator F R S E] [Controller F R S O C] [Mixer F R O M]
  [PwmDriver R D] [FlightFloat F] [FlightFloat R] [FloatCast F R] in
/-- A world whose control rate has just been chosen. -/
def start (world : World F R E C M D) (controlHz startUs : Nat) : SlotWatch F R E C M D where
  world := world.setControlLoopRates controlHz startUs
  startUs := startUs
  clockUs := startUs
  consumed := []

/-- The slot of the schedule a clock reading falls in. -/
def slotOf (watch : SlotWatch F R E C M D) (nowUs : Nat) : Nat :=
  slot watch.world.controlIntervalUs watch.startUs nowUs

/-- The update time keeps the phase of the schedule and the updates keep to their own slots. -/
structure OnSchedule (watch : SlotWatch F R E C M D) : Prop where
  positive : 0 < watch.world.controlIntervalUs
  began : watch.startUs ≤ watch.world.lastControlUpdateUs
  phase : watch.world.lastControlUpdateUs ≡ watch.startUs [MOD watch.world.controlIntervalUs]
  notAhead : watch.world.lastControlUpdateUs ≤ watch.clockUs
  slots : (watch.consumed.map watch.slotOf).Pairwise (· < ·)
  latest :
      ∀ nowUs ∈ watch.consumed, watch.slotOf nowUs ≤ watch.slotOf watch.world.lastControlUpdateUs

/-- While there is a control rate, a stage keeps the schedule and is not behind once it ran. -/
def KeepsSchedule (watch : SlotWatch F R E C M D) (stage : Stage F R) : Prop :=
  (watch.step stage).world.controlHz ≠ 0 →
    (watch.step stage).OnSchedule ∧
      ∀ nowUs, watch.world.consumesControlAt stage = some nowUs →
        nowUs < (watch.step stage).world.lastControlUpdateUs +
          (watch.step stage).world.controlIntervalUs

/-- Clock readings that never go back and fit their word, and rates that fit theirs. -/
structure Clocked (startUs : Nat) (stages : List (Stage F R)) : Prop where
  ordered : (startUs :: stages.filterMap Stage.controlClock).Pairwise (· ≤ ·)
  words : ∀ nowUs ∈ stages.filterMap Stage.controlClock, nowUs < longWordSize
  rates : ∀ controlHz nowUs, .controlRate controlHz nowUs ∈ stages → controlHz ≤ 65535

omit [FlightFloat F] [FlightFloat R] [FloatCast F R] [ReflectionFormat F] [Estimator F R S E]
  [Controller F R S O C] [Mixer F R O M] [PwmDriver R D] in
/-- Every rate that fits its word has an interval. -/
theorem interval_positive {world : World F R E C M D} (paced : world.controlHz ≠ 0)
    (word : world.controlHz ≤ 65535) : 0 < world.controlIntervalUs := by
  apply Nat.div_pos
  · omega
  · omega

/-- A stage that keeps the rate carries the watch on. -/
theorem step_of_kept (watch : SlotWatch F R E C M D) (stage : Stage F R)
    (kept : ∀ controlHz nowUs, stage ≠ .controlRate controlHz nowUs) :
    watch.step stage =
      { world := watch.world.stage stage
        startUs := watch.startUs
        clockUs := stage.controlClock.getD watch.clockUs
        consumed := watch.consumed ++ (watch.world.consumesControlAt stage).toList } := by
  cases stage with
  | controlRate controlHz nowUs => exact absurd rfl (kept controlHz nowUs)
  | _ => rfl

omit [FlightFloat F] [FlightFloat R] [FloatCast F R] [ReflectionFormat F] [Estimator F R S E]
  [Controller F R S O C] [Mixer F R O M] [PwmDriver R D] in
/-- Watches on one schedule count its slots alike. -/
theorem slotOf_congr {after before : SlotWatch F R E C M D}
    (rate : after.world.controlHz = before.world.controlHz)
    (started : after.startUs = before.startUs) : after.slotOf = before.slotOf := by
  funext nowUs
  simp only [slotOf, World.controlIntervalUs, rate, started]

omit [FlightFloat F] [FlightFloat R] [FloatCast F R] [ReflectionFormat F] [Estimator F R S E]
  [Controller F R S O C] [Mixer F R O M] [PwmDriver R D] in
/-- Without an update the schedule goes on, and the clock does not go back. -/
theorem OnSchedule.rests {watch after : SlotWatch F R E C M D} (scheduled : watch.OnSchedule)
    (rate : after.world.controlHz = watch.world.controlHz)
    (last : after.world.lastControlUpdateUs = watch.world.lastControlUpdateUs)
    (started : after.startUs = watch.startUs) (consumed : after.consumed = watch.consumed)
    (read : watch.clockUs ≤ after.clockUs) : after.OnSchedule := by
  -- The slots depend only on the rate and the start, which both stay.
  have interval : after.world.controlIntervalUs = watch.world.controlIntervalUs := by
    rw [World.controlIntervalUs, rate, World.controlIntervalUs]
  have slots := slotOf_congr rate started
  refine ⟨?_, ?_, ?_, ?_, ?_, ?_⟩
  · rw [interval]
    exact scheduled.positive
  · rw [started, last]
    exact scheduled.began
  · rw [interval, last, started]
    exact scheduled.phase
  · rw [last]
    exact scheduled.notAhead.trans read
  · rw [consumed, slots]
    exact scheduled.slots
  · rw [consumed, slots, last]
    exact scheduled.latest

omit [FlightFloat F] [FlightFloat R] [FloatCast F R] [ReflectionFormat F] [Estimator F R S E]
  [Controller F R S O C] [Mixer F R O M] [PwmDriver R D] in
/-- An update that is due is in a later slot than all before it, and its deadline is caught up. -/
theorem OnSchedule.updates {watch after : SlotWatch F R E C M D} (scheduled : watch.OnSchedule)
    {nowUs : Nat} (rate : after.world.controlHz = watch.world.controlHz)
    (last : after.world.lastControlUpdateUs =
      caughtUp watch.world.controlIntervalUs watch.world.lastControlUpdateUs nowUs)
    (started : after.startUs = watch.startUs)
    (consumed : after.consumed = watch.consumed ++ [nowUs]) (read : after.clockUs = nowUs)
    (past : watch.world.lastControlUpdateUs ≤ nowUs)
    (due : watch.world.controlIntervalUs ≤ nowUs - watch.world.lastControlUpdateUs) :
    after.OnSchedule ∧
      nowUs < after.world.lastControlUpdateUs + after.world.controlIntervalUs := by
  have positive := scheduled.positive
  have interval : after.world.controlIntervalUs = watch.world.controlIntervalUs := by
    rw [World.controlIntervalUs, rate, World.controlIntervalUs]
  have slots := slotOf_congr rate started
  -- The updates keep to their slots, and stay there when the deadline is caught up.
  have kept : Library.OncePerSlot watch.world.controlIntervalUs watch.startUs
      watch.world.lastControlUpdateUs watch.consumed :=
    ⟨scheduled.began, scheduled.phase, scheduled.slots, scheduled.latest⟩
  have next := kept.concat positive (show _ + _ ≤ nowUs by omega)
  refine ⟨⟨?_, ?_, ?_, ?_, ?_, ?_⟩, ?_⟩
  · rw [interval]
    exact positive
  · rw [started, last]
    exact next.began
  · rw [interval, last, started]
    exact next.phase
  · rw [last, read]
    exact Library.caughtUp_le past
  · rw [consumed, slots]
    exact next.slots
  · rw [consumed, slots, last]
    exact next.latest
  · rw [interval, last]
    exact Library.lt_caughtUp_add positive past

/-- A stage that keeps the rate keeps the schedule. -/
theorem OnSchedule.keepsSchedule {watch : SlotWatch F R E C M D} (scheduled : watch.OnSchedule)
    {stage : Stage F R} (kept : ∀ controlHz nowUs, stage ≠ .controlRate controlHz nowUs)
    (clock : ∀ nowUs, stage.controlClock = some nowUs →
      watch.clockUs ≤ nowUs ∧ nowUs < longWordSize) : watch.KeepsSchedule stage := by
  intro _
  have moved := watch.world.schedule_stage stage kept
  have started : (watch.step stage).startUs = watch.startUs := by rw [watch.step_of_kept stage kept]
  have consumed : (watch.step stage).consumed =
      watch.consumed ++ (watch.world.consumesControlAt stage).toList := by
    rw [watch.step_of_kept stage kept]
  have read : (watch.step stage).clockUs = stage.controlClock.getD watch.clockUs := by
    rw [watch.step_of_kept stage kept]
  rw [← show (watch.step stage).world = watch.world.stage stage by
    rw [watch.step_of_kept stage kept]] at moved
  unfold World.scheduleAfter at moved
  cases consumes : watch.world.consumesControlAt stage with
  | none =>
    rw [consumes] at moved consumed
    obtain ⟨rate, last⟩ := Prod.mk.inj moved
    rw [Option.toList_none, List.append_nil] at consumed
    -- The clock is the old one or a later one.
    have later : watch.clockUs ≤ (watch.step stage).clockUs := by
      rw [read]
      cases reads : stage.controlClock with
      | none => exact Nat.le_refl _
      | some nowUs => exact (clock nowUs reads).1
    refine ⟨scheduled.rests rate last started consumed later, ?_⟩
    intro nowUs none
    cases none
  -- An update moves the schedule on to the slot of the clock.
  | some nowUs =>
    obtain ⟨reads, rated, due⟩ := World.due_of_consumesControlAt consumes
    obtain ⟨later, word⟩ := clock nowUs reads
    have past : watch.world.lastControlUpdateUs ≤ nowUs := scheduled.notAhead.trans later
    rw [consumes, Option.toList_some] at consumed
    rw [consumes] at moved
    obtain ⟨rate, last⟩ := Prod.mk.inj moved
    rw [(watch.world.consumeControlUpdateDeadline_rest nowUs).2] at rate
    rw [World.lastControlUpdateUs_consume rated past word] at last
    rw [reads] at read
    obtain ⟨onSchedule, ahead⟩ := scheduled.updates rate last started consumed read past due
    refine ⟨onSchedule, ?_⟩
    intro other same
    obtain rfl := Option.some.inj same
    exact ahead

omit [FlightFloat F] [FlightFloat R] [FloatCast F R] [ReflectionFormat F] [Estimator F R S E]
  [Controller F R S O C] [Mixer F R O M] [PwmDriver R D] in
/-- A new schedule begins with its update time at the clock. -/
theorem onSchedule_start (world : World F R E C M D) {controlHz : Nat} (startUs : Nat)
    (paced : controlHz ≠ 0) (word : controlHz ≤ 65535) :
    (start world controlHz startUs).OnSchedule where
  -- The update time is the clock, and no slot has been used.
  positive := interval_positive paced word
  began := Nat.le_refl startUs
  phase := Nat.ModEq.refl startUs
  notAhead := Nat.le_refl startUs
  slots := List.Pairwise.nil
  latest _ member := absurd member List.not_mem_nil

/-- What holds of the watch between stages. -/
structure Invariant (watch : SlotWatch F R E C M D) : Prop where
  word : watch.world.controlHz ≤ 65535
  scheduled : watch.world.controlHz ≠ 0 → watch.OnSchedule

/-- A stage whose clock and rate fit keeps the schedule and the invariant. -/
theorem Invariant.step {watch : SlotWatch F R E C M D} (invariant : watch.Invariant)
    (stage : Stage F R)
    (clock : ∀ nowUs, stage.controlClock = some nowUs →
      watch.clockUs ≤ nowUs ∧ nowUs < longWordSize)
    (rates : ∀ controlHz nowUs, stage = .controlRate controlHz nowUs → controlHz ≤ 65535) :
    watch.KeepsSchedule stage ∧ (watch.step stage).Invariant := by
  by_cases changes : ∃ controlHz nowUs, stage = .controlRate controlHz nowUs
  · -- A change of the rate begins afresh, and consumes nothing.
    obtain ⟨controlHz, nowUs, rfl⟩ := changes
    have word := rates controlHz nowUs rfl
    refine ⟨fun paced => ⟨onSchedule_start watch.world nowUs paced word, ?_⟩, word,
      fun paced => onSchedule_start watch.world nowUs paced word⟩
    intro other consumes
    cases consumes
  · have kept (controlHz nowUs : Nat) : stage ≠ .controlRate controlHz nowUs := by
      intro same
      exact changes ⟨controlHz, nowUs, same⟩
    have rate : (watch.step stage).world.controlHz = watch.world.controlHz := by
      have moved := watch.world.schedule_stage stage kept
      rw [watch.step_of_kept stage kept]
      unfold World.scheduleAfter at moved
      split at moved
      · rename_i nowUs _
        exact (Prod.mk.inj moved).1.trans (watch.world.consumeControlUpdateDeadline_rest nowUs).2
      · exact (Prod.mk.inj moved).1
    have keeps : watch.KeepsSchedule stage := by
      intro paced
      have scheduled := invariant.scheduled (by rw [← rate]; exact paced)
      exact scheduled.keepsSchedule kept clock paced
    exact ⟨keeps, by rw [rate]; exact invariant.word, fun paced => (keeps paced).1⟩

/-- The watch remembers the last clock that was read. -/
theorem clockUs_step (watch : SlotWatch F R E C M D) (stage : Stage F R) :
    (watch.step stage).clockUs = stage.controlClock.getD watch.clockUs := by
  cases stage <;> rfl

omit [FlightFloat F] [FlightFloat R] [FloatCast F R] [ReflectionFormat F] in
/-- The first clock of a clocked run is no step back, and the rest goes on from it. -/
theorem Clocked.cons {clockUs : Nat} {stage : Stage F R} {rest : List (Stage F R)}
    (clocked : Clocked clockUs (stage :: rest)) :
    (∀ nowUs, stage.controlClock = some nowUs → clockUs ≤ nowUs ∧ nowUs < longWordSize) ∧
      Clocked (stage.controlClock.getD clockUs) rest := by
  obtain ⟨ordered, words, rates⟩ := clocked
  have later (controlHz nowUs : Nat) (member : .controlRate controlHz nowUs ∈ rest) :=
    rates controlHz nowUs (List.mem_cons_of_mem stage member)
  -- A stage that reads no clock adds nothing to the clocks of the run.
  cases reads : stage.controlClock with
  | none =>
    rw [List.filterMap_cons_none reads] at ordered words
    refine ⟨?_, ordered, words, later⟩
    intro nowUs none
    cases none
  | some nowUs =>
    rw [List.filterMap_cons_some reads] at ordered words
    obtain ⟨first, others⟩ := List.pairwise_cons.mp ordered
    refine ⟨?_, others, fun other member => words other (List.mem_cons_of_mem nowUs member), later⟩
    intro other same
    obtain rfl := Option.some.inj same
    exact ⟨first nowUs List.mem_cons_self, words nowUs List.mem_cons_self⟩

/-- Stages of a clocked run keep the schedule from any watch that meets the invariant. -/
theorem Invariant.along {watch : SlotWatch F R E C M D} (invariant : watch.Invariant)
    {stages : List (Stage F R)} (clocked : Clocked watch.clockUs stages) :
    Library.Along KeepsSchedule SlotWatch.step watch stages := by
  -- The induction is on the stages, each of which leaves its clock to the next.
  induction stages generalizing watch with
  | nil => trivial
  | cons stage rest ih =>
    obtain ⟨clock, others⟩ := clocked.cons
    have rates (controlHz nowUs : Nat) (same : stage = .controlRate controlHz nowUs) :
        controlHz ≤ 65535 := clocked.rates controlHz nowUs (same ▸ List.mem_cons_self)
    obtain ⟨keeps, later⟩ := invariant.step stage clock rates
    exact ⟨keeps, ih later (by rw [clockUs_step]; exact others)⟩

/-- At every rate, and over every clock that never goes back, control keeps to its slots. -/
theorem keepsSchedule_along (world : World F R E C M D) (controlHz startUs : Nat)
    (paced : 1 ≤ controlHz) (word : controlHz ≤ 65535) (stages : List (Stage F R))
    (clocked : Clocked startUs stages) :
    (start world controlHz startUs).OnSchedule ∧
      Library.Along KeepsSchedule step (start world controlHz startUs) stages := by
  have begun := onSchedule_start world startUs (Nat.ne_of_gt paced) word
  have invariant : (start world controlHz startUs).Invariant := ⟨word, fun _ => begun⟩
  exact ⟨begun, invariant.along clocked⟩

/-- Two inertial samples, of which the second comes three intervals after the first. -/
def lateUpdates : List (Stage ℚ ℚ) :=
  [.imuTick
      { nowUs := 5000, nowMs := 5, raw := some (.ok (restingSample 5000)), finishedUs := 5100 },
    .imuTick
      { nowUs := 12500, nowMs := 12, raw := some (.ok (restingSample 12500)), finishedUs := 12600 }]

/-- The update of a late sample is the only one of its slot. -/
theorem lateUpdates_keepSchedule :
    (start (benchWorld switchParams 8 : BenchWorld ℚ ℚ) 400 0).OnSchedule ∧
      Library.Along KeepsSchedule step (start (benchWorld switchParams 8 : BenchWorld ℚ ℚ) 400 0)
        lateUpdates := by
  -- The clocks do not go back, and each of them is a word.
  have ordered : (0 :: lateUpdates.filterMap Stage.controlClock).Pairwise (· ≤ ·) := by
    simp [lateUpdates, Stage.controlClock]
  refine keepsSchedule_along _ 400 0 (by decide) (by decide) lateUpdates ⟨ordered, ?_, ?_⟩
  · intro nowUs member
    simp only [lateUpdates, Stage.controlClock, List.filterMap_cons, List.filterMap_nil,
      List.mem_cons, List.not_mem_nil, or_false] at member
    have word : longWordSize = 18446744073709551616 := rfl
    omega
  · intro controlHz nowUs member
    simp [lateUpdates] at member

end SlotWatch

end Veloxity
