import Veloxity.World.ResponseLog

/-! Which of the parameters that the vehicle changes itself are reported to the companion. -/

namespace Veloxity

open Library (Along along_congr)

variable {F R S O E C M D : Type}

/-- The changes that have been queued between two states of the queues, with their new values. -/
def ParamEventQueues.changedSince (before after : ParamEventQueues F) :
    List (ParamId × ParamValue F) :=
  (after.changes.items.drop before.changes.items.length).map fun change => (change.id, change.new)

/-- Nothing waits to be served, to be reacted to or to be sent. -/
def World.Drained (world : World F R E C M D) : Prop :=
  (world.paramEvents.setRequests.items.length = 0 ∧
    world.paramEvents.readRequests.items.length = 0 ∧
    world.paramEvents.listRequests.items.length = 0) ∧
  world.paramEvents.changes.items.length = 0 ∧ world.commEvents.responses.items.length = 0

instance (world : World F R E C M D) : Decidable world.Drained :=
  inferInstanceAs (Decidable ((_ ∧ _ ∧ _) ∧ _ ∧ _))

namespace World

section

variable [FlightFloat F] [FlightFloat R] [FloatCast F R] [ReflectionFormat F] [Estimator F R S E]
  [Controller F R S O C] [Mixer F R O M] [PwmDriver R D]

/-- What the vehicle changes itself in a stage, before the companion's requests are answered. -/
def changesBeforeAnswers (world : World F R E C M D) (stage : Stage F R) :
    List (ParamId × ParamValue F) :=
  match stage.received with
  | some input => world.paramEvents.changedSince (world.commanded input).paramEvents
  | none => world.paramEvents.changedSince (world.stage stage).paramEvents

/-- What the vehicle changes itself in a stage, after the companion's requests are answered. -/
def changesAfterAnswers (world : World F R E C M D) (stage : Stage F R) :
    List (ParamId × ParamValue F) :=
  match stage.received with
  | some input => (world.serveReceived input).paramEvents.changedSince
      (world.serveReceived input).requestGyroCalibrationIfNeeded.paramEvents
  | none => []

/-- The responses that a stage adds to those sent or waiting. -/
def newResponses (world : World F R E C M D) (stage : Stage F R) : List (CommResponse F) :=
  (world.stage stage).responseLog.drop world.responseLog.length

/-- A stage queues a report of a parameter with this value. -/
def Reports (world : World F R E C M D) (stage : Stage F R) (change : ParamId × ParamValue F) :
    Prop :=
  some (change.1.toIndex, change.2) ∈ (world.newResponses stage).map CommResponse.report

/-- The companion asks for a parameter while it has this value, and there is room to answer. -/
def Asks (world : World F R E C M D) (stage : Stage F R) (change : ParamId × ParamValue F) : Prop :=
  ∃ input, stage.received = some input ∧
    change ∈ (world.commanded input).paramService.answers.take
      (COMM_RESPONSE_QUEUE_CAPACITY - (world.commanded input).commEvents.responses.items.length)

end

end World

/-- A run with those changes of the vehicle's own that have not been reported since, and those
that the companion has not asked for since. -/
structure ChangeWatch (F R E C M D : Type) where
  world : World F R E C M D
  unreported : Set (ParamId × ParamValue F)
  unasked : Set (ParamId × ParamValue F)

namespace ChangeWatch

variable [FlightFloat F] [FlightFloat R] [FloatCast F R] [ReflectionFormat F] [Estimator F R S E]
  [Controller F R S O C] [Mixer F R O M] [PwmDriver R D]

/-- What waits after a stage: what waited before or was changed first and is not settled by then,
and what was changed last. -/
def waitingAfter (world : World F R E C M D) (stage : Stage F R)
    (waiting : Set (ParamId × ParamValue F)) (settles : ParamId × ParamValue F → Prop) :
    Set (ParamId × ParamValue F) :=
  {change | ((change ∈ waiting ∨ change ∈ world.changesBeforeAnswers stage) ∧ ¬ settles change) ∨
    change ∈ world.changesAfterAnswers stage}

/-- Run a stage, and note which changes wait after it. -/
def step (watch : ChangeWatch F R E C M D) (stage : Stage F R) : ChangeWatch F R E C M D where
  world := watch.world.stage stage
  unreported := waitingAfter watch.world stage watch.unreported (watch.world.Reports stage)
  unasked := waitingAfter watch.world stage watch.unasked (watch.world.Asks stage)

/-- Once the queues are drained every change of the vehicle's own has been reported. -/
def ReportsChanges (watch : ChangeWatch F R E C M D) (stage : Stage F R) : Prop :=
  (watch.step stage).world.Drained → (watch.step stage).unreported = ∅

/-- By the time the queues are drained the companion has itself asked for every change of the
vehicle's own. -/
def AsksForChanges (watch : ChangeWatch F R E C M D) (stage : Stage F R) : Prop :=
  (watch.step stage).world.Drained → (watch.step stage).unasked = ∅

end ChangeWatch

section Laws

variable [FlightFloat F] [FlightFloat R] [FloatCast F R] [ReflectionFormat F] [Estimator F R S E]
  [Controller F R S O C] [Mixer F R O M] [PwmDriver R D]

omit [FlightFloat F] [FlightFloat R] [FloatCast F R] [ReflectionFormat F] [Estimator F R S E]
  [Controller F R S O C] [Mixer F R O M] [PwmDriver R D] in
/-- Responses that report no parameter report nothing. -/
theorem not_mem_report {responses : List (CommResponse F)}
    (quiet : ∀ response ∈ responses, response.reportedIndex = none) (report : Nat × ParamValue F) :
    some report ∉ responses.map CommResponse.report := by
  intro member
  obtain ⟨response, listed, same⟩ := List.mem_map.mp member
  -- What is reported has an index.
  have index := quiet response listed
  cases response with
  | paramValue msg => cases index
  | _ => cases same

namespace World

/-- A stage reports a parameter exactly when the companion asks for it. -/
theorem reports_iff_asks (world : World F R E C M D) (stage : Stage F R)
    (change : ParamId × ParamValue F) : world.Reports stage change ↔ world.Asks stage change := by
  unfold Reports Asks newResponses
  cases receives : stage.received with
  | none =>
    -- Other stages add log texts at most.
    obtain ⟨texts, grown⟩ := world.responseLog_of_not_communication receives
    rw [grown, List.drop_left]
    constructor
    · intro reported
      refine absurd reported (not_mem_report ?_ _)
      intro response member
      obtain ⟨_, _, rfl⟩ := List.mem_map.mp member
      rfl
    · rintro ⟨_, absent, _⟩
      cases absent
  | some input =>
    obtain rfl := Stage.eq_communication receives
    obtain ⟨early, quiet, commanded⟩ := world.responds_beforeParams input
    obtain ⟨late, reported, served⟩ := world.responds_afterCommands input
    have grown : (world.stage (.communication input)).responseLog =
        world.responseLog ++ (early.take (COMM_RESPONSE_QUEUE_CAPACITY -
            world.commEvents.responses.items.length) ++
          late.take (COMM_RESPONSE_QUEUE_CAPACITY -
            (world.commanded input).commEvents.responses.items.length)) := by
      rw [← List.append_assoc, ← commanded.responseLog]
      exact served.responseLog
    have silent : some (change.1.toIndex, change.2) ∉ (early.take (COMM_RESPONSE_QUEUE_CAPACITY -
        world.commEvents.responses.items.length)).map CommResponse.report :=
      not_mem_report (fun response member => quiet response (List.mem_of_mem_take member)) _
    rw [grown, List.drop_left, List.map_append, List.mem_append, or_iff_right silent, List.map_take,
      reported, ← List.map_take]
    constructor
    · intro listed
      obtain ⟨answer, member, same⟩ := List.mem_map.mp listed
      obtain ⟨index, value⟩ := Prod.mk.inj (Option.some.inj same)
      -- An index names one parameter.
      have equal : answer = change := Prod.ext (ParamId.toIndex_inj.mp index) value
      exact ⟨input, rfl, equal ▸ member⟩
    · rintro ⟨given, same, member⟩
      obtain rfl : input = given := Option.some.inj same
      exact List.mem_map.mpr ⟨change, member, rfl⟩

end World

namespace ChangeWatch

omit [FlightFloat F] [FlightFloat R] [FloatCast F R] [ReflectionFormat F] [Estimator F R S E]
  [Controller F R S O C] [Mixer F R O M] [PwmDriver R D] in
/-- A run that begins with nothing to report. -/
def start (world : World F R E C M D) : ChangeWatch F R E C M D :=
  { world, unreported := ∅, unasked := ∅ }

/-- What has not been reported is always what the companion has not asked for. -/
theorem unreported_step (watch : ChangeWatch F R E C M D) (stage : Stage F R)
    (same : watch.unreported = watch.unasked) :
    (watch.step stage).unreported = (watch.step stage).unasked := by
  -- A stage takes the same changes out of both.
  have settled : watch.world.Reports stage = watch.world.Asks stage :=
    funext fun change => propext (watch.world.reports_iff_asks stage change)
  rw [step, same, settled]

/-- A stage leaves every change reported once the queues are drained exactly when the companion
has asked for them all by then. -/
theorem reportsChanges_iff (watch : ChangeWatch F R E C M D) (stage : Stage F R)
    (same : watch.unreported = watch.unasked) :
    watch.ReportsChanges stage ↔ watch.AsksForChanges stage := by
  unfold ReportsChanges AsksForChanges
  rw [unreported_step watch stage same]

/-- A change that waits unasked for is unreported when a stage without requests drains the
queues. -/
theorem not_reportsChanges_of_unasked {watch : ChangeWatch F R E C M D} {stage : Stage F R}
    {change : ParamId × ParamValue F} (same : watch.unreported = watch.unasked)
    (waits : change ∈ watch.unasked) (silent : stage.received = none)
    (drained : (watch.world.stage stage).Drained) : ¬ watch.ReportsChanges stage := by
  -- What waits unasked for is still unasked for after the stage.
  intro reports
  have none := (reportsChanges_iff watch stage same).mp reports drained
  have still : change ∈ (watch.step stage).unasked := by
    refine Or.inl ⟨Or.inl waits, ?_⟩
    rintro ⟨_, received, _⟩
    rw [silent] at received
    cases received
  rw [none] at still
  exact still

/-- What a stage changes before any answers waits unasked for if the companion asks for nothing. -/
theorem exists_unasked_step {watch : ChangeWatch F R E C M D} {input : CommStageInput F}
    (changes : (watch.world.changesBeforeAnswers (.communication input)).length ≠ 0)
    (silent : (watch.world.commanded input).paramService.answers.length = 0) :
    ∃ change, change ∈ (watch.step (.communication input)).unasked := by
  obtain ⟨change, changed⟩ := List.exists_mem_of_length_pos (Nat.pos_of_ne_zero changes)
  refine ⟨change, Or.inl ⟨Or.inr changed, ?_⟩⟩
  rintro ⟨given, received, asked⟩
  obtain rfl : input = given := Option.some.inj received
  -- There is nothing among the answers.
  rw [List.eq_nil_of_length_eq_zero silent, List.take_nil] at asked
  cases asked

/-- In every run the vehicle's own changes are all reported by the time the queues are drained
exactly when the companion has itself asked for each of them by then. -/
theorem reportsChanges_along_iff (params : Params F) (state : StateManager) (estimator : E)
    (controller : C) (mixer : M) (pwm : D) (nowUs : Nat) (backup : Option RosflightHardErrorMsg)
    (stages : List (Stage F R)) :
    Along ReportsChanges step
        (start (World.init params state estimator controller mixer pwm nowUs backup)) stages ↔
      Along AsksForChanges step
        (start (World.init params state estimator controller mixer pwm nowUs backup)) stages :=
  along_congr (fun watch => watch.unreported = watch.unasked) unreported_step reportsChanges_iff rfl
    stages

end ChangeWatch

end Laws

/-- A companion that has the gyro calibrated, and asks for no parameter. -/
def gyroCalibrationInput : CommStageInput ℚ where
  incoming := [.cmd .gyroCalibration]
  clock := { timesyncUs := 1000, offboardUs := 1000 }
  storage := { readParams := fun _ params => (params, true), writeParams := fun _ _ => true }
  reactionUs := 1000

/-- The bias that is set to zero is not reported, although every queue is drained. -/
theorem gyroCalibrationInput_unreported :
    ¬ Along ChangeWatch.ReportsChanges ChangeWatch.step
      (ChangeWatch.start (benchWorld switchParams 8 : BenchWorld ℚ ℚ))
      [.communication gyroCalibrationInput, .responses none COMM_RESPONSE_QUEUE_CAPACITY] := by
  have changes : ((benchWorld switchParams 8 : BenchWorld ℚ ℚ).changesBeforeAnswers
      (.communication gyroCalibrationInput)).length ≠ 0 := by
    decide +kernel
  have silent : ((benchWorld switchParams 8 : BenchWorld ℚ ℚ).commanded
      gyroCalibrationInput).paramService.answers.length = 0 := by
    decide +kernel
  have drained : (((benchWorld switchParams 8 : BenchWorld ℚ ℚ).stage
      (.communication gyroCalibrationInput)).stage
        (.responses none COMM_RESPONSE_QUEUE_CAPACITY)).Drained := by
    decide +kernel
  rintro ⟨_, reports, _⟩
  -- The change of the first stage waits while the second drains the queues.
  have waiting : ∃ change, change ∈ ((ChangeWatch.start (benchWorld switchParams 8 :
      BenchWorld ℚ ℚ)).step (.communication gyroCalibrationInput)).unasked :=
    ChangeWatch.exists_unasked_step changes silent
  obtain ⟨change, waits⟩ := waiting
  exact ChangeWatch.not_reportsChanges_of_unasked (ChangeWatch.unreported_step _ _ rfl) waits rfl
    drained reports

end Veloxity
