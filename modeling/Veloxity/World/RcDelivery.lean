import Veloxity.World.Bench
import Veloxity.World.RealtimeRuns
import Veloxity.World.StageEffects

/-! Whether realtime scheduling delivers every radio-control sample it takes. -/

namespace Veloxity

variable {F R S O E C M D : Type}

section Definitions

variable [FlightFloat F] [FlightFloat R] [FloatCast F R] [ReflectionFormat F] [Estimator F R S E]
  [Controller F R S O C] [Mixer F R O M]

namespace World

/-- Radio-control samples that a step takes from the board. -/
def takenRc (world : World F R E C M D) : RealtimeStep F R → List (RcPacket F)
  | .service policy input =>
    if world.serviceSenses policy input then (takeOkPacket input.sensors.raw.rc).toList else []
  | _ => []

/-- A step runs the radio-control stage. -/
def resolvesRc (world : World F R E C M D) : RealtimeStep F R → Bool
  | .service policy input => world.serviceResolves policy input
  | _ => false

/-- The sample that the radio-control stage of a step is run with, if it runs. -/
def deliveredRc (world : World F R E C M D) : RealtimeStep F R → List (RcPacket F)
  | .service policy input =>
    if world.serviceResolves policy input then (world.serviceFreshRc policy input).toList else []
  | _ => []

/-- A step takes a radio-control sample and is cut off before its radio-control stage. -/
def cutsRc (world : World F R E C M D) (step : RealtimeStep F R) : Bool :=
  !(world.takenRc step).isEmpty && !world.resolvesRc step

omit [FlightFloat R] [FloatCast F R] [ReflectionFormat F] [Estimator F R S E] [Controller F R S O C]
  [Mixer F R O M] in
/-- The receiver, and the state that follows, once it has received samples one after another, each
interpreted before the next. -/
def receiveAll (world : World F R E C M D) (nowMs : Nat) (packets : List (RcPacket F)) :
    Rc F × StateManager :=
  packets.foldl (fun judged packet => (judged.1.receive packet).run nowMs world.params judged.2)
    (world.rc, world.state)

omit [FlightFloat F] [FlightFloat R] [FloatCast F R] [ReflectionFormat F] [Estimator F R S E]
  [Controller F R S O C] [Mixer F R O M] in
/-- The receiver, and the commands that are resolved from it. -/
def pilotPart (world : World F R E C M D) : Rc F × CommandManager F := (world.rc, world.command)

/-- In a step the receiver receives exactly these samples, in this order: a radio-control stage
leaves the receiver and the commands that follow from it, and all else in the step leaves them
alone, the input stage's reactions to parameters aside. -/
def Receives [PwmDriver R D] (world : World F R E C M D) (step : RealtimeStep F R)
    (packets : List (RcPacket F)) : Prop :=
  match step with
  | .service policy input =>
    let served := world.serviceServed policy input
    if world.serviceResolves policy input then
      let judged := served.receiveAll input.rcMs packets
      let pass := served.command.run input.rcMs served.params judged.1 judged.2
      (world.realtimeStep step).pilotPart = (pass.rc, pass.manager)
    else packets = [] ∧ (world.realtimeStep step).pilotPart = served.pilotPart
  | _ => packets = [] ∧ (world.realtimeStep step).pilotPart = world.pilotPart

end World

/-- A realtime run with the radio-control samples taken and delivered so far. -/
structure RcWatch (F R E C M D : Type) where
  world : World F R E C M D
  taken : List (RcPacket F)
  delivered : List (RcPacket F)
  -- Some step has been cut off with a sample taken and not delivered.
  cut : Bool

namespace RcWatch

/-- A watch on a world in which nothing has been taken yet. -/
def start (world : World F R E C M D) : RcWatch F R E C M D :=
  { world, taken := [], delivered := [], cut := false }

/-- The receiver receives what a step delivers, and once the radio-control stage of the step has
run, every sample taken has been delivered, once and in order. -/
def DeliversAll [PwmDriver R D] (watch : RcWatch F R E C M D) (step : RealtimeStep F R) : Prop :=
  watch.world.Receives step (watch.world.deliveredRc step) ∧
    (watch.world.resolvesRc step = true →
      watch.delivered ++ watch.world.deliveredRc step = watch.taken ++ watch.world.takenRc step)

/-- A step runs its radio-control stage only if none was cut off with a sample before. -/
def Uncut (watch : RcWatch F R E C M D) (step : RealtimeStep F R) : Prop :=
  watch.world.resolvesRc step = true → watch.cut = false

/-- Run a step, and note the samples it takes and delivers. -/
def step [PwmDriver R D] (watch : RcWatch F R E C M D) (next : RealtimeStep F R) :
    RcWatch F R E C M D :=
  { world := watch.world.realtimeStep next
    taken := watch.taken ++ watch.world.takenRc next
    delivered := watch.delivered ++ watch.world.deliveredRc next
    cut := watch.cut || watch.world.cutsRc next }

/-- All samples are delivered until a step is cut off, and from then on some are missing. -/
structure Invariant (watch : RcWatch F R E C M D) : Prop where
  complete : watch.cut = false → watch.delivered = watch.taken
  missing : watch.cut = true → watch.delivered.length < watch.taken.length

end RcWatch

end Definitions

section Delivery

variable [FlightFloat F] [FlightFloat R] [FloatCast F R] [Estimator F R S E]

namespace World

/-- Processing a whole bus keeps exactly the radio-control sample it reports. -/
theorem processSensorBusAfterUpdate_rc (world : World F R E C M D) (raw : SensorBus F R)
    (nowMs : Nat) :
    (world.processSensorBusAfterUpdate raw nowMs).processedSensors.rc = takeOkPacket raw.rc := by
  rw [processSensorBusAfterUpdate_processedSensors]
  rfl

/-- A service poll that reports on the radio control keeps exactly the sample it reports. -/
theorem runServiceSensorStage_rc (world : World F R E C M D) {input : SensorStageInput F R}
    (reported : input.raw.rc.isSome = true) :
    (world.runServiceSensorStage input).processedSensors.rc = takeOkPacket input.raw.rc := by
  have checked (ready : World F R E C M D) :
      (ready.updateSensorHealthAndCalibration input.nowUs).processedSensors =
        ready.processedSensors := by
    obtain ⟨state, calFlags, settled⟩ :=
      (ready.noteSensorHealth input.nowUs).settleArmCalibration_eq
    rw [updateSensorHealthAndCalibration, settled]
    rfl
  -- Only a sensor without news keeps its previous sample.
  rw [runServiceSensorStage, checked]
  show (if input.raw.rc.isSome then
    (world.processSensorBusAfterUpdate input.raw input.nowMs).processedSensors.rc else _) = _
  rw [if_pos reported, processSensorBusAfterUpdate_rc]

variable [ReflectionFormat F] [Controller F R S O C] [Mixer F R O M]

/-- Where its radio-control stage runs, a step delivers what it has taken, and nothing else. -/
theorem deliveredRc_eq (world : World F R E C M D) {step : RealtimeStep F R}
    (resolves : world.resolvesRc step = true) : world.deliveredRc step = world.takenRc step := by
  cases step with
  | service policy input =>
    have resolves : world.serviceResolves policy input = true := resolves
    simp only [deliveredRc, takenRc, resolves, if_true]
    cases senses : world.serviceSenses policy input with
    | false => simp [serviceFreshRc, senses]
    | true =>
      cases report : input.sensors.raw.rc with
      | none => simp [serviceFreshRc, report, takeOkPacket]
      | some packet =>
        have reported : input.sensors.raw.rc.isSome = true := by rw [report]; rfl
        -- The input stage comes between, and leaves the samples alone.
        have kept : (world.serviceServed policy input).processedSensors =
            (world.serviceSensed policy input).processedSensors := by
          unfold serviceServed
          split
          · exact (communication_sensors _ _).1
          · rfl
        have sensed : (world.serviceSensed policy input).processedSensors.rc =
            takeOkPacket input.sensors.raw.rc := by
          rw [serviceSensed, if_pos senses]
          exact runServiceSensorStage_rc _ reported
        rw [if_pos rfl, serviceFreshRc, senses, reported, Bool.and_self, if_pos rfl, kept, sensed,
          report]
  | imuControl input => exact nomatch resolves
  | controlUpdate nowUs finishedUs => exact nomatch resolves

omit [FlightFloat R] [FloatCast F R] [Estimator F R S E] [ReflectionFormat F] [Controller F R S O C]
  [Mixer F R O M] in
/-- A radio-control stage has the receiver receive the sample it is run with, if any. -/
theorem judgeRc_eq_receiveAll (world : World F R E C M D) (nowMs : Nat)
    (freshRc : Option (RcPacket F)) :
    world.judgeRc nowMs freshRc = world.receiveAll nowMs freshRc.toList := by
  cases freshRc with
  | none => rfl
  | some packet =>
    -- The fold takes its one step before the two calls of the receiver are compared.
    rw [judgeRc, receiveAll, Option.toList_some, List.foldl_cons, List.foldl_nil]

omit [FlightFloat F] [FlightFloat R] [FloatCast F R] [Estimator F R S E] [ReflectionFormat F]
  [Controller F R S O C] [Mixer F R O M] in
/-- Sending responses leaves the receiver alone. -/
theorem pilotPart_drainLogsAndSendResponsesLimited (world : World F R E C M D)
    (log : Option StatustextMsg) (maxResponses : Nat) :
    (world.drainLogsAndSendResponsesLimited log maxResponses).pilotPart = world.pilotPart := by
  obtain ⟨commEvents, drained⟩ := world.drainLogs_eq log
  -- Only the responses and what sends them are replaced.
  rw [drainLogsAndSendResponsesLimited, drained]
  rfl

/-- A step whose radio-control stage does not run delivers nothing. -/
theorem deliveredRc_of_unresolved (world : World F R E C M D) {step : RealtimeStep F R}
    (unresolved : world.resolvesRc step = false) : world.deliveredRc step = [] := by
  -- Only a service step has a radio-control stage.
  cases step with
  | service policy input =>
    have unresolved : world.serviceResolves policy input = false := unresolved
    simp [deliveredRc, unresolved]
  | imuControl input => rfl
  | controlUpdate nowUs finishedUs => rfl

end World

end Delivery

section Watched

variable [FlightFloat F] [FlightFloat R] [FloatCast F R] [ReflectionFormat F] [Estimator F R S E]
  [Controller F R S O C] [Mixer F R O M] [PwmDriver R D]

namespace World

omit [ReflectionFormat F] in
/-- A control stage that is due leaves the receiver alone. -/
theorem pilotPart_runControlAndMixingStageIfControlDue (world : World F R E C M D) (nowUs : Nat) :
    (world.runControlAndMixingStageIfControlDue nowUs).1.pilotPart = world.pilotPart := by
  obtain ⟨lastControlUpdateUs, moved⟩ := world.consumeControlUpdateDeadline_eq nowUs
  unfold runControlAndMixingStageIfControlDue
  rw [moved]
  -- The pipeline has no access to the receiver.
  split
  · split
    · rfl
    · unfold runControlAndMixingStageWithAccumulatedImu
      dsimp only
      split
      · rfl
      · rfl
  · split
    · rfl
    · rfl

omit [ReflectionFormat F] in
/-- A control update leaves the receiver alone. -/
theorem pilotPart_runControlUpdateTick (world : World F R E C M D) (nowUs finishedUs : Nat) :
    (world.runControlUpdateTick nowUs finishedUs).pilotPart = world.pilotPart := by
  obtain ⟨lastRealtimeControlUs, noted⟩ :=
    noteControl_eq (world.runControlAndMixingStageIfControlDue nowUs) finishedUs
  rw [runControlUpdateTick, noted]
  exact world.pilotPart_runControlAndMixingStageIfControlDue nowUs

omit [ReflectionFormat F] in
/-- An inertial tick leaves the receiver alone. -/
theorem pilotPart_runImuControlTick (world : World F R E C M D) (input : ImuTickInput F R) :
    (world.runImuControlTick input).pilotPart = world.pilotPart := by
  have processed : (world.processImuSensorAfterUpdate input.raw).pilotPart = world.pilotPart := by
    obtain ⟨state, estimator, controlPipeline, finished⟩ := finishImuCalibration_eq
      (world.adoptIngestion (world.ingestion.processImuSensor input.raw)) world.calFlags
    unfold processImuSensorAfterUpdate
    rw [finished]
    rfl
  obtain ⟨controlImuAccumulator, recorded⟩ :=
    (world.processImuSensorAfterUpdate input.raw).recordControlImuCandidate_eq
  obtain ⟨state, calFlags, settled⟩ :=
    ((world.processImuSensorAfterUpdate
      input.raw).recordControlImuCandidate.noteSensorHealth input.nowUs).settleArmCalibration_eq
  -- After the sensor's health is judged the tick is a control update.
  show (runControlUpdateTick _ input.nowUs input.finishedUs).pilotPart = _
  rw [pilotPart_runControlUpdateTick, updateSensorHealthAndCalibration, settled]
  exact (congrArg pilotPart recorded).trans processed

/-- In every step the receiver receives exactly what the step delivers. -/
theorem receives_deliveredRc (world : World F R E C M D) (step : RealtimeStep F R) :
    world.Receives step (world.deliveredRc step) := by
  cases step with
  | imuControl input => exact ⟨rfl, world.pilotPart_runImuControlTick input⟩
  | controlUpdate nowUs finishedUs =>
    exact ⟨rfl, world.pilotPart_runControlUpdateTick nowUs finishedUs⟩
  | service policy input =>
    have responded : (world.realtimeStep (.service policy input)).pilotPart =
        (world.serviceResolved policy input).pilotPart := by
      rw [realtimeStep, runPrioritizedServiceStep_eq]
      split
      · exact pilotPart_drainLogsAndSendResponsesLimited _ _ _
      · rfl
    cases resolves : world.serviceResolves policy input with
    | true =>
      obtain ⟨pwm, pwmOutput, synced⟩ := ((world.serviceServed policy input).runRcCommandState
        input.rcMs (world.serviceFreshRc policy input)).runPwmOutputStage_eq
      obtain ⟨pass, params, paramEvents, resolved, -, passed⟩ :=
        (world.serviceServed policy input).runRcCommandState_eq input.rcMs
          (world.serviceFreshRc policy input)
      -- The outputs follow the receiver without touching it.
      simp only [Receives, deliveredRc, resolves, if_true]
      rw [responded, serviceResolved, if_pos resolves, runRcCommandStateStages, synced,
        ← judgeRc_eq_receiveAll, resolved, passed]
      rfl
    | false =>
      simp only [Receives, deliveredRc, resolves, Bool.false_eq_true, if_false]
      rw [responded, serviceResolved, if_neg (Bool.eq_false_iff.mp resolves)]
      exact ⟨trivial, rfl⟩

end World

namespace RcWatch

/-- Every step keeps the invariant. -/
theorem invariant_step (watch : RcWatch F R E C M D) (next : RealtimeStep F R)
    (before : watch.Invariant) : (watch.step next).Invariant := by
  cases resolves : watch.world.resolvesRc next with
  | true =>
    -- What is taken is delivered, so that nothing more goes missing.
    have delivered := watch.world.deliveredRc_eq resolves
    have uncut : watch.world.cutsRc next = false := by simp [World.cutsRc, resolves]
    refine ⟨fun cut => ?_, fun cut => ?_⟩
    · simp only [step, uncut, Bool.or_false] at cut ⊢
      rw [before.complete cut, delivered]
    · simp only [step, uncut, Bool.or_false, List.length_append, delivered] at cut ⊢
      exact Nat.add_lt_add_right (before.missing cut) _
  | false =>
    have nothing := watch.world.deliveredRc_of_unresolved resolves
    cases taken : watch.world.takenRc next with
    | nil =>
      have uncut : watch.world.cutsRc next = false := by simp [World.cutsRc, taken]
      refine ⟨fun cut => ?_, fun cut => ?_⟩
      · simp only [step, uncut, Bool.or_false, nothing, taken, List.append_nil] at cut ⊢
        exact before.complete cut
      · simp only [step, uncut, Bool.or_false, nothing, taken, List.append_nil] at cut ⊢
        exact before.missing cut
    | cons packet rest =>
      -- The sample is taken, and nothing is delivered for it.
      have lost : watch.world.cutsRc next = true := by simp [World.cutsRc, taken, resolves]
      refine ⟨fun cut => ?_, fun _ => ?_⟩
      · simp only [step, lost, Bool.or_true] at cut
        exact nomatch cut
      · simp only [step, nothing, taken, List.length_append, List.length_nil, List.length_cons]
        cases cut : watch.cut with
        | true =>
          have missing := before.missing cut
          omega
        | false =>
          rw [before.complete cut]
          omega

/-- While the invariant holds, a step delivers all exactly when none was cut off before. -/
theorem deliversAll_iff (watch : RcWatch F R E C M D) (next : RealtimeStep F R)
    (before : watch.Invariant) : watch.DeliversAll next ↔ watch.Uncut next := by
  -- The receiver receives what is delivered in any case.
  refine (and_iff_right (watch.world.receives_deliveredRc next)).trans ?_
  refine forall_congr' fun resolves => ?_
  rw [watch.world.deliveredRc_eq resolves, List.append_left_inj]
  -- Nothing is missing exactly as long as no step was cut off.
  constructor
  · intro same
    cases cut : watch.cut with
    | false => rfl
    | true =>
      have missing := before.missing cut
      rw [same] at missing
      exact absurd missing (lt_irrefl _)
  · exact before.complete

/-- In every realtime run each sample taken is delivered to the receiver once, in order and by the
next radio-control stage that runs, if and only if no such stage runs after a step that was cut
off with a sample. -/
theorem deliversAll_along_iff (world : World F R E C M D) (steps : List (RealtimeStep F R)) :
    Library.Along DeliversAll step (start world) steps ↔
      Library.Along Uncut step (start world) steps :=
  Library.along_congr Invariant invariant_step deliversAll_iff
    ⟨fun _ => rfl, fun cut => absurd cut Bool.false_ne_true⟩ steps

end RcWatch

end Watched

/-- A service step at a given time with radio-control news, cut off after its sensor stage or
not. -/
def rcService (nowUs : Nat) (report : RawPacket (RcPacket ℚ)) (cut : Bool) :
    RealtimeStep ℚ ℚ :=
  let open' : SlackReading := { imuPending := false, nowUs }
  let later : SlackReading := { imuPending := cut, nowUs }
  .service
    { minSpacingUs := 1000, telemetryStreamsPerPhase := 1, continueWhenIdle := false
      drainTelemetryWithAvailableSlack := false }
    { telemetrySlack := open', telemetry := [], sensorSlack := open'
      sensors := { nowUs, nowMs := nowUs / 1000, raw := { rc := report } }
      inputSlack := later, serialRxPending := false
      communication :=
        { incoming := [], clock := { timesyncUs := nowUs, offboardUs := nowUs }
          storage :=
            { readParams := fun _ params => (params, false), writeParams := fun _ _ => false }
          reactionUs := nowUs }
      rcSlack := later, rcMs := nowUs / 1000, responseSlack := later, log := none }

/-- An inertial sample arrives while a service step has just taken a radio-control sample. -/
def preemptedRun : List (RealtimeStep ℚ ℚ) :=
  [rcService 1000 (some (.ok (switchSample 1000 true))) true,
    .imuControl
      { nowUs := 1100, nowMs := 1, raw := some (.ok (restingSample 1100)), finishedUs := 1200 },
    rcService 2000 none false]

/-- The sample of the step that was cut off is never delivered. -/
theorem preemptedRun_loses :
    ¬ Library.Along RcWatch.DeliversAll RcWatch.step
      (RcWatch.start (benchWorld switchParams 8)) preemptedRun := by
  rintro ⟨_, _, ⟨_, delivers⟩, _⟩
  have lost (watch : RcWatch ℚ ℚ (IdleEstimator ℚ ℚ) (IdleController ℚ ℚ) (MatrixMixer ℚ ℚ)
      (AcceptingDriver ℚ)) (reached : Library.run RcWatch.step
        (RcWatch.start (benchWorld switchParams 8)) (preemptedRun.take 2) = watch) :
      watch.world.resolvesRc (rcService 2000 none false) = true ∧
        (watch.delivered ++ watch.world.deliveredRc (rcService 2000 none false)).length = 0 ∧
        (watch.taken ++ watch.world.takenRc (rcService 2000 none false)).length = 1 := by
    rw [← reached]
    decide +kernel
  -- One sample was taken, and none delivered, when the radio-control stage has run again.
  obtain ⟨resolves, none, one⟩ := lost _ rfl
  have same := congrArg List.length (delivers resolves)
  exact absurd (none.symm.trans (same.trans one)) zero_ne_one

end Veloxity
