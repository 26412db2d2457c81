import Veloxity.Library.Handoff
import Veloxity.Library.Run
import Veloxity.Sim.FirmwareWorker

/-! The numbers of the simulator's inertial samples, as the two threads keep them. -/

namespace Veloxity

open Library

variable {F R S O E C M : Type} [FlightFloat F] [FlightFloat R] [FloatCast F R] [CastU16 R]
  [ReflectionFormat F] [Estimator F R S E] [Controller F R S O C] [Mixer F R O M]

namespace SharedSensors

omit [FlightFloat F] [FlightFloat R] [FloatCast F R] [CastU16 R] [ReflectionFormat F]

/-- A snapshot with an inertial sample has it numbered next, and any other one leaves the numbers
alone. -/
theorem generations_merge (shared : SharedSensors F R) (incoming : VeloxityFfiSensorSnapshot F R) :
    (shared.merge incoming).latestImuGeneration =
        (if incoming.imu.has then max (shared.latestImuGeneration + 1) 1
          else shared.latestImuGeneration) ∧
      (shared.merge incoming).pendingImuGeneration =
        (if incoming.imu.has then max (shared.latestImuGeneration + 1) 1
          else shared.pendingImuGeneration) ∧
      (shared.merge incoming).consumedImuGeneration = shared.consumedImuGeneration := by
  cases comes : incoming.imu.has <;> simp [merge, comes]

end SharedSensors

namespace WorkerPosition

/-- The firmware's thread goes on round its loop. -/
def isRunning : WorkerPosition → Bool
  | .panicked | .failed | .stopped => false
  | _ => true

/-- What the thread has still to publish: where it is about to run on the newest item one waits,
where it has looked up a number that is the last one taken, and where it has nothing to add the last
one taken is published. -/
def Carries (processed : UInt64) (last count : Nat) : WorkerPosition → Prop
  | .imuControl => last < count
  | .ran (some generation) | .copied (some generation) _ => generation.toNat = last
  | .ticked | .panicked | .failed | .stopped => True
  | _ => processed.toNat = last

/-- One more item to be taken changes nothing about what there is to publish. -/
theorem Carries.succ {processed : UInt64} {last count : Nat} {position : WorkerPosition}
    (carries : position.Carries processed last count) :
    position.Carries processed last (count + 1) := by
  -- Only the wait for an item depends on how many there are.
  cases position with
  | imuControl => exact Nat.lt_succ_of_lt carries
  | ran generation => cases generation <;> exact carries
  | copied generation pwmOutputs => cases generation <;> exact carries
  | _ => exact carries

end WorkerPosition

namespace VeloxityFfiHandle

/-- What a step comes to: what its thread does at its position, or nothing if it is not the next one
of the firmware. -/
inductive Happens (handle : VeloxityFfiHandle F R E C M) :
    SimulatorStep F R → VeloxityFfiHandle F R E C M → Prop where
  | nothing {input : SimulatorStep F R} (silent : ∀ snapshot, input ≠ .setSensors snapshot) :
      Happens handle input handle
  | setSensors {snapshot : VeloxityFfiSensorSnapshot F R} :
      Happens handle (.setSensors snapshot) { handle with
        sensors := handle.sensors.merge snapshot
        handedOver := handle.handedOver ++ snapshot.imu.unread.toList }
  | destroy : Happens handle .destroy { handle with shutdown := true }
  | loadShutdown (position : handle.worker = .top) :
      Happens handle .loadShutdown
        { handle with worker := if handle.shutdown then .stopped else .choosing }
  | chooseImuControl {nowUs : Nat} (position : handle.worker = .choosing)
      (waits : handle.sensors.imuPending = true) :
      Happens handle (.realtimeSchedulerStep nowUs) { handle with worker := .imuControl }
  | choose {nowUs : Nat} (position : handle.worker = .choosing)
      (taken : handle.sensors.imuPending = false) {worker : WorkerPosition}
      (chosen : worker = .controlUpdate ∨ worker = .service ∨ worker = .top) :
      Happens handle (.realtimeSchedulerStep nowUs) { handle with worker }
  | runImuControlTick {nowUs nowMs finishedUs : Nat} (position : handle.worker = .imuControl) :
      Happens handle (.runImuControlTick nowUs nowMs finishedUs) { handle with
        sensors := (FfiBoard.updateImuSensor handle.sensors).2
        ranOn := handle.ranOn ++ handle.sensors.takeImu.1.toList
        world := handle.world.runImuControlTick
          { nowUs, nowMs, raw := (FfiBoard.updateImuSensor handle.sensors).1.imu, finishedUs }
        worker := .ticked }
  | readConsumedGeneration (position : handle.worker = .ticked) :
      Happens handle .readConsumedGeneration
        { handle with worker := .ran (some handle.sensors.consumedImuGeneration) }
  | runControlUpdateTick {nowUs finishedUs : Nat} (position : handle.worker = .controlUpdate) :
      Happens handle (.runControlUpdateTick nowUs finishedUs) { handle with
        world := handle.world.runControlUpdateTick nowUs finishedUs
        worker := .ran none }
  | serve {reading : SlackReading} {input : ServiceStepInput F R}
      (position : handle.worker = .service) :
      Happens handle (.runServiceStep reading input) (handle.serve input)
  | endService {reading : SlackReading} {input : ServiceStepInput F R}
      (position : handle.worker = .service) :
      Happens handle (.runServiceStep reading input) { handle with worker := .served }
  | finishService {finishedUs : Nat} (position : handle.worker = .served) :
      Happens handle (.finishService finishedUs) { handle with
        world := { handle.world with
          nextRealtimeServiceUs := saturatingAddU64 finishedUs servicePolicy.minSpacingUs }
        worker := .ran none }
  | copyOutputs {processed : Option UInt64} (position : handle.worker = .ran processed) :
      Happens handle .copyOutputs
        { handle with worker := .copied processed handle.world.pwm.outputs }
  | publish {processed : Option UInt64} {pwmOutputs : Vector UInt16 NUM_PWM_CHANNELS}
      (position : handle.worker = .copied processed pwmOutputs) {processedImuGeneration : UInt64}
      (number : processedImuGeneration = processed.elim handle.progress.processedImuGeneration
        (max handle.progress.processedImuGeneration)) :
      Happens handle .publish { handle with
        progress := { handle.progress with pwmOutputs, processedImuGeneration }
        worker := .top }
  | panic {tookImu : Bool} {sensors : SharedSensors F R}
      (vain : sensors = handle.sensors ∨ sensors = (FfiBoard.updateImuSensor handle.sensors).2) :
      Happens handle (.panic tookImu) { handle with sensors, worker := .panicked }
  | reportFailure (position : handle.worker = .panicked) :
      Happens handle .reportFailure { handle with
        progress := { handle.progress with workerFailed := true }
        worker := .failed }
  | stopAfterFailure (position : handle.worker = .failed) :
      Happens handle .stopAfterFailure { handle with shutdown := true, worker := .stopped }

/-- Every step comes to one of these. -/
theorem happens (handle : VeloxityFfiHandle F R E C M) (input : SimulatorStep F R) :
    handle.Happens input (handle.step input) := by
  unfold step
  -- One case for each line of the step, and one for the steps that do nothing.
  split
  · exact .setSensors
  · exact .destroy
  · exact .loadShutdown ‹_›
  · -- The scheduler goes on to one of four kinds of work.
    rename_i position
    simp only [World.realtimeSchedulerStep]
    cases waits : handle.sensors.imuPending with
    | true => exact .chooseImuControl position waits
    | false =>
      simp only [Bool.false_eq_true, if_false]
      split_ifs
      · exact .choose position waits (.inl rfl)
      · exact .choose position waits (.inr (.inl rfl))
      · exact .choose position waits (.inr (.inr rfl))
  · exact .runImuControlTick ‹_›
  · exact .readConsumedGeneration ‹_›
  · exact .runControlUpdateTick ‹_›
  · split
    · exact .serve ‹_›
    · exact .endService ‹_›
  · exact .finishService ‹_›
  · exact .copyOutputs ‹_›
  · rename_i processed _ position
    exact .publish position (by cases processed <;> rfl)
  · exact .panic (by split <;> simp)
  · exact .panic (.inl rfl)
  · exact .panic (.inl rfl)
  · exact .panic (.inl rfl)
  · exact .reportFailure ‹_›
  · exact .stopAfterFailure ‹_›
  · exact .nothing (by assumption)

/-- The numbers that the threads keep count the inertial samples handed over and those taken. -/
structure Follows (handle : VeloxityFfiHandle F R E C M)
    (handoff : Handoff (VeloxityFfiImu F R)) : Prop where
  offered : handoff.offered = handle.handedOver
  taken : handoff.taken.map Prod.fst = handle.ranOn
  latest : handle.sensors.latestImuGeneration.toNat = handoff.offered.length
  pendingGeneration : handle.sensors.pendingImuGeneration = handle.sensors.latestImuGeneration
  processed : handle.progress.processedImuGeneration.toNat ≤ handoff.last
  consumed : handle.worker.isRunning → handle.sensors.consumedImuGeneration.toNat = handoff.last
  waiting : handle.worker.isRunning → handle.sensors.pending.imu.unread =
    if handoff.last < handoff.offered.length then handoff.offered.getLast? else none
  carries : handle.worker.Carries handle.progress.processedImuGeneration handoff.last
    handoff.offered.length
  copied : ∀ generation pwmOutputs, handle.worker = .copied generation pwmOutputs →
    pwmOutputs = handle.world.pwm.outputs

variable {handle : VeloxityFfiHandle F R E C M} {handoff : Handoff (VeloxityFfiImu F R)}

omit [FlightFloat F] [FlightFloat R] [FloatCast F R] [CastU16 R] [ReflectionFormat F] in
/-- A snapshot that is handed over offers its inertial sample, if it has one. -/
theorem Follows.setSensors (follows : handle.Follows handoff)
    (snapshot : VeloxityFfiSensorSnapshot F R)
    (few : (handle.handedOver ++ snapshot.imu.unread.toList).length < 2 ^ 64) :
    { handle with
      sensors := handle.sensors.merge snapshot
      handedOver := handle.handedOver ++ snapshot.imu.unread.toList :
        VeloxityFfiHandle F R E C M }.Follows
      (match snapshot.imu.unread with
        | some imu => handoff.offer imu
        | none => handoff) := by
  obtain ⟨latest, pendingGeneration, consumed⟩ :=
    SharedSensors.generations_merge handle.sensors snapshot
  -- What waits after the merge is the new sample, or else the one that waited.
  have pending : (handle.sensors.merge snapshot).pending.imu.unread =
      snapshot.imu.unread.or handle.sensors.pending.imu.unread := by
    rw [SharedSensors.pending_merge, SignalSlot.unread_merge]
  cases comes : snapshot.imu.has with
  | false =>
    have none : snapshot.imu.unread = none := by simp [SignalSlot.unread, comes]
    simp only [comes, Bool.false_eq_true, if_false] at latest pendingGeneration
    simp only [none, Option.none_or, Option.toList_none, List.append_nil] at pending ⊢
    exact
      { follows with
        latest := latest ▸ follows.latest
        pendingGeneration := pendingGeneration.trans (follows.pendingGeneration.trans latest.symm)
        consumed := fun running => consumed ▸ follows.consumed running
        waiting := fun running => pending.trans (follows.waiting running) }
  | true =>
    have some : snapshot.imu.unread = some snapshot.imu.value := by
      simp [SignalSlot.unread, comes]
    simp only [comes, if_true] at latest pendingGeneration
    simp only [some, Option.some_or, Option.toList_some] at pending few ⊢
    -- The numbers have not come round yet.
    have count := follows.latest
    rw [follows.offered] at count
    rw [List.length_append, List.length_singleton] at few
    -- The next number is one more than the samples handed over.
    have next : (max (handle.sensors.latestImuGeneration + 1) 1).toNat =
        handle.handedOver.length + 1 := by
      rw [UInt64.toNat_max, UInt64.toNat_add, count, UInt64.toNat_one, Nat.mod_eq_of_lt few]
      omega
    exact
      { follows with
        offered := by rw [Handoff.offered_offer, follows.offered]
        latest := by
          rw [latest, next, Handoff.offered_offer, follows.offered, List.length_append,
            List.length_singleton]
        pendingGeneration := pendingGeneration.trans latest.symm
        consumed := fun running => consumed ▸ follows.consumed running
        waiting := fun _ => by
          have room : handoff.last < (handoff.offered ++ [snapshot.imu.value]).length := by
            have bound := handoff.last_le
            rw [List.length_append, List.length_singleton]
            omega
          rw [pending, Handoff.last_offer, Handoff.offered_offer, if_pos room,
            List.getLast?_concat]
        carries := by
          rw [Handoff.offered_offer, List.length_append, List.length_singleton]
          exact follows.carries.succ }

omit [FlightFloat F] [FlightFloat R] [FloatCast F R] [CastU16 R] [ReflectionFormat F] in
/-- While the thread runs an inertial sample waits exactly if the newest one was not taken. -/
theorem Follows.pending_iff (follows : handle.Follows handoff)
    (running : handle.worker.isRunning) :
    handle.sensors.imuPending = true ↔ handoff.last < handoff.offered.length := by
  have waiting := follows.waiting running
  -- A sample that was not taken fills the slot, and without one the slot is empty.
  by_cases waits : handoff.last < handoff.offered.length
  · have some : handoff.offered ≠ [] := List.ne_nil_of_length_pos (Nat.zero_lt_of_lt waits)
    rw [if_pos waits, List.getLast?_eq_getLast_of_ne_nil some] at waiting
    cases has : handle.sensors.pending.imu.has <;>
      simp_all [SharedSensors.imuPending, SignalSlot.unread]
  · rw [if_neg waits] at waiting
    cases has : handle.sensors.pending.imu.has <;>
      simp_all [SharedSensors.imuPending, SignalSlot.unread]

omit [FlightFloat F] [FlightFloat R] [FloatCast F R] [CastU16 R] [ReflectionFormat F] in
/-- A sample that is taken is the newest one. -/
theorem Follows.takes (follows : handle.Follows handoff) (running : handle.worker.isRunning)
    (waits : handoff.last < handoff.offered.length) :
    ∃ imu, handle.sensors.takeImu =
        (some imu, { handle.sensors with
          pending := { handle.sensors.pending with imu := handle.sensors.pending.imu.clear }
          consumedImuGeneration := handle.sensors.pendingImuGeneration }) ∧
      handoff.take.taken = handoff.taken ++ [(imu, handoff.offered.length)] := by
  -- A sample waits, and what waits is the newest one.
  have has : handle.sensors.pending.imu.has = true := (follows.pending_iff running).mpr waits
  have some : handoff.offered ≠ [] := List.ne_nil_of_length_pos (Nat.zero_lt_of_lt waits)
  have newest := follows.waiting running
  rw [if_pos waits, List.getLast?_eq_getLast_of_ne_nil some, SignalSlot.unread,
    if_pos has] at newest
  refine ⟨handle.sensors.pending.imu.value, by rw [SharedSensors.takeImu, if_pos has], ?_⟩
  rw [Handoff.take, dif_pos waits, Option.some.inj newest]

omit [FlightFloat F] [FlightFloat R] [FloatCast F R] [CastU16 R] [ReflectionFormat F] in
/-- An inertial tick runs on the newest sample. -/
theorem Follows.runImuControlTick (follows : handle.Follows handoff)
    (position : handle.worker = .imuControl) (world : World F R E C M (FfiPwmDriver R)) :
    { handle with
      sensors := (FfiBoard.updateImuSensor handle.sensors).2
      ranOn := handle.ranOn ++ handle.sensors.takeImu.1.toList
      world
      worker := .ticked : VeloxityFfiHandle F R E C M }.Follows handoff.take := by
  have running : handle.worker.isRunning := by rw [position]; rfl
  -- The thread ticks only on a wake-up that has seen a newer number than the last one taken.
  have waits : handoff.last < handoff.offered.length := by
    have carries := follows.carries
    rwa [position] at carries
  obtain ⟨imu, sample, taken⟩ := follows.takes running waits
  simp only [FfiBoard.updateImuSensor, sample, Option.toList_some]
  exact
    { offered := by rw [Handoff.offered_take, follows.offered]
      taken := by rw [taken, List.map_append, follows.taken]; rfl
      latest := by rw [Handoff.offered_take]; exact follows.latest
      pendingGeneration := follows.pendingGeneration
      processed := by
        have bound := follows.processed
        rw [Handoff.last_take]
        exact bound.trans waits.le
      consumed := fun _ => by
        rw [Handoff.last_take, ← follows.latest, ← follows.pendingGeneration]
      waiting := fun _ => by simp
      carries := trivial
      copied := fun _ _ same => by cases same }

omit [FlightFloat F] [FlightFloat R] [FloatCast F R] [CastU16 R] [ReflectionFormat F] in
/-- A step that hands over and takes no inertial sample keeps the numbers, if the thread carries
what is right for its new position. -/
theorem Follows.moves (follows : handle.Follows handoff) {next : VeloxityFfiHandle F R E C M}
    (samples : next.handedOver = handle.handedOver ∧ next.ranOn = handle.ranOn)
    (sensors : ∃ pending, pending.imu = handle.sensors.pending.imu ∧
      next.sensors = { handle.sensors with pending })
    (processed : next.progress.processedImuGeneration.toNat ≤ handoff.last)
    (running : next.worker.isRunning → handle.worker.isRunning)
    (carries : next.worker.Carries next.progress.processedImuGeneration handoff.last
      handoff.offered.length)
    (copied : ∀ generation pwmOutputs, next.worker = .copied generation pwmOutputs →
      pwmOutputs = next.world.pwm.outputs) : next.Follows handoff := by
  -- Each part is the one before, except what depends on the position of the thread.
  obtain ⟨pending, imu, same⟩ := sensors
  exact
    { offered := by rw [samples.1, follows.offered]
      taken := by rw [samples.2, follows.taken]
      latest := by rw [same]; exact follows.latest
      pendingGeneration := by rw [same]; exact follows.pendingGeneration
      processed
      consumed := fun runs => by rw [same]; exact follows.consumed (running runs)
      waiting := fun runs => by rw [same, imu]; exact follows.waiting (running runs)
      carries, copied }

/-- A service step takes no inertial sample and publishes nothing. -/
theorem serve_keeps (handle : VeloxityFfiHandle F R E C M) (input : ServiceStepInput F R) :
    (∃ pending, pending.imu = handle.sensors.pending.imu ∧
      (handle.serve input).sensors = { handle.sensors with pending }) ∧
      (handle.serve input).progress = handle.progress ∧
      (handle.serve input).worker = handle.worker ∧
      (handle.serve input).handedOver = handle.handedOver ∧
      (handle.serve input).ranOn = handle.ranOn := by
  rw [serve]
  -- A service step reads other slots of the sensors only.
  split
  · exact ⟨⟨(handle.board.updateServiceSensorBus handle.sensors).2.2.pending, rfl, rfl⟩,
      rfl, rfl, rfl, rfl⟩
  · exact ⟨⟨_, rfl, rfl⟩, rfl, rfl, rfl, rfl⟩

omit [FlightFloat F] [FlightFloat R] [FloatCast F R] [CastU16 R] [ReflectionFormat F] in
/-- Taking a sample gives no new numbers. -/
theorem generations_updateImuSensor (shared : SharedSensors F R) :
    (FfiBoard.updateImuSensor shared).2.latestImuGeneration = shared.latestImuGeneration ∧
      (FfiBoard.updateImuSensor shared).2.pendingImuGeneration = shared.pendingImuGeneration := by
  simp only [FfiBoard.updateImuSensor, SharedSensors.takeImu]
  split <;> exact ⟨rfl, rfl⟩

omit [FlightFloat F] [FlightFloat R] [FloatCast F R] [CastU16 R] [ReflectionFormat F] in
/-- A panic keeps the numbers given, although a sample may have been taken in vain. -/
theorem Follows.breaks (follows : handle.Follows handoff) {sensors : SharedSensors F R}
    (same : sensors.latestImuGeneration = handle.sensors.latestImuGeneration ∧
      sensors.pendingImuGeneration = handle.sensors.pendingImuGeneration) :
    { handle with sensors, worker := .panicked : VeloxityFfiHandle F R E C M }.Follows handoff where
  -- A thread that has panicked owes nothing about what waits.
  offered := follows.offered
  taken := follows.taken
  latest := by rw [same.1]; exact follows.latest
  pendingGeneration := by rw [same.1, same.2]; exact follows.pendingGeneration
  processed := follows.processed
  consumed runs := by cases runs
  waiting runs := by cases runs
  carries := trivial
  copied _ _ same := by cases same

/-- Every other step of either thread keeps the numbers. -/
theorem Follows.others (follows : handle.Follows handoff) {input : SimulatorStep F R}
    {after : VeloxityFfiHandle F R E C M} (happened : handle.Happens input after)
    (silent : ∀ snapshot, input ≠ .setSensors snapshot)
    (idle : ∀ nowUs nowMs finishedUs, input = .runImuControlTick nowUs nowMs finishedUs →
      handle.worker ≠ .imuControl) : after.Follows handoff := by
  have still : ∃ pending, pending.imu = handle.sensors.pending.imu ∧
      handle.sensors = { handle.sensors with pending } := ⟨_, rfl, rfl⟩
  have carries := follows.carries
  have reached := follows.processed
  have nothingCopied : ∀ {position : WorkerPosition} {world : World F R E C M (FfiPwmDriver R)},
      (∀ generation pwmOutputs, position ≠ .copied generation pwmOutputs) →
      ∀ generation pwmOutputs, position = .copied generation pwmOutputs →
        pwmOutputs = world.pwm.outputs :=
    fun other generation pwmOutputs same => absurd same (other generation pwmOutputs)
  have runs : ∀ {position : WorkerPosition}, handle.worker = position → position.isRunning →
      handle.worker.isRunning := fun same running => same ▸ running
  cases happened with
  | nothing => exact follows
  | setSensors => exact absurd rfl (silent _)
  | destroy => exact follows.moves ⟨rfl, rfl⟩ still reached id carries follows.copied
  | loadShutdown position =>
    rw [position] at carries
    cases handle.shutdown with
    | true =>
      exact follows.moves ⟨rfl, rfl⟩ still reached (fun _ => runs position rfl) trivial
        (nothingCopied (by simp))
    | false =>
      exact follows.moves ⟨rfl, rfl⟩ still reached (fun _ => runs position rfl) carries
        (nothingCopied (by simp))
  | chooseImuControl position waits =>
    -- The inertial tick is chosen only if a sample waits.
    exact follows.moves ⟨rfl, rfl⟩ still reached (fun _ => runs position rfl)
      ((follows.pending_iff (runs position rfl)).mp waits) (nothingCopied (by simp))
  | choose position taken chosen =>
    rw [position] at carries
    rcases chosen with rfl | rfl | rfl <;>
      exact follows.moves ⟨rfl, rfl⟩ still reached (fun _ => runs position rfl) carries
        (nothingCopied (by simp))
  | runImuControlTick position => exact absurd position (idle _ _ _ rfl)
  | readConsumedGeneration position =>
    exact follows.moves ⟨rfl, rfl⟩ still reached (fun _ => runs position rfl)
      (follows.consumed (runs position rfl)) (nothingCopied (by simp))
  | runControlUpdateTick position | endService position | finishService position =>
    rw [position] at carries
    exact follows.moves ⟨rfl, rfl⟩ still reached (fun _ => runs position rfl) carries
      (nothingCopied (by simp))
  | @serve reading input position =>
    obtain ⟨sensors, progress, worker, given, on⟩ := serve_keeps handle input
    exact follows.moves ⟨given, on⟩ sensors (progress ▸ reached) (fun _ => runs position rfl)
      (worker ▸ progress ▸ carries) (by rw [worker, position]; exact nothingCopied (by simp))
  | @copyOutputs processed position =>
    rw [position] at carries
    refine follows.moves ⟨rfl, rfl⟩ still reached (fun _ => runs position rfl) ?_ fun _ _ same => ?_
    · cases processed <;> exact carries
    · -- What is copied are the outputs of the world as it is.
      exact (WorkerPosition.copied.inj same).2.symm
  | @publish processed pwmOutputs position generation number =>
    rw [position] at carries
    -- The number published becomes that of the last sample taken.
    have published : generation.toNat = handoff.last := by
      subst number
      cases processed with
      | none => exact carries
      | some generation =>
        have looked : generation.toNat = handoff.last := carries
        rw [Option.elim_some, UInt64.toNat_max, looked]
        omega
    exact follows.moves ⟨rfl, rfl⟩ still published.le (fun _ => runs position rfl) published
      (nothingCopied (by simp))
  | panic vain =>
    rcases vain with rfl | rfl
    · exact follows.breaks ⟨rfl, rfl⟩
    · exact follows.breaks (generations_updateImuSensor handle.sensors)
  | reportFailure | stopAfterFailure =>
    exact follows.moves ⟨rfl, rfl⟩ still reached (fun running => by cases running) trivial
      (nothingCopied (by simp))

/-- The steps of either thread keep the numbers, and say whether a sample is handed over or
taken. -/
theorem Follows.step (follows : handle.Follows handoff) (input : SimulatorStep F R)
    (few : (handle.step input).handedOver.length < 2 ^ 64) :
    ∃ next, (handle.step input).Follows next ∧
      (next = handoff ∨ next = handoff.take ∨
        ∃ snapshot imu, input = .setSensors snapshot ∧ snapshot.imu.unread = some imu ∧
          next = handoff.offer imu) := by
  -- A snapshot may hand over a sample, an inertial tick takes one, and nothing else does either.
  by_cases handsOver : ∃ snapshot, input = .setSensors snapshot
  · obtain ⟨snapshot, rfl⟩ := handsOver
    refine ⟨_, follows.setSensors snapshot few, ?_⟩
    cases comes : snapshot.imu.unread with
    | none => exact .inl rfl
    | some imu => exact .inr (.inr ⟨snapshot, imu, rfl, comes, rfl⟩)
  · have happened := handle.happens input
    generalize handle.step input = after at happened
    by_cases ticks : ∃ nowUs nowMs finishedUs,
        input = .runImuControlTick nowUs nowMs finishedUs ∧ handle.worker = .imuControl
    · obtain ⟨nowUs, nowMs, finishedUs, rfl, -⟩ := ticks
      cases happened with
      | nothing => exact ⟨_, follows, .inl rfl⟩
      | runImuControlTick position =>
        exact ⟨_, follows.runImuControlTick position _, .inr (.inl rfl)⟩
    · refine ⟨_, follows.others happened ?_ ?_, .inl rfl⟩
      · intro snapshot same
        exact handsOver ⟨snapshot, same⟩
      · intro nowUs nowMs finishedUs same position
        exact ticks ⟨nowUs, nowMs, finishedUs, same, position⟩

/-- The inertial samples that a step hands over. -/
def handsOver : SimulatorStep F R → List (VeloxityFfiImu F R)
  | .setSensors snapshot => snapshot.imu.unread.toList
  | _ => []

/-- Only a snapshot hands over a sample. -/
theorem handedOver_step (handle : VeloxityFfiHandle F R E C M) (input : SimulatorStep F R) :
    (handle.step input).handedOver = handle.handedOver ++ handsOver input := by
  have happened := handle.happens input
  generalize handle.step input = after at happened
  -- The lists of what is handed over differ only for a snapshot.
  cases happened with
  | nothing silent =>
    cases input with
    | setSensors snapshot => exact absurd rfl (silent snapshot)
    | _ => exact (List.append_nil _).symm
  | setSensors => rfl
  | @serve reading input position =>
    exact (serve_keeps handle input).2.2.2.1.trans (List.append_nil _).symm
  | _ => exact (List.append_nil _).symm

/-- Before the numbers come round they count the samples handed over and those taken. -/
def Sound (handle : VeloxityFfiHandle F R E C M) : Prop :=
  handle.handedOver.length < 2 ^ 64 → ∃ handoff, handle.Follows handoff

/-- The numbers go on counting. -/
theorem Sound.step (sound : handle.Sound) (input : SimulatorStep F R) :
    (handle.step input).Sound := by
  intro few
  -- Samples are only ever added, so there were few before the step.
  have fewer : handle.handedOver.length < 2 ^ 64 := by
    rw [handedOver_step, List.length_append] at few
    omega
  obtain ⟨handoff, follows⟩ := sound fewer
  obtain ⟨next, follows, -⟩ := follows.step input few
  exact ⟨next, follows⟩

/-- What is published came from an earlier state: its outputs, and no higher number than that of the
last sample it had taken. -/
def Shows (earlier handle : VeloxityFfiHandle F R E C M) : Prop :=
  handle.handedOver.length < 2 ^ 64 → earlier.worker.isRunning ∧
    handle.progress.pwmOutputs = earlier.world.pwm.outputs ∧
    handle.progress.processedImuGeneration ≤ earlier.sensors.consumedImuGeneration

/-- Only a step that publishes changes what is published. -/
theorem progress_step (handle : VeloxityFfiHandle F R E C M) (input : SimulatorStep F R) :
    ((handle.step input).progress.pwmOutputs = handle.progress.pwmOutputs ∧
      (handle.step input).progress.processedImuGeneration =
        handle.progress.processedImuGeneration) ∨
    ∃ processed pwmOutputs, handle.worker = .copied processed pwmOutputs ∧
      (handle.step input).progress = { handle.progress with
        pwmOutputs
        processedImuGeneration := processed.elim handle.progress.processedImuGeneration
          (max handle.progress.processedImuGeneration) } := by
  have happened := handle.happens input
  generalize handle.step input = after at happened
  -- The progress is written in one place, from what the thread has copied.
  cases happened with
  | @serve reading input position =>
    rw [(serve_keeps handle input).2.1]
    exact .inl ⟨rfl, rfl⟩
  | publish position number =>
    subst number
    exact .inr ⟨_, _, position, rfl⟩
  | _ => exact .inl ⟨rfl, rfl⟩

/-- What is published goes on coming from an earlier state. -/
theorem Shows.step {earlier : VeloxityFfiHandle F R E C M} (sound : handle.Sound)
    (shows' : earlier.Shows handle) (input : SimulatorStep F R) :
    earlier.Shows (handle.step input) ∨ handle.Shows (handle.step input) := by
  have fewer : (handle.step input).handedOver.length < 2 ^ 64 →
      handle.handedOver.length < 2 ^ 64 := by
    rw [handedOver_step, List.length_append]
    omega
  rcases progress_step handle input with
    ⟨outputs, number⟩ | ⟨processed, pwmOutputs, position, published⟩
  · refine .inl fun few => ?_
    rw [outputs, number]
    exact shows' (fewer few)
  · -- What was copied are the outputs of the world, which nobody has changed since.
    refine .inr fun few => ?_
    obtain ⟨handoff, follows⟩ := sound (fewer few)
    have running : handle.worker.isRunning := position ▸ rfl
    have carries := follows.carries
    rw [position] at carries
    rw [published]
    refine ⟨running, follows.copied processed pwmOutputs position, ?_⟩
    rw [UInt64.le_iff_toNat_le, follows.consumed running]
    cases processed with
    | none => exact follows.processed
    | some generation =>
      have newest : generation.toNat = handoff.last := carries
      have bound := follows.processed
      rw [Option.elim_some, UInt64.toNat_max, newest]
      omega

/-- The number published never falls. -/
theorem processed_step (handle : VeloxityFfiHandle F R E C M) (input : SimulatorStep F R) :
    handle.progress.processedImuGeneration.toNat ≤
      (handle.step input).progress.processedImuGeneration.toNat := by
  rcases progress_step handle input with ⟨-, number⟩ | ⟨processed, pwmOutputs, -, published⟩
  · rw [number]
  · rw [published]
    -- What is published is the larger of the two numbers.
    cases processed with
    | none => exact Nat.le_refl _
    | some generation =>
      rw [Option.elim_some, UInt64.toNat_max]
      exact Nat.le_max_left _ _

/-- The number published never falls in a run. -/
theorem processed_run (handle : VeloxityFfiHandle F R E C M) (steps : List (SimulatorStep F R)) :
    handle.progress.processedImuGeneration.toNat ≤
      (run step handle steps).progress.processedImuGeneration.toNat := by
  induction steps generalizing handle with
  | nil => exact Nat.le_refl _
  | cons input rest ih => exact (processed_step handle input).trans (ih _)

/-- The samples of a run are handed over behind the others. -/
theorem handedOver_run (handle : VeloxityFfiHandle F R E C M) (steps : List (SimulatorStep F R)) :
    (run step handle steps).handedOver = handle.handedOver ++ steps.flatMap handsOver := by
  induction steps generalizing handle with
  | nil => simp
  | cons input rest ih =>
    rw [run_cons, ih, handedOver_step, List.flatMap_cons, List.append_assoc]

end VeloxityFfiHandle

end Veloxity
