import Veloxity.Command.OverrideReports
import Veloxity.Library.History

/-! For how long a stick keeps overriding, against the times at which it was deflected. -/

namespace Veloxity

open Library (EveryEntry)

namespace CommandManager

variable {F : Type}

/-- The bit of the mask that reports a stick as the reason of an override. -/
def stickBit : Stick → BitVec 16
  | .X => OVERRIDE_X
  | .Y => OVERRIDE_Y
  | .Z => OVERRIDE_Z
  | .F => OVERRIDE_T

section Masks

variable (switch stickX offX stickY offY stickZ offZ throttle low offT : Bool)

/-- A stick's bit of the combined mask is clear exactly when the stick does not override. -/
theorem stick_clear_iff :
    let mask := attitudeMask switch stickX offX stickY offY stickZ offZ |||
      throttleMask throttle low offT
    (mask &&& stickBit .X = 0#16 ↔ stickX = false) ∧
      (mask &&& stickBit .Y = 0#16 ↔ stickY = false) ∧
      (mask &&& stickBit .Z = 0#16 ↔ stickZ = false) := by
  -- No other reason has the bit of a stick.
  simp only [attitudeMask, throttleMask, BitVec.and_or_distrib_right, BitVec.or_eq_zero_iff,
    maskWhen_and_eq_zero_iff]
  refine ⟨?_, ?_, ?_⟩
  · simp +decide
  · simp +decide
  · simp +decide

end Masks

variable [FlightFloat F]

/-- A stick is deflected beyond the deviation. -/
def exceeds (params : Params F) (rc : Rc F) (stick : Stick) : Bool :=
  !FlightFloat.le (FlightFloat.abs (rc.stick stick)) (overrideDeviation params)

/-- This is a muxing pass in which a stick is deflected beyond the deviation. -/
def Happening.deflects (stick : Stick) : Happening F → Bool
  | .run nowMs params rc state =>
    !(noteRcLoss nowMs params rc state).isInFailsafe && exceeds params rc stick
  | _ => false

omit [FlightFloat F] in
/-- Time of a pass. -/
def Happening.timeMs : Happening F → Nat
  | .run nowMs _ _ _ => nowMs
  | _ => 0

/-- A muxing pass reports an attitude axis as overridden by its stick exactly when the stick is
deflected in it or was in an earlier one less than the lag time ago. -/
def TellsDeflections (earlier : List (Happening F)) (happening : Happening F) : Prop :=
  PassLaw (fun manager nowMs params rc state => ∀ stick, stick ≠ .F →
    ((manager.run nowMs params rc state).manager.getRcOverride &&& stickBit stick ≠ 0#16 ↔
      exceeds params rc stick = true ∨
        ∃ pass ∈ earlier, pass.deflects stick = true ∧
          nowMs < pass.timeMs + overrideLagTimeMs params))
    (Library.run after new earlier) happening

/-- Time of the latest pass in which a stick was deflected. -/
def latestDeflection (stick : Stick) (earlier : List (Happening F)) : Option Nat :=
  ((earlier.filter (·.deflects stick)).map Happening.timeMs).max?

/-- The lag that is running, if any, is the one since the latest deflection, or that has run out
as well. -/
def LagTold (last lag now : Nat) : Option Nat → Prop
  | none => saturatingAddU32 last lag ≤ now
  | some latest => now < saturatingAddU32 last lag ∨ latest + lag ≤ now

/-- In a muxing pass each attitude stick is deflected, or its lag tells of the latest deflection. -/
def LagsTold (earlier : List (Happening F)) (happening : Happening F) : Prop :=
  PassLaw (fun manager nowMs params rc _ => ∀ stick, stick ≠ .F →
    exceeds params rc stick = true ∨
      LagTold (manager.lastStickOverrideTime stick) (overrideLagTimeMs params) nowMs
        (latestDeflection stick earlier))
    (Library.run after new earlier) happening

/-- Noting one stick leaves the times of all sticks alone, or notes the time of one that is
deflected. -/
theorem lastStickOverrideTime_noteStickOverride (manager : CommandManager F) (params : Params F)
    (rc : Rc F) (stick other : Stick) (lagTimeMs nowMs : Nat) :
    let noted := manager.noteStickOverride rc stick (overrideDeviation params) lagTimeMs nowMs
    noted.lastStickOverrideTime other = manager.lastStickOverrideTime other ∨
      exceeds params rc other = true ∧ noted.lastStickOverrideTime other = nowMs := by
  intro noted
  simp only [noted, noteStickOverride]
  split
  · exact .inl rfl
  · split
    · exact .inl rfl
    · rename_i small
      -- Only the time of the stick itself is replaced.
      by_cases same : other = stick
      · subst same
        exact .inr ⟨by simpa [exceeds] using small, Function.update_self ..⟩
      · exact .inl (Function.update_of_ne same ..)

/-- Muxing leaves the time of a stick alone, or notes its own time for one that is deflected. -/
theorem lastStickOverrideTime_doMuxing (manager : CommandManager F) (params : Params F) (rc : Rc F)
    (nowMs : Nat) (forceRcAttitude : Bool) (stick : Stick) :
    let muxed := manager.doMuxing params rc nowMs forceRcAttitude
    muxed.lastStickOverrideTime stick = manager.lastStickOverrideTime stick ∨
      exceeds params rc stick = true ∧ muxed.lastStickOverrideTime stick = nowMs := by
  intro muxed
  let note (manager : CommandManager F) (noted : Stick) : CommandManager F :=
    manager.noteStickOverride rc noted (overrideDeviation params) (overrideLagTimeMs params) nowMs
  have folded (sticks : List Stick) : ∀ before : CommandManager F,
      (sticks.foldl note before).lastStickOverrideTime stick = before.lastStickOverrideTime stick ∨
        exceeds params rc stick = true ∧
          (sticks.foldl note before).lastStickOverrideTime stick = nowMs := by
    -- A time noted for an earlier stick is kept or noted again.
    induction sticks with
    | nil => exact fun _ => .inl rfl
    | cons noted rest ih =>
      intro before
      rw [List.foldl_cons]
      rcases ih (note before noted) with kept | fresh
      · rw [kept]
        exact lastStickOverrideTime_noteStickOverride before params rc noted stick _ nowMs
      · exact .inr fresh
  exact folded [.X, .Y, .Z] manager

omit [FlightFloat F] in
/-- The timeout of the offboard command keeps the times of the sticks. -/
theorem updateOffboardTimeout_lastStickOverrideTime (manager : CommandManager F) (nowUs : Nat)
    (params : Params F) :
    (manager.updateOffboardTimeout nowUs params).lastStickOverrideTime =
      manager.lastStickOverrideTime := by
  unfold updateOffboardTimeout
  dsimp only
  -- A command that has timed out is deactivated, which leaves the sticks alone.
  split
  · rfl
  · rfl

variable (manager : CommandManager F) (nowMs : Nat) (params : Params F) (rc : Rc F)
  (state : StateManager)

/-- A pass outside failsafe muxes with the times of the sticks it has found. -/
theorem run_muxes (flying : (noteRcLoss nowMs params rc state).isInFailsafe = false) :
    ∃ interpreted forced, interpreted.lastStickOverrideTime = manager.lastStickOverrideTime ∧
      (manager.run nowMs params rc state).manager =
        doMuxing interpreted params rc.takeNewCommand.2 nowMs forced := by
  let linked := noteRcLoss nowMs params rc state
  let timed := manager.updateOffboardTimeout (nowMs * 1000) params
  let guarded := timed.estimatorModeSafety params rc linked
  have resolved : manager.run nowMs params rc state = manager.resolve nowMs params rc linked := by
    simp only [run, flying, Bool.false_eq_true, ↓reduceIte, linked]
  -- The timeout, the lockout and the interpretation keep the times.
  have timeout := updateOffboardTimeout_lastStickOverrideTime manager (nowMs * 1000) params
  have lockout := (estimatorModeSafety_keeps timed params rc linked).2.2
  have interpretation := (interpretWhen_keeps guarded.1 rc.newCommand guarded.2.forceRcRate
    rc.takeNewCommand.2 params).2
  refine ⟨_, guarded.2.forceRcAttitude, interpretation.trans (lockout.trans timeout), ?_⟩
  rw [resolved]
  rfl

/-- A pass outside failsafe reports a stick while its lag runs or while it is deflected. -/
theorem run_reports_stick_iff (flying : (noteRcLoss nowMs params rc state).isInFailsafe = false)
    {stick : Stick} (attitude : stick ≠ .F) :
    (manager.run nowMs params rc state).manager.getRcOverride &&& stickBit stick ≠ 0#16 ↔
      nowMs < saturatingAddU32 (manager.lastStickOverrideTime stick) (overrideLagTimeMs params) ∨
        exceeds params rc stick = true := by
  obtain ⟨interpreted, forced, times, muxes⟩ := run_muxes manager nowMs params rc state flying
  obtain ⟨throttle, low, offT, muxed⟩ :=
    doMuxing_muxedBy interpreted params rc.takeNewCommand.2 nowMs forced
  have deviated : interpreted.attitudeStickDeviated rc.takeNewCommand.2 stick
      (overrideDeviation params) (overrideLagTimeMs params) nowMs = true ↔
        nowMs < saturatingAddU32 (manager.lastStickOverrideTime stick) (overrideLagTimeMs params) ∨
          exceeds params rc stick = true := by
    have same : rc.takeNewCommand.2.stick stick = rc.stick stick := rfl
    rw [attitudeStickDeviated, times, same]
    split
    · rename_i runs
      exact iff_of_true rfl (.inl runs)
    · rename_i ended
      rw [or_iff_right ended, exceeds]
  rw [muxes, muxed.mask, ← deviated, ← Bool.not_eq_false]
  obtain ⟨clearX, clearY, clearZ⟩ := stick_clear_iff _ _ _ _ _ _ _ throttle low offT
  refine not_congr ?_
  -- The bit belongs to the stick alone.
  cases stick with
  | X => exact clearX
  | Y => exact clearY
  | Z => exact clearZ
  | F => exact absurd rfl attitude

/-- A pass leaves the time of a stick alone, or muxes and notes its own time for one that is
deflected. -/
theorem lastStickOverrideTime_run (stick : Stick) :
    (manager.run nowMs params rc state).manager.lastStickOverrideTime stick =
        manager.lastStickOverrideTime stick ∨
      ((noteRcLoss nowMs params rc state).isInFailsafe = false ∧ exceeds params rc stick = true) ∧
        (manager.run nowMs params rc state).manager.lastStickOverrideTime stick = nowMs := by
  cases failsafe : (noteRcLoss nowMs params rc state).isInFailsafe with
  | true =>
    -- A pass in failsafe only replaces the combined command.
    have held : manager.run nowMs params rc state =
        { manager := { manager with combinedCommand := manager.failsafeCommand params }, rc
          state := noteRcLoss nowMs params rc state
          result := { forceRcAttitudeModeRate := false } } := by
      simp only [run, failsafe, ↓reduceIte]
    rw [held]
    exact .inl rfl
  | false =>
    obtain ⟨interpreted, forced, times, muxes⟩ := run_muxes manager nowMs params rc state failsafe
    rw [muxes, ← times]
    refine (lastStickOverrideTime_doMuxing interpreted params rc.takeNewCommand.2 nowMs forced
      stick).imp id ?_
    rintro ⟨deflected, noted⟩
    exact ⟨⟨rfl, deflected⟩, noted⟩

/-- An event leaves the time of a stick alone, or notes its own time for one it deflects. -/
theorem lastStickOverrideTime_after (happening : Happening F) (stick : Stick) :
    (manager.after happening).lastStickOverrideTime stick = manager.lastStickOverrideTime stick ∨
      happening.deflects stick = true ∧
        (manager.after happening).lastStickOverrideTime stick = happening.timeMs := by
  -- Only a pass muxes: a command or a new configuration notes no time.
  cases happening with
  | setNewOffboardCommand nowUs msg => exact .inl rfl
  | updateFailsafeConfig params state => exact .inl rfl
  | run nowMs params rc state =>
    rw [after_run]
    refine (lastStickOverrideTime_run manager nowMs params rc state stick).imp id ?_
    rintro ⟨⟨flying, deflected⟩, noted⟩
    refine ⟨?_, noted⟩
    rw [Happening.deflects, flying]
    exact deflected

/-- The noted time of a stick is the initial one or that of a deflection. -/
theorem lastStickOverrideTime_cases (earlier : List (Happening F)) (stick : Stick) :
    let last := (Library.run after new earlier).lastStickOverrideTime stick
    last = 0 ∨ ∃ pass ∈ earlier, pass.deflects stick = true ∧ pass.timeMs = last := by
  -- Each event keeps the time or replaces it by its own.
  induction earlier using List.reverseRecOn with
  | nil => exact .inl rfl
  | append_singleton before happening ih =>
    simp only [Library.run_concat]
    rcases lastStickOverrideTime_after (Library.run after new before) happening stick with
      kept | ⟨deflects, noted⟩
    · rw [kept]
      refine ih.imp id ?_
      rintro ⟨pass, member, deflected⟩
      exact ⟨pass, List.mem_append_left _ member, deflected⟩
    · rw [noted]
      exact .inr ⟨happening, List.mem_append_right _ (List.mem_singleton_self _), deflects, rfl⟩

omit [FlightFloat F] in
/-- Recent deflections are recent exactly if the latest one is. -/
theorem exists_recent_iff (deflects : Happening F → Bool) (earlier : List (Happening F))
    (lag now : Nat) :
    (∃ pass ∈ earlier, deflects pass = true ∧ now < pass.timeMs + lag) ↔
      ∃ latest, ((earlier.filter deflects).map Happening.timeMs).max? = some latest ∧
        now < latest + lag := by
  constructor
  · -- The latest deflection is no earlier than a recent one.
    rintro ⟨pass, member, deflected, recent⟩
    have listed : pass.timeMs ∈ (earlier.filter deflects).map Happening.timeMs :=
      List.mem_map_of_mem (List.mem_filter.mpr ⟨member, deflected⟩)
    obtain ⟨latest, found⟩ := Option.isSome_iff_exists.mp (List.isSome_max?_of_mem listed)
    have later := (List.max?_eq_some_iff.mp found).2 pass.timeMs listed
    exact ⟨latest, found, by omega⟩
  · rintro ⟨latest, found, recent⟩
    obtain ⟨pass, filtered, rfl⟩ := List.mem_map.mp (List.max?_eq_some_iff.mp found).1
    obtain ⟨member, deflected⟩ := List.mem_filter.mp filtered
    exact ⟨pass, member, deflected, recent⟩

/-- A running lag is that of a recent deflection exactly if it tells of the latest one. -/
theorem lag_runs_iff (earlier : List (Happening F)) (stick : Stick) (lag now : Nat) :
    (now < saturatingAddU32 ((Library.run after new earlier).lastStickOverrideTime stick) lag ↔
        ∃ pass ∈ earlier, pass.deflects stick = true ∧ now < pass.timeMs + lag) ↔
      LagTold ((Library.run after new earlier).lastStickOverrideTime stick) lag now
        (latestDeflection stick earlier) := by
  have noted := lastStickOverrideTime_cases earlier stick
  dsimp only at noted
  rw [exists_recent_iff, ← latestDeflection]
  generalize (Library.run after new earlier).lastStickOverrideTime stick = last at noted ⊢
  cases found : latestDeflection stick earlier with
  | none => simp [LagTold]
  | some latest =>
    -- The noted time is not later than the latest deflection.
    have before : last ≤ latest := by
      rcases noted with start | ⟨pass, member, deflected, time⟩
      · omega
      · have listed : last ∈ (earlier.filter (·.deflects stick)).map Happening.timeMs :=
          List.mem_map.mpr ⟨pass, List.mem_filter.mpr ⟨member, deflected⟩, time⟩
        exact (List.max?_eq_some_iff.mp found).2 last listed
    simp only [LagTold, Option.some.injEq, exists_eq_left']
    unfold saturatingAddU32
    omega

/-- Along every run of a command manager from the start, each muxing pass tells exactly the recent
deflections of its sticks if and only if each lag tells of the latest deflection. -/
theorem tellsDeflections_iff (happenings : List (Happening F)) :
    EveryEntry TellsDeflections happenings ↔ EveryEntry LagsTold happenings := by
  have agree (earlier : List (Happening F)) (happening : Happening F) :
      TellsDeflections earlier happening ↔ LagsTold earlier happening := by
    cases happening with
    | setNewOffboardCommand nowUs msg => exact Iff.rfl
    | updateFailsafeConfig params state => exact Iff.rfl
    | run nowMs params rc state =>
      refine forall_congr' fun flying => forall_congr' fun stick => forall_congr' fun attitude => ?_
      have told := lag_runs_iff earlier stick (overrideLagTimeMs params) nowMs
      rw [run_reports_stick_iff _ nowMs params rc state flying attitude, ← told]
      -- A stick that is deflected is reported and told of in any case.
      cases exceeds params rc stick with
      | true => simp
      | false => simp
  exact forall_congr' fun before => forall_congr' fun entry => forall_congr' fun rest =>
    forall_congr' fun _ => agree before entry

section Flights

/-- A radio-control sample as it is received and processed at a time, and the state after it. -/
def received (sample : RcPacket ℚ) (nowMs : Nat) : Rc ℚ × StateManager :=
  ((Rc.new.init lockoutParams).receive
    { sample with header := { timestamp := nowMs * 1000 } }).run nowMs lockoutParams
      (StateManager.new.update .INITIALIZED lockoutParams)

/-- A pass right after a radio-control sample. -/
def freshPass (sample : RcPacket ℚ) (nowMs : Nat) : Happening ℚ :=
  .run nowMs lockoutParams (received sample nowMs).1 (received sample nowMs).2

/-- What a pass right after a sample has to tell of the roll stick. -/
theorem TellsDeflections.roll {earlier : List (Happening ℚ)} {sample : RcPacket ℚ} {nowMs : Nat}
    (tells : TellsDeflections earlier (freshPass sample nowMs))
    (flying : (noteRcLoss nowMs lockoutParams (received sample nowMs).1
      (received sample nowMs).2).isInFailsafe = false) :
    ((Library.run after new earlier).run nowMs lockoutParams (received sample nowMs).1
        (received sample nowMs).2).manager.getRcOverride &&& OVERRIDE_X ≠ 0#16 ↔
      exceeds lockoutParams (received sample nowMs).1 .X = true ∨
        ∃ pass ∈ earlier, pass.deflects .X = true ∧
          nowMs < pass.timeMs + overrideLagTimeMs lockoutParams :=
  tells flying .X (by decide)

/-- Untouched sticks are reported half a second after the start, and the roll stick is not any more
a tenth of a second after a pilot has let it go. -/
theorem not_tellsDeflections :
    ¬ EveryEntry TellsDeflections [freshPass sticksAtRest 500] ∧
      ¬ EveryEntry TellsDeflections
        [freshPass rollHardOver 2000, freshPass rollHardOver 2900,
          freshPass sticksAtRest 3000] := by
  constructor
  · intro every
    have tells := (every [] _ [] rfl).roll (by decide +kernel)
    -- The lag seems to run since time zero.
    rcases tells.mp (by decide +kernel) with deflected | ⟨pass, member, -⟩
    · exact absurd deflected (by decide +kernel)
    · exact absurd member List.not_mem_nil
  · intro every
    have tells := (every [freshPass rollHardOver 2000, freshPass rollHardOver 2900] _ [] rfl).roll
      (by decide +kernel)
    -- The deflection at 2900 ms has not restarted the lag that runs since 2000 ms.
    have recent := tells.mpr (.inr ⟨freshPass rollHardOver 2900, by simp, by decide +kernel,
      by decide +kernel⟩)
    exact absurd recent (by decide +kernel)

end Flights

end CommandManager

end Veloxity
