import Veloxity.Rc.StickArming

/-! What the receiver's count of held sticks measures, and when it measures a held stretch. -/

namespace Veloxity

open Library

variable {F : Type}

namespace StickHistory

/-- Samples are recorded in the order of their times. -/
def Ordered : StickHistory → Prop
  | [] => True
  | .becameArmed :: older => Ordered older
  | .sampled sample :: older => lastMs older ≤ sample.timeMs ∧ Ordered older

/-- The latest healthy sample is not newer than the latest sample. -/
theorem lastHealthyMs_le {history : StickHistory} (ordered : history.Ordered) :
    lastHealthyMs history ≤ lastMs history := by
  induction history with
  | nil => exact Nat.le_refl 0
  | cons mark older ih =>
    cases mark with
    | becameArmed => exact ih ordered
    | sampled sample =>
      -- A sample of a lost link only moves the later of the two times.
      have earlier := ih ordered.2
      have next := ordered.1
      simp only [lastHealthyMs, lastMs]
      split <;> omega

/-- Counting starts at a healthy sample or at the start of the clock. -/
theorem countedFrom_le {history : StickHistory} (ordered : history.Ordered) :
    countedFrom history ≤ lastHealthyMs history := by
  induction history with
  | nil => exact Nat.le_refl 0
  | cons mark older ih =>
    cases mark with
    | becameArmed => exact ih ordered
    | sampled sample =>
      have earlier := ih ordered.2
      have healthy := lastHealthyMs_le ordered.2
      have next := ordered.1
      -- A healthy sample either restarts the count or leaves it running from an earlier one.
      cases link : sample.healthy with
      | false => simpa [countedFrom, lastHealthyMs, link] using earlier
      | true =>
        simp only [countedFrom, lastHealthyMs, link, Bool.not_true, Bool.false_eq_true, if_false,
          if_true]
        split <;> omega

/-- A sample of the stretch is more than a second old, or the time the stretch ends at is, exactly
when the time the stretch starts at is. -/
theorem heldOver_or_iff (keeps : StickMark → Bool) {history : StickHistory}
    (ordered : history.Ordered) {laterMs : Nat} (later : lastMs history ≤ laterMs) (nowMs : Nat) :
    HeldOver keeps history nowMs ∨ laterMs + 1000 < nowMs ↔
      stretchStart keeps history laterMs + 1000 < nowMs := by
  induction history generalizing laterMs with
  | nil => simp [HeldOver, stretchStart]
  | cons mark older ih =>
    -- An interrupting mark leaves an empty stretch; any other extends the one before it.
    cases kept : keeps mark with
    | false =>
      have empty : ¬ HeldOver keeps (mark :: older) nowMs := by
        simp [HeldOver, List.takeWhile, kept]
      cases mark <;> simp [stretchStart, kept, empty]
    | true =>
      cases mark with
      | becameArmed =>
        rw [stretchStart, if_pos kept, ← ih ordered later]
        simp [HeldOver, List.takeWhile, kept]
      | sampled sample =>
        rw [stretchStart, if_pos kept, ← ih ordered.2 ordered.1]
        have split : HeldOver keeps (.sampled sample :: older) nowMs ↔
            sample.timeMs + 1000 < nowMs ∨ HeldOver keeps older nowMs := by
          simp [HeldOver, List.takeWhile, kept, or_and_right, exists_or]
        rw [split]
        have next : sample.timeMs ≤ laterMs := later
        constructor
        · rintro ((old | held) | ended)
          · exact Or.inr old
          · exact Or.inl held
          · exact Or.inr (by omega)
        · rintro (held | old)
          · exact Or.inl (Or.inr held)
          · exact Or.inl (Or.inl old)

/-- A stretch that ends with a sample at `nowMs` is long enough exactly when it started more than a
second before. -/
theorem heldOver_sampled_iff {keeps : StickMark → Bool} {history : StickHistory}
    (ordered : history.Ordered) {sample : StickSample} (later : lastMs history ≤ sample.timeMs)
    (kept : keeps (.sampled sample) = true) :
    HeldOver keeps (.sampled sample :: history) sample.timeMs ↔
      stretchStart keeps history sample.timeMs + 1000 < sample.timeMs := by
  rw [← heldOver_or_iff keeps ordered later]
  -- The sample itself is not older than now.
  have recent : ¬ sample.timeMs + 1000 < sample.timeMs := by omega
  simp [HeldOver, List.takeWhile, kept, or_and_right, exists_or, recent]

end StickHistory

namespace StickRun

open StickHistory

section

variable [FlightFloat F]

/-- The receiver's fields are the times its record gives: the latest healthy sample, and how long
before it counting started. -/
structure Counts (state : StickRun F) : Prop where
  ordered : state.history.Ordered
  prevTimeMs : state.rc.prevTimeMs = lastHealthyMs state.history
  held : state.rc.timeSticksHaveBeenInArmingPositionMs =
    min (lastHealthyMs state.history - countedFrom state.history) (wordSize - 1)

/-- A new receiver has counted nothing. -/
theorem counts_start (params : Params F) (manager : StateManager) :
    (start params manager).Counts where
  ordered := trivial
  prevTimeMs := rfl
  held := rfl

omit [FlightFloat F] in
/-- A mark of arming changes none of the recorded times. -/
theorem counts_noteArming {rc : Rc F} {manager before after : StateManager}
    {history : StickHistory} (counts : Counts ⟨rc, manager, history⟩) :
    Counts ⟨rc, after, noteArming before after history⟩ := by
  rw [noteArming]
  -- A mark is no sample, so the recorded samples stay in order either way.
  split
  · exact ⟨counts.ordered, counts.prevTimeMs, counts.held⟩
  · exact ⟨counts.ordered, counts.prevTimeMs, counts.held⟩

/-- What a call counts is the time since counting started, as far as a word can hold it. -/
theorem heldMs_eq {state : StickRun F} (counts : state.Counts) {nowMs : Nat}
    (later : lastMs state.history ≤ nowMs) (params : Params F) :
    state.rc.processSticksAndSwitches.heldMs nowMs params (state.sample nowMs params).armed =
      if (state.sample nowMs params).inGesture then
        min (nowMs - countedFrom state.history) (wordSize - 1)
      else 0 := by
  have started := countedFrom_le counts.ordered
  have healthy := lastHealthyMs_le counts.ordered
  have gesture : (state.sample nowMs params).inGesture =
      state.rc.processSticksAndSwitches.inGesture params (state.sample nowMs params).armed := rfl
  rw [gesture, Rc.heldMs]
  split
  · -- The interval since the latest healthy sample closes the gap to the present.
    have held : state.rc.processSticksAndSwitches.timeSticksHaveBeenInArmingPositionMs =
        state.rc.timeSticksHaveBeenInArmingPositionMs := rfl
    have since : state.rc.processSticksAndSwitches.prevTimeMs = state.rc.prevTimeMs := rfl
    rw [saturatingAddU32, held, since, counts.held, counts.prevTimeMs]
    omega
  · rfl

/-- A call asks for a change exactly in a healthy sample that holds its position more than a
second after the time counting started. -/
theorem stickRequest_iff {state : StickRun F} (counts : state.Counts) {nowMs : Nat}
    (later : lastMs state.history ≤ nowMs) (params : Params F) (event : Event) :
    state.rc.stickRequest nowMs params state.manager = some event ↔
      (state.sample nowMs params).healthy = true ∧ (state.sample nowMs params).inGesture = true ∧
        countedFrom state.history + 1000 < nowMs ∧
        event = if (state.sample nowMs params).armed then .REQUEST_DISARM else .REQUEST_ARM := by
  have held := heldMs_eq counts later params
  have long : 1000 < state.rc.processSticksAndSwitches.heldMs nowMs params
      (state.sample nowMs params).armed ↔
        (state.sample nowMs params).inGesture = true ∧
          countedFrom state.history + 1000 < nowMs := by
    rw [held]
    -- A word holds more than a second.
    have word : wordSize = 4294967296 := rfl
    split
    · rename_i gesture
      constructor
      · intro longer
        exact ⟨gesture, by omega⟩
      · rintro ⟨_, longer⟩
        omega
    · rename_i gesture
      simp [gesture]
  have asked : state.rc.stickRequest nowMs params state.manager =
      if (state.sample nowMs params).healthy &&
          1000 < state.rc.processSticksAndSwitches.heldMs nowMs params
            (state.sample nowMs params).armed then
        some (if (state.sample nowMs params).armed then .REQUEST_DISARM else .REQUEST_ARM)
      else none := rfl
  rw [asked]
  -- An unhealthy sample asks for nothing.
  cases healthy : (state.sample nowMs params).healthy with
  | false => simp
  | true =>
    simp only [Bool.true_and, decide_eq_true_eq, long, Option.ite_none_right_eq_some,
      Option.some.injEq, true_and, and_assoc]
    exact and_congr_right fun _ => and_congr_right fun _ => eq_comm

/-- A call of `run` keeps the account of its count. -/
theorem counts_run {state : StickRun F} (counts : state.Counts) {nowMs : Nat}
    {params : Params F} (unmapped : state.rc.switchMapped .Arm = false)
    (later : lastMs state.history ≤ nowMs) : (state.step (.run nowMs params)).Counts := by
  apply @counts_noteArming _ _ (state.rc.run nowMs params state.manager).2
  have held := heldMs_eq counts later params
  have ordered : Ordered (.sampled (state.sample nowMs params) :: state.history) :=
    ⟨later, counts.ordered⟩
  rw [Rc.run_eq unmapped]
  cases healthy : state.rc.checkRcHealth (nowMs * 1000) params with
  | false =>
    -- A sample of a lost link is passed over, by the count as by the record.
    have lost : (state.sample nowMs params).healthy = false := healthy
    refine ⟨ordered, ?_, ?_⟩
    · simpa [lastHealthyMs, lost] using counts.prevTimeMs
    · simpa [lastHealthyMs, countedFrom, lost] using counts.held
  | true =>
    have live : (state.sample nowMs params).healthy = true := healthy
    have now : (state.sample nowMs params).timeMs = nowMs := rfl
    have armed : (Rc.linkRestored params state.manager).isArmed =
      (state.sample nowMs params).armed := rfl
    have word : wordSize = 4294967296 := rfl
    refine ⟨ordered, ?_, ?_⟩
    · simp [lastHealthyMs, live, now]
    · simp only [if_true, Rc.answerHeld_held, armed, held]
      simp only [lastHealthyMs, countedFrom, live, now, Bool.not_true, Bool.false_eq_true, if_false,
        if_true]
      -- Out of position and after a request to disarm the count starts at this sample.
      cases gesture : (state.sample nowMs params).inGesture with
      | false => simp
      | true =>
        cases (state.sample nowMs params).armed with
        | false => simp
        | true =>
          simp only [if_true, and_true, Bool.not_true, Bool.true_and, Bool.false_or,
            decide_eq_true_eq]
          split <;> split <;> omega

/-- Every event of an ordinary run keeps the account of the count. -/
theorem Counts.step {state : StickRun F} (counts : state.Counts) {event : StickEvent F}
    (ordinary : state.Ordinary event) : (state.step event).Counts := by
  cases event with
  | receive packet => exact ⟨counts.ordered, counts.prevTimeMs, counts.held⟩
  | paramChange id params =>
    -- Parameters change the mapping of the sticks, not the count.
    have kept : (state.rc.paramChangeCallback id params).prevTimeMs = state.rc.prevTimeMs ∧
        (state.rc.paramChangeCallback id params).timeSticksHaveBeenInArmingPositionMs =
          state.rc.timeSticksHaveBeenInArmingPositionMs := by
      unfold Rc.paramChangeCallback
      split <;> exact ⟨rfl, rfl⟩
    exact ⟨counts.ordered, kept.1.trans counts.prevTimeMs, kept.2.trans counts.held⟩
  | takeNewCommand => exact ⟨counts.ordered, counts.prevTimeMs, counts.held⟩
  | manage input =>
    exact @counts_noteArming _ _ state.manager _ _ _
      ⟨counts.ordered, counts.prevTimeMs, counts.held⟩
  | run nowMs params => exact counts_run counts ordinary.1 ordinary.2

/-- The stretch a healthy sample in position ends is the one its request is judged by. -/
theorem keepsGesture_sample {sample : StickSample} (healthy : sample.healthy = true)
    (gesture : sample.inGesture = true) :
    keepsGesture sample.armed (.sampled sample) = true := by
  rw [StickSample.inGesture] at gesture
  rw [keepsGesture]
  -- Armed vehicles are judged by the disarming position and disarmed ones by the arming one.
  split at gesture
  · rename_i armed
    simp [armed, StickMark.keepsDisarming, healthy, gesture]
  · rename_i armed
    simp [armed, StickMark.keepsArming, healthy, gesture]

omit [FlightFloat F] in
/-- A count is early where it passes a second before the stretch it is judged by does. -/
theorem early_iff {held : Prop} {counted started nowMs : Nat}
    (judged : held ↔ started + 1000 < nowMs) :
    (counted + 1000 < nowMs → held) ↔
      ¬ (counted + 1000 < nowMs ∧ nowMs ≤ started + 1000) := by
  rw [judged]
  omega

/-- Where the count is accounted for, a call asks too early exactly inside the window. -/
theorem holdsBeforeRequest_iff {state : StickRun F} (counts : state.Counts)
    {event : StickEvent F} (ordinary : state.Ordinary event) :
    state.HoldsBeforeRequest event ↔ state.OutsideWindow event := by
  cases event with
  | receive packet => exact Iff.rfl
  | paramChange id params => exact Iff.rfl
  | takeNewCommand => exact Iff.rfl
  | manage input => exact Iff.rfl
  | run nowMs params =>
    have asked := stickRequest_iff counts ordinary.2 params
    have held := @heldOver_sampled_iff (keepsGesture (state.sample nowMs params).armed)
      state.history counts.ordered (state.sample nowMs params) ordinary.2
    simp only [HoldsBeforeRequest, OutsideWindow, asked, Bool.and_eq_true]
    -- Either gesture is asked for in its own arming state and judged by its own stretch.
    have judged : ∀ gesture : (state.sample nowMs params).healthy = true ∧
        (state.sample nowMs params).inGesture = true,
        (HeldOver (keepsGesture (state.sample nowMs params).armed)
          (.sampled (state.sample nowMs params) :: state.history) nowMs ↔
          stretchStart (keepsGesture (state.sample nowMs params).armed) state.history nowMs + 1000
            < nowMs) :=
      fun gesture => held (keepsGesture_sample gesture.1 gesture.2)
    -- From here on only the sample and its stretch matter.
    generalize state.sample nowMs params = sample at judged ⊢
    cases armed : sample.armed with
    | false =>
      have never : Event.REQUEST_DISARM ≠ Event.REQUEST_ARM := by decide
      simp only [armed, keepsGesture, Bool.false_eq_true, if_false, never, and_false, and_true,
        false_imp_iff, ← and_assoc] at judged ⊢
      rw [and_imp]
      exact imp_congr_right fun gesture => early_iff (judged gesture)
    | true =>
      have never : Event.REQUEST_ARM ≠ Event.REQUEST_DISARM := by decide
      simp only [armed, keepsGesture, if_true, never, and_false, and_true, false_imp_iff, true_and,
        ← and_assoc] at judged ⊢
      rw [and_imp]
      exact imp_congr_right fun gesture => early_iff (judged gesture)

end

/-- A packet of six channels whose sticks are centred, or down and to the right. -/
def stickPacket (timestamp : Nat) (down : Bool) : RcPacket ℚ where
  header := { timestamp }
  nChan := 6
  chan index := if !down then 1 / 2 else if index.val = 3 then 1 else 0
  lol := false

/-- A receiver and a manager with default parameters, before any call. -/
def freshSticks : StickRun ℚ :=
  start Params.new (StateManager.initialised (Params.new : Params ℚ))

/-- The sticks are held in the arming position from 1010 ms until 2011 ms. -/
def heldSticksRun : List (StickEvent ℚ) :=
  [.receive (stickPacket 1000000 false), .run 1000 Params.new,
    .receive (stickPacket 1010000 true), .run 1010 Params.new, .run 1500 Params.new,
    .receive (stickPacket 2000000 true), .run 2000 Params.new, .run 2011 Params.new]

/-- The link is lost at 2000 ms and back at 2100 ms with the sticks in the arming position. -/
def outageSticksRun : List (StickEvent ℚ) :=
  [.receive (stickPacket 1000000 false), .run 1000 Params.new, .run 2000 Params.new,
    .receive (stickPacket 2100000 true), .run 2100 Params.new]

end StickRun

end Veloxity
