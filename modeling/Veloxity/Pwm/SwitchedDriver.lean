import Veloxity.Pwm.AcceptingDriver

/-! A driver that accepts every call, whose channels forget their value when switched off. -/

namespace Veloxity

/-- Channels that never refuse a call, and forget what they were handed when switched off. -/
structure SwitchedDriver (R : Type) extends AcceptingDriver R

namespace SwitchedDriver

variable {R : Type}

/-- A driver nothing has been handed to, with some channels already on. -/
def new (channels : Nat) (enabled : Nat → Bool) : SwitchedDriver R :=
  ⟨.new channels enabled⟩

/-- Switch one channel on. -/
def switchOn (driver : SwitchedDriver R) (channel : Nat) : SwitchedDriver R :=
  ⟨driver.switch channel true⟩

/-- Switch one channel off, which ends what it was last handed. -/
def switchOff (driver : SwitchedDriver R) (channel : Nat) : SwitchedDriver R :=
  ⟨{ driver.switch channel false with handed := Function.update driver.handed channel none }⟩

/-- Switch every channel off. -/
def allOff (driver : SwitchedDriver R) : SwitchedDriver R :=
  { driver with enabled := fun _ => false, handed := fun _ => none }

/-- A channel that is on was last handed a live command. -/
def Live (driver : SwitchedDriver R) (channel : Nat) : Prop :=
  (channel < driver.channels ∧ driver.enabled channel = true) ∧
    ∃ value, driver.handed channel = some (.command value)

/-- Live commands only ever reach the channels the firmware composes. -/
def Composed (driver : SwitchedDriver R) : Prop :=
  ∀ channel value, driver.handed channel = some (.command value) → channel < PWM_OUTPUT_CHANNELS

end SwitchedDriver

instance {R : Type} [FlightFloat R] : PwmDriver R (SwitchedDriver R) where
  len driver := driver.channels
  isEnabled driver := (List.range driver.channels).all driver.enabled
  enable driver channel := (driver.switchOn channel, .ok ())
  disable driver channel := (driver.switchOff channel, .ok ())
  enableAll driver := ({ driver with enabled := fun _ => true }, .ok ())
  disableAll driver := driver.allOff
  flush driver := driver
  sendCommands driver commands := (⟨driver.take commands⟩, .ok ())
  sendDisarmedCommands driver outputTypes := (⟨driver.rest outputTypes⟩, .ok ())

/-- A channel the mask marks, as the switching loop tests it. -/
theorem marked_iff (mask : BitVec 32) (channel : Nat) :
    mask &&& 1#32 <<< channel ≠ 0 ↔ mask.getLsbD channel = true := by
  -- The tested mask is a single bit, or nothing.
  rw [← BitVec.twoPow_eq, BitVec.and_twoPow]
  cases set : mask.getLsbD channel with
  | false => simp
  | true =>
    have inside := BitVec.lt_of_getLsbD set
    have bit : (BitVec.twoPow 32 channel).getLsbD channel = true := by
      simp only [BitVec.getLsbD_twoPow, inside, decide_true, Bool.true_and]
    refine iff_of_true (fun zero => ?_) rfl
    rw [if_pos rfl] at zero
    rw [zero] at bit
    simp at bit

/-- The available channels are those the driver has. -/
theorem availableMask_getLsbD {channelCount : Nat} (fits : channelCount ≤ 32) (channel : Nat) :
    (availableMask channelCount).getLsbD channel = decide (channel < channelCount) := by
  have value : (availableMask channelCount).toNat = 2 ^ channelCount - 1 := by
    unfold availableMask
    split
    · rename_i all
      subst all
      rfl
    · -- One less than a power of two has the lower bits set.
      have bounded : 2 ^ channelCount < 2 ^ 32 := Nat.pow_lt_pow_right (by omega) (by omega)
      rw [← BitVec.twoPow_eq, BitVec.toNat_sub_of_le, BitVec.toNat_twoPow, Nat.mod_eq_of_lt bounded]
      · rfl
      · rw [BitVec.le_def, BitVec.toNat_twoPow, Nat.mod_eq_of_lt bounded]
        exact Nat.two_pow_pos channelCount
  rw [BitVec.getLsbD, value, Nat.testBit_two_pow_sub_one]

/-- A mask with something in it has a bit set. -/
theorem exists_bit_of_ne_zero {mask : BitVec 32} (some : mask ≠ 0) :
    ∃ channel, mask.getLsbD channel = true := by
  -- Were no bit set, the mask would be empty.
  by_contra none
  refine some (BitVec.eq_of_getLsbD_eq fun channel _ => ?_)
  rw [Bool.eq_false_iff.mpr fun set => none ⟨channel, set⟩]
  simp

section Switching

variable {D : Type} {act : D → Nat → D × Except PwmError Unit}
  {record : BitVec 32 → BitVec 32 → BitVec 32} {marked : BitVec 32}

/-- A channel's bit is set in both records of the switching. -/
def Switching.Holds (progress : Switching D) (channel : Nat) : Prop :=
  progress.applied.getLsbD channel = true ∧ progress.output.enabledMask.getLsbD channel = true

/-- A call that is accepted records its channel, and the loop goes on. -/
theorem switchChannels_cons (accepts : ∀ driver channel, (act driver channel).2 = .ok ())
    (channel : Nat) (rest : List Nat) (progress : Switching D) :
    switchChannels act record marked (channel :: rest) progress =
      switchChannels act record marked rest
        (if marked.getLsbD channel then
          { progress with
            driver := (act progress.driver channel).1
            applied := record progress.applied (1#32 <<< channel)
            output := { enabledMask := record progress.applied (1#32 <<< channel) } }
        else progress) := by
  -- Only marked channels are acted on.
  rw [switchChannels]
  by_cases set : marked.getLsbD channel = true
  · rw [if_pos ((marked_iff marked channel).mpr set), if_pos set]
    simp only [accepts]
  · rw [if_neg fun nonzero => set ((marked_iff marked channel).mp nonzero), if_neg set]

/-- What every step of the switching keeps holds at its end. -/
theorem switchChannels_keeps (accepts : ∀ driver channel, (act driver channel).2 = .ok ())
    (kept : Switching D → Prop)
    (step : ∀ progress channel, marked.getLsbD channel = true → kept progress →
      kept { progress with
        driver := (act progress.driver channel).1
        applied := record progress.applied (1#32 <<< channel)
        output := { enabledMask := record progress.applied (1#32 <<< channel) } })
    (channels : List Nat) {progress : Switching D} (holds : kept progress) :
    kept (switchChannels act record marked channels progress) := by
  -- The channels are taken one after another.
  induction channels generalizing progress with
  | nil => exact holds
  | cons channel rest ih =>
    rw [switchChannels_cons accepts]
    refine ih ?_
    split
    · rename_i set
      exact step progress channel set holds
    · exact holds

/-- A marked channel's bit is set at the end of a switching whose steps keep it. -/
theorem switchChannels_sets (accepts : ∀ driver channel, (act driver channel).2 = .ok ())
    {bit : Nat} {channels : List Nat} (listed : bit ∈ channels) (set : marked.getLsbD bit = true)
    (sets : ∀ mask : BitVec 32, (record mask (1#32 <<< bit)).getLsbD bit = true)
    (keeps : ∀ (mask : BitVec 32) (channel : Nat), mask.getLsbD bit = true →
      (record mask (1#32 <<< channel)).getLsbD bit = true) (progress : Switching D) :
    (switchChannels act record marked channels progress).Holds bit := by
  -- Once the channel's turn has come its bit stays.
  induction channels generalizing progress with
  | nil => exact nomatch listed
  | cons channel rest ih =>
    rw [switchChannels_cons accepts]
    rcases List.mem_cons.mp listed with rfl | later
    · rw [if_pos set]
      exact switchChannels_keeps accepts (fun after => after.Holds bit)
        (fun _ channel _ holds => ⟨keeps _ channel holds.1, keeps _ channel holds.1⟩) rest
        ⟨sets _, sets _⟩
    · exact ih later _

end Switching

variable {R : Type} [FlightFloat R]

namespace SwitchedDriver

/-- Channels the firmware can switch one by one. -/
def available (driver : SwitchedDriver R) : BitVec 32 :=
  availableMask (min driver.channels 32)

/-- Live commands are composed ones, and with no known channel on there are none. -/
structure Tracked (driver : SwitchedDriver R) (output : PwmOutputState) : Prop where
  composed : driver.Composed
  off : output.enabledMask &&& driver.available = 0 → ∀ channel, ¬ driver.Live channel
  known : output.enabledMask &&& driver.available = 0 →
    output.isEnabled = false ∨ driver.channels = 0

omit [FlightFloat R] in
/-- A driver is tracked when only one without channels looks as if all were off. -/
theorem tracked_of_empty {driver : SwitchedDriver R} {output : PwmOutputState}
    (composed : driver.Composed)
    (empty : output.enabledMask &&& driver.available = 0 → driver.channels = 0) :
    driver.Tracked output :=
  ⟨composed, fun zero _ live => absurd live.1.1 (by rw [empty zero]; omega),
    fun zero => Or.inr (empty zero)⟩

omit [FlightFloat R] in
/-- A driver is tracked while one of the mask's bits is available. -/
theorem tracked_of_bit {driver : SwitchedDriver R} {output : PwmOutputState}
    (composed : driver.Composed) {channel : Nat}
    (set : output.enabledMask.getLsbD channel = true) (present : driver.available.getLsbD channel) :
    driver.Tracked output := by
  refine tracked_of_empty composed fun zero => ?_
  -- The bit contradicts an empty mask.
  have bit := congrArg (fun mask : BitVec 32 => mask.getLsbD channel) zero
  simp [set, present] at bit

omit [FlightFloat R] in
/-- A driver nothing has been handed to is tracked by the mask it starts with. -/
theorem tracked_start (channels : Nat) (enabled : Nat → Bool) (on : Bool) :
    (new channels enabled : SwitchedDriver R).Tracked (.new on) := by
  cases on with
  | false =>
    refine ⟨fun _ _ handed => (nomatch handed), fun _ channel live => ?_, fun _ => Or.inl rfl⟩
    obtain ⟨-, value, handed⟩ := live
    exact nomatch handed
  | true =>
    refine tracked_of_empty (fun _ _ handed => nomatch handed) fun zero => ?_
    -- A full mask only misses a driver without channels.
    show channels = 0
    by_contra some
    have first : (availableMask (min channels 32)).getLsbD 0 = true := by
      rw [availableMask_getLsbD (Nat.min_le_right _ _)]
      exact decide_eq_true (by omega)
    have bit := congrArg (fun mask : BitVec 32 => mask.getLsbD 0) zero
    rw [show (PwmOutputState.new true).enabledMask = BitVec.allOnes 32 from rfl,
      BitVec.allOnes_and, show (new channels enabled : SwitchedDriver R).available =
        availableMask (min channels 32) from rfl, first] at bit
    exact nomatch bit

omit [FlightFloat R] in
/-- A driver whose channels are all off is tracked by the empty mask. -/
theorem tracked_allOff (driver : SwitchedDriver R) : driver.allOff.Tracked { enabledMask := 0 } :=
  ⟨fun _ _ handed => (nomatch handed), fun _ _ live => (nomatch live.1.2), fun _ => Or.inl rfl⟩

/-- Channels switched off, while none refuses. -/
def switchedOff (driver : SwitchedDriver R) (output : PwmOutputState) (channelCount : Nat)
    (current desired : BitVec 32) : Switching (SwitchedDriver R) :=
  switchChannels PwmDriver.disable (fun mask bit => mask &&& ~~~bit) (current &&& ~~~desired)
    (List.range channelCount) { driver, applied := current, output, result := .ok () }

/-- Channels switched off and then on, while none refuses. -/
def switchedOver (driver : SwitchedDriver R) (output : PwmOutputState) (channelCount : Nat)
    (current desired : BitVec 32) : Switching (SwitchedDriver R) :=
  switchChannels PwmDriver.enable (fun mask bit => mask ||| bit) (desired &&& ~~~current)
    (List.range channelCount) (driver.switchedOff output channelCount current desired)

section

variable (driver : SwitchedDriver R) (output : PwmOutputState) (channelCount : Nat)
  (current desired : BitVec 32)

/-- Nothing interrupts the switching of a driver that accepts every call. -/
theorem switchToMask_eq :
    switchToMask driver output channelCount current desired =
      ⟨(driver.switchedOver output channelCount current desired).driver,
        (driver.switchedOver output channelCount current desired).output, .ok true⟩ := by
  have off : (driver.switchedOff output channelCount current desired).result = .ok () :=
    switchChannels_keeps (fun _ _ => rfl) (fun progress => progress.result = .ok ())
      (fun _ _ _ going => going) _ rfl
  have calm : (driver.switchedOver output channelCount current desired).result = .ok () :=
    switchChannels_keeps (fun _ _ => rfl) (fun progress => progress.result = .ok ())
      (fun _ _ _ going => going) _ off
  -- Flushing leaves the driver as it is.
  have flushed (before : SwitchedDriver R) (asked : Prop) [Decidable asked] :
      (if asked then PwmDriver.flush before else before) = before := by
    split <;> rfl
  unfold switchToMask
  dsimp only
  rw [show (switchChannels PwmDriver.disable (fun mask bit => mask &&& ~~~bit)
    (current &&& ~~~desired) (List.range channelCount)
    { driver, applied := current, output, result := .ok () }) =
      driver.switchedOff output channelCount current desired from rfl, off]
  dsimp only
  have whole : ({
      driver := (driver.switchedOff output channelCount current desired).driver
      applied := (driver.switchedOff output channelCount current desired).applied
      output := (driver.switchedOff output channelCount current desired).output
      result := .ok () } : Switching (SwitchedDriver R)) =
        driver.switchedOff output channelCount current desired := by
    rw [← off]
  rw [flushed, whole, show (switchChannels PwmDriver.enable (fun mask bit => mask ||| bit)
    (desired &&& ~~~current) (List.range channelCount)
    (driver.switchedOff output channelCount current desired)) =
      driver.switchedOver output channelCount current desired from rfl, calm]

/-- Switching channels one by one keeps live commands on the composed channels. -/
theorem composed_switchedOver (composed : driver.Composed) :
    (driver.switchedOver output channelCount current desired).driver.Composed ∧
      (driver.switchedOver output channelCount current desired).driver.channels =
        driver.channels := by
  let kept (progress : Switching (SwitchedDriver R)) : Prop :=
    progress.driver.Composed ∧ progress.driver.channels = driver.channels
  -- Switching off forgets values, and switching on leaves them.
  have off : kept (driver.switchedOff output channelCount current desired) := by
    refine switchChannels_keeps (fun _ _ => rfl) kept (fun progress channel _ holds => ?_) _
      ⟨composed, rfl⟩
    refine ⟨fun other value handed => ?_, holds.2⟩
    have given : Function.update progress.driver.handed channel none other =
        some (.command value) := handed
    by_cases same : other = channel
    · rw [same, Function.update_self] at given
      exact nomatch given
    · rw [Function.update_of_ne same] at given
      exact holds.1 other value given
  exact switchChannels_keeps (fun _ _ => rfl) kept (fun _ _ _ holds => holds) _ off

/-- Switching channels one by one sets the bit of a channel that should be on. -/
theorem switchedOver_sets {channel : Nat} (inside : channel < channelCount)
    (desires : desired.getLsbD channel = true)
    (known : current.getLsbD channel = true → output.enabledMask.getLsbD channel = true) :
    (driver.switchedOver output channelCount current desired).output.enabledMask.getLsbD channel =
      true := by
  have keeps (mask : BitVec 32) (other : Nat) (set : mask.getLsbD channel = true) :
      (mask ||| 1#32 <<< other).getLsbD channel = true := by
    rw [BitVec.getLsbD_or, set, Bool.true_or]
  have fits := BitVec.lt_of_getLsbD desires
  cases set : current.getLsbD channel with
  | true =>
    -- The channel is on already, and is not among those switched off.
    have off : (driver.switchedOff output channelCount current desired).Holds channel := by
      refine switchChannels_keeps (fun _ _ => rfl) (fun progress => progress.Holds channel)
        (fun progress other marked holds => ?_) _ ⟨set, known set⟩
      have differs : other ≠ channel := by
        rintro rfl
        simp [desires] at marked
      have kept : (progress.applied &&& ~~~(1#32 <<< other)).getLsbD channel = true := by
        rw [← BitVec.twoPow_eq, BitVec.getLsbD_and, holds.1, BitVec.getLsbD_not,
          BitVec.getLsbD_twoPow]
        simp [fits, differs]
      exact ⟨kept, kept⟩
    exact (switchChannels_keeps (fun _ _ => rfl) (fun progress => progress.Holds channel)
      (fun _ other _ holds => ⟨keeps _ other holds.1, keeps _ other holds.1⟩) _ off).2
  | false =>
    -- The channel is switched on when its turn comes.
    refine (switchChannels_sets (fun _ _ => rfl) (List.mem_range.mpr inside) ?_ (fun mask => ?_)
      keeps _).2
    · rw [BitVec.getLsbD_and, desires, BitVec.getLsbD_not, set]
      simp [fits]
    · rw [← BitVec.twoPow_eq, BitVec.getLsbD_or, BitVec.getLsbD_twoPow]
      simp [fits]

end

/-- Switching keeps a driver tracked. -/
theorem Tracked.sync {driver : SwitchedDriver R} {output : PwmOutputState}
    (tracked : driver.Tracked output) (outputKillActive : Bool) (channelOutputMask : Int) :
    (syncPwmOutputState driver output outputKillActive channelOutputMask).driver.Tracked
      (syncPwmOutputState driver output outputKillActive channelOutputMask).output := by
  -- Whatever is desired is available.
  have included (channel : Nat) : (desiredMask outputKillActive channelOutputMask
      driver.available).getLsbD channel = true → driver.available.getLsbD channel = true := by
    unfold desiredMask
    intro desires
    split_ifs at desires
    · exact absurd desires (by simp)
    · exact desires
    · exact (Bool.and_eq_true_iff.mp ((BitVec.getLsbD_and).symm.trans desires)).2
    · exact absurd desires (by simp)
  unfold syncPwmOutputState
  dsimp only
  rw [show availableMask (min (PwmDriver.len driver) 32) = driver.available from rfl]
  generalize desiredMask outputKillActive channelOutputMask driver.available = desired
    at included ⊢
  split
  · -- Nothing changes but the bits of channels the driver does not have.
    have same (zero : (output.enabledMask &&& driver.available) &&& driver.available = 0) :
        output.enabledMask &&& driver.available = 0 := by
      rwa [BitVec.and_assoc, BitVec.and_self] at zero
    exact ⟨tracked.composed, fun zero => tracked.off (same zero),
      fun zero => Or.inl (by simp [PwmOutputState.isEnabled, same zero])⟩
  · rename_i differs
    split
    · rename_i starts
      -- All channels go on, of which there must be some.
      obtain ⟨channel, desires⟩ := exists_bit_of_ne_zero fun zero => differs (zero.trans
        starts.2.symm)
      exact tracked_of_bit tracked.composed desires (included channel desires)
    · split
      · exact tracked_allOff driver
      · rename_i some
        obtain ⟨channel, desires⟩ := exists_bit_of_ne_zero some
        have present := included channel desires
        have inside : channel < min driver.channels 32 := by
          rw [available, availableMask_getLsbD (Nat.min_le_right _ _)] at present
          exact of_decide_eq_true present
        have kept := driver.composed_switchedOver output (min driver.channels 32)
          (output.enabledMask &&& driver.available) desired tracked.composed
        have set := driver.switchedOver_sets output (min driver.channels 32)
          (output.enabledMask &&& driver.available) desired inside desires fun known =>
            (Bool.and_eq_true_iff.mp ((BitVec.getLsbD_and).symm.trans known)).1
        rw [switchToMask_eq]
        refine tracked_of_bit kept.1 set ?_
        show (availableMask (min (driver.switchedOver output (min driver.channels 32)
          (output.enabledMask &&& driver.available) desired).driver.channels 32)).getLsbD channel =
            true
        rw [kept.2]
        exact present

/-- A disarmed write leaves no channel with a live command. -/
theorem Tracked.not_live_of_write {driver : SwitchedDriver R} {output : PwmOutputState}
    (tracked : driver.Tracked output) (commands : List R) (outputTypes : List MixerOutputType)
    {state : StateManager} (disarmed : state.isArmed = false) (channel : Nat) :
    ¬ (writePwmCommands driver output commands outputTypes state).1.Live channel := by
  unfold writePwmCommands
  rw [disarmed]
  split
  · -- With every channel off nothing is written, and nothing was live.
    rename_i off
    rw [Bool.not_eq_true', PwmOutputState.isEnabled, bne_eq_false_iff_eq] at off
    exact tracked.off (by rw [off]; simp) channel
  · rintro ⟨⟨inside, -⟩, value, handed⟩
    -- A channel that was not handed its resting value was never handed a live command.
    change (if channel < driver.channels ∧ channel < PWM_OUTPUT_CHANNELS then
      some (Handed.resting (outputTypes.getD channel .aux)) else driver.handed channel) =
        some (.command value) at handed
    by_cases composed : channel < PWM_OUTPUT_CHANNELS
    · rw [if_pos ⟨inside, composed⟩] at handed
      exact nomatch handed
    · rw [if_neg fun reached => composed reached.2] at handed
      exact composed (tracked.composed channel value handed)

/-- Writing keeps a driver tracked. -/
theorem Tracked.write {driver : SwitchedDriver R} {output : PwmOutputState}
    (tracked : driver.Tracked output) (commands : Vector R PWM_OUTPUT_CHANNELS)
    (outputTypes : List MixerOutputType) (state : StateManager) :
    (writePwmCommands driver output commands.toList outputTypes state).1.Tracked output := by
  unfold writePwmCommands
  split
  · exact tracked
  · rename_i enabled
    have on : output.isEnabled = true := by simpa using enabled
    have empty (zero : output.enabledMask &&& driver.available = 0) : driver.channels = 0 := by
      rcases tracked.known zero with off | none
      · rw [on] at off
        exact nomatch off
      · exact none
    -- A driver with an output on only looks off without channels.
    split
    · refine tracked_of_empty (fun channel value handed => ?_) empty
      change (if channel < driver.channels ∧ channel < commands.toList.length then
        commands.toList[channel]?.map Handed.command else driver.handed channel) =
          some (.command value) at handed
      split at handed
      · rename_i reached
        rw [Vector.length_toList] at reached
        exact reached.2
      · exact tracked.composed channel value handed
    · refine tracked_of_empty (fun channel value handed => ?_) empty
      change (if channel < driver.channels ∧ channel < PWM_OUTPUT_CHANNELS then
        some (Handed.resting (outputTypes.getD channel .aux)) else driver.handed channel) =
          some (.command value) at handed
      split at handed
      · exact nomatch handed
      · exact tracked.composed channel value handed

end SwitchedDriver

end Veloxity
