import Veloxity.Library.Run
import Veloxity.Pwm.SwitchedDriver

/-! Whether the recorded channels are those that are on, whatever the driver refuses. -/

namespace Veloxity

open Library

variable {R D : Type} [FlightFloat R] [PwmDriver R D]

/-- Switch channels on one after another, stopping at the first refusal. -/
def enableInOrder {D : Type} (enable : D → Nat → D × Except PwmError Unit) (driver : D) :
    List Nat → D × Except PwmError Unit
  | [] => (driver, .ok ())
  | channel :: rest =>
    let enabled := enable driver channel
    match enabled.2 with
    | .error reason => (enabled.1, .error reason)
    | .ok () => enableInOrder enable enabled.1 rest

/-- Which channels of a driver are on, with calls that take effect or fail without any. -/
structure SwitchLaws (physical : D → Nat → Bool) : Prop where
  enable_ok : ∀ driver channel, (PwmDriver.enable driver channel).2 = .ok () →
    physical (PwmDriver.enable driver channel).1 = Function.update (physical driver) channel true
  enable_error : ∀ driver channel reason, (PwmDriver.enable driver channel).2 = .error reason →
    physical (PwmDriver.enable driver channel).1 = physical driver
  disable_ok : ∀ driver channel, (PwmDriver.disable driver channel).2 = .ok () →
    physical (PwmDriver.disable driver channel).1 = Function.update (physical driver) channel false
  disable_error : ∀ driver channel reason, (PwmDriver.disable driver channel).2 = .error reason →
    physical (PwmDriver.disable driver channel).1 = physical driver
  enableAll_eq : ∀ driver : D, PwmDriver.enableAll driver =
    enableInOrder PwmDriver.enable driver (List.range (PwmDriver.len driver))
  disableAll_off : ∀ driver channel, physical (PwmDriver.disableAll driver) channel = false
  flush_same : ∀ driver, physical (PwmDriver.flush driver) = physical driver
  len_enable : ∀ (driver : D) channel,
    PwmDriver.len (PwmDriver.enable driver channel).1 = PwmDriver.len driver
  len_disable : ∀ (driver : D) channel,
    PwmDriver.len (PwmDriver.disable driver channel).1 = PwmDriver.len driver
  len_disableAll : ∀ driver : D, PwmDriver.len (PwmDriver.disableAll driver) = PwmDriver.len driver
  len_flush : ∀ driver : D, PwmDriver.len (PwmDriver.flush driver) = PwmDriver.len driver

/-- A driver beside the record of its channels. -/
structure DrivenOutputs (D : Type) where
  driver : D
  output : PwmOutputState

/-- A call that brings the channels in line with a kill switch and a mask. -/
structure SyncCall where
  outputKillActive : Bool
  channelOutputMask : Int

namespace DrivenOutputs

/-- Make one call. -/
def sync (driven : DrivenOutputs D) (call : SyncCall) : PwmSync D :=
  syncPwmOutputState driven.driver driven.output call.outputKillActive call.channelOutputMask

/-- What one call leaves. -/
def step (driven : DrivenOutputs D) (call : SyncCall) : DrivenOutputs D :=
  { driver := (driven.sync call).driver, output := (driven.sync call).output }

/-- The channels the firmware can switch one by one. -/
def channelCount (driven : DrivenOutputs D) : Nat := min (PwmDriver.len driven.driver) 32

/-- Among the available channels the recorded ones are those that are on. -/
def Tracks (physical : D → Nat → Bool) (driven : DrivenOutputs D) : Prop :=
  ∀ channel < driven.channelCount,
    driven.output.enabledMask.getLsbD channel = physical driven.driver channel

/-- A call leaves the record as the channels are, and one that reports no error has switched them
as the kill switch and the mask say. -/
def SwitchesAsRecorded (physical : D → Nat → Bool) (driven : DrivenOutputs D) (call : SyncCall) :
    Prop :=
  Tracks physical (driven.step call) ∧
    ∀ changed, (driven.sync call).result = .ok changed → ∀ channel < driven.channelCount,
      physical (driven.step call).driver channel =
        (!call.outputKillActive && channelOutputEnabled call.channelOutputMask channel)

/-- All channels are to be switched on at once: they are all wanted and none is recorded. -/
def StartsAll (driven : DrivenOutputs D) (call : SyncCall) : Prop :=
  let available := availableMask driven.channelCount
  let desired := desiredMask call.outputKillActive call.channelOutputMask available
  desired = available ∧ driven.output.enabledMask &&& available = 0 ∧ available ≠ 0

/-- Switching all channels on at once goes through once its first channel is on. -/
def StartsWhole (driven : DrivenOutputs D) (call : SyncCall) : Prop :=
  driven.StartsAll call → (PwmDriver.enable driven.driver 0).2 = .ok () →
    (PwmDriver.enableAll driven.driver).2 = .ok ()

/-- Whether all channels are to be switched on at once is decided. -/
instance (driven : DrivenOutputs D) (call : SyncCall) : Decidable (driven.StartsAll call) :=
  inferInstanceAs (Decidable (_ ∧ _ ∧ _))

/-- Whether switching all channels on at once goes through is decided. -/
instance (driven : DrivenOutputs D) (call : SyncCall) : Decidable (driven.StartsWhole call) :=
  inferInstanceAs (Decidable (_ → _ → _))

end DrivenOutputs

/-- Among the first channels both records of a switching are the channels that are on. -/
structure Switching.Sound (physical : D → Nat → Bool) (count len : Nat) (progress : Switching D) :
    Prop where
  applied : ∀ channel < count,
    progress.applied.getLsbD channel = physical progress.driver channel
  output : ∀ channel < count,
    progress.output.enabledMask.getLsbD channel = physical progress.driver channel
  len : PwmDriver.len progress.driver = len

/-- A call that switches one channel, or fails without effect, and how it is recorded. -/
structure SwitchesOne (physical : D → Nat → Bool) (act : D → Nat → D × Except PwmError Unit)
    (record : BitVec 32 → BitVec 32 → BitVec 32) (on : Bool) : Prop where
  ok : ∀ driver channel, (act driver channel).2 = .ok () →
    physical (act driver channel).1 = Function.update (physical driver) channel on
  error : ∀ driver channel reason, (act driver channel).2 = .error reason →
    physical (act driver channel).1 = physical driver
  len : ∀ driver channel, PwmDriver.len (act driver channel).1 = PwmDriver.len driver
  records : ∀ (mask : BitVec 32) (channel bit : Nat), bit < 32 →
    (record mask (1#32 <<< channel)).getLsbD bit =
      if bit = channel then on else mask.getLsbD bit

section Switching

variable {physical : D → Nat → Bool} {act : D → Nat → D × Except PwmError Unit}
  {record : BitVec 32 → BitVec 32 → BitVec 32} {on : Bool}
  {count len : Nat}

/-- The records stay sound for a driver with the same channels switched on. -/
theorem Switching.Sound.of_same {progress : Switching D} (sound : progress.Sound physical count len)
    {driver : D} (same : physical driver = physical progress.driver)
    (length : PwmDriver.len driver = PwmDriver.len progress.driver)
    (result : Except PwmError Unit) :
    ({ driver, applied := progress.applied, output := progress.output, result } :
      Switching D).Sound physical count len := by
  -- Only the driver changes, and its channels are the same.
  refine ⟨?_, ?_, length.trans sound.len⟩
  · intro channel inside
    rw [same]
    exact sound.applied channel inside
  · intro channel inside
    rw [same]
    exact sound.output channel inside

/-- Recording a channel that was switched keeps the records sound. -/
theorem Switching.Sound.switched {progress : Switching D}
    (switches : SwitchesOne physical act record on) (fits : count ≤ 32)
    (sound : progress.Sound physical count len) {channel : Nat}
    (accepted : (act progress.driver channel).2 = .ok ()) :
    ({ progress with
        driver := (act progress.driver channel).1
        applied := record progress.applied (1#32 <<< channel)
        output := { enabledMask := record progress.applied (1#32 <<< channel) } } :
      Switching D).Sound physical count len := by
  -- The recorded bit and the switched channel change together.
  have recorded (bit : Nat) (inside : bit < count) :
      (record progress.applied (1#32 <<< channel)).getLsbD bit =
        physical (act progress.driver channel).1 bit := by
    rw [switches.records _ _ _ (by omega), switches.ok _ _ accepted, Function.update_apply,
      sound.applied bit inside]
  exact ⟨recorded, recorded, (switches.len _ _).trans sound.len⟩

/-- Switching channels one after another keeps the records sound at every failure, and without one
switches the marked channels. -/
theorem switchChannels_sound (switches : SwitchesOne physical act record on) (fits : count ≤ 32)
    (marked : BitVec 32) (channels : List Nat) {progress : Switching D}
    (sound : progress.Sound physical count len) :
    (switchChannels act record marked channels progress).Sound physical count len ∧
      (progress.result = .ok () →
        (switchChannels act record marked channels progress).result = .ok () →
        ∀ bit < count, (switchChannels act record marked channels progress).applied.getLsbD bit =
          if marked.getLsbD bit = true ∧ bit ∈ channels then on
          else progress.applied.getLsbD bit) := by
  induction channels generalizing progress with
  | nil => exact ⟨sound, fun _ _ bit _ => by simp [switchChannels]⟩
  | cons channel rest ih =>
    rw [switchChannels]
    by_cases set : marked.getLsbD channel = true
    · rw [if_pos ((marked_iff marked channel).mpr set)]
      dsimp only
      cases accepted : (act progress.driver channel).2 with
      | error reason =>
        -- A refusal changes no channel and ends the loop.
        dsimp only
        have same := switches.error _ _ _ accepted
        refine ⟨sound.of_same same (switches.len _ _) (.error reason), ?_⟩
        intro _ failed
        cases failed
      | ok _ =>
        dsimp only
        obtain ⟨kept, switched⟩ := ih (sound.switched switches fits accepted)
        refine ⟨kept, fun begun ended bit inside => ?_⟩
        rw [switched begun ended bit inside, switches.records _ _ _ (by omega)]
        -- The channel just switched stays as it is.
        by_cases same : bit = channel
        · simp [same, set]
        · simp [same]
    · rw [if_neg fun marks => set ((marked_iff marked channel).mp marks)]
      obtain ⟨kept, switched⟩ := ih sound
      refine ⟨kept, fun begun ended bit inside => ?_⟩
      rw [switched begun ended bit inside]
      have other (marks : marked.getLsbD bit = true) : bit ≠ channel := by
        rintro rfl
        exact set marks
      simp only [List.mem_cons]
      congr 1
      apply propext
      constructor
      · rintro ⟨marks, later⟩
        exact ⟨marks, .inr later⟩
      · rintro ⟨marks, listed⟩
        exact ⟨marks, listed.resolve_left (other marks)⟩

/-- A channel of the desired mask is one the kill switch and the configured mask let through. -/
theorem desiredMask_getLsbD {count : Nat} (fits : count ≤ 32) (outputKillActive : Bool)
    (channelOutputMask : Int) {channel : Nat} (inside : channel < count) :
    (desiredMask outputKillActive channelOutputMask (availableMask count)).getLsbD channel =
      (!outputKillActive && channelOutputEnabled channelOutputMask channel) := by
  -- Every channel of the driver is available, so the configured mask decides.
  have available : (availableMask count).getLsbD channel = true := by
    rw [availableMask_getLsbD fits, decide_eq_true inside]
  have small : channel < 32 := by omega
  unfold desiredMask channelOutputEnabled
  cases outputKillActive with
  | true => simp
  | false =>
    rw [if_neg Bool.false_ne_true]
    by_cases all : channelOutputMask = -1
    · simp [all, available]
    · by_cases chosen : 0 ≤ channelOutputMask
      · obtain ⟨mask, rfl⟩ := Int.eq_ofNat_of_zero_le chosen
        rw [if_neg all, if_pos chosen, BitVec.getLsbD_and, available, BitVec.ofInt_natCast,
          BitVec.getLsbD_ofNat]
        simp [all, small]
      · simp [all, chosen]

section Laws

variable {physical : D → Nat → Bool} (laws : SwitchLaws physical)

include laws

/-- Switching a channel on switches that one channel. -/
theorem SwitchLaws.enables : SwitchesOne physical (PwmDriver.enable (D := D))
    (fun mask bit => mask ||| bit) true where
  -- Setting one bit records one channel.
  ok := laws.enable_ok
  error := laws.enable_error
  len := laws.len_enable
  records mask channel bit inside := by
    rw [← BitVec.twoPow_eq, BitVec.getLsbD_or, BitVec.getLsbD_twoPow]
    grind

/-- Switching a channel off switches that one channel. -/
theorem SwitchLaws.disables : SwitchesOne physical (PwmDriver.disable (D := D))
    (fun mask bit => mask &&& ~~~bit) false where
  -- Clearing one bit records one channel.
  ok := laws.disable_ok
  error := laws.disable_error
  len := laws.len_disable
  records mask channel bit inside := by
    rw [← BitVec.twoPow_eq, BitVec.getLsbD_and, BitVec.getLsbD_not, BitVec.getLsbD_twoPow]
    grind

/-- Bringing the channels to a mask keeps the record sound at every failure, and without one the
channels are those of the mask. -/
theorem SwitchLaws.switchToMask_sound {driver : D} {output : PwmOutputState} {count : Nat}
    {current : BitVec 32} (desired : BitVec 32) (fits : count ≤ 32)
    (tracked : ∀ channel < count, current.getLsbD channel = physical driver channel)
    (recorded : ∀ channel < count, output.enabledMask.getLsbD channel = physical driver channel) :
    let switched := switchToMask driver output count current desired
    PwmDriver.len switched.driver = PwmDriver.len driver ∧
      (∀ channel < count, switched.output.enabledMask.getLsbD channel =
        physical switched.driver channel) ∧
      ∀ changed, switched.result = .ok changed → ∀ channel < count,
        physical switched.driver channel = desired.getLsbD channel := by
  unfold switchToMask
  dsimp only
  have begun : Switching.Sound physical count (PwmDriver.len driver)
      { driver, applied := current, output, result := .ok () } := ⟨tracked, recorded, rfl⟩
  obtain ⟨sound, switchedOff⟩ := switchChannels_sound laws.disables fits (current &&& ~~~desired)
    (List.range count) begun
  generalize switchChannels PwmDriver.disable (fun mask bit => mask &&& ~~~bit)
    (current &&& ~~~desired) (List.range count)
    { driver, applied := current, output, result := .ok () } = disabled at sound switchedOff
  obtain ⟨off, applied, recordedOff, ended⟩ := disabled
  cases ended with
  | error reason =>
    -- The record is that of the channels switched off so far.
    refine ⟨sound.len, sound.output, ?_⟩
    intro changed failed
    cases failed
  | ok _ =>
    dsimp only
    -- Pushing the values out switches nothing.
    have flushed : Switching.Sound physical count (PwmDriver.len driver)
        { driver := if current &&& ~~~desired ≠ 0 then PwmDriver.flush off else off
          applied, output := recordedOff, result := .ok () } := by
      split
      · exact sound.of_same (laws.flush_same off) (laws.len_flush off) (.ok ())
      · exact sound
    obtain ⟨final, switchedOn⟩ := switchChannels_sound laws.enables fits
      (desired &&& ~~~current) (List.range count) flushed
    generalize switchChannels PwmDriver.enable (fun mask bit => mask ||| bit)
      (desired &&& ~~~current) (List.range count)
      { driver := if current &&& ~~~desired ≠ 0 then PwmDriver.flush off else off
        applied, output := recordedOff, result := .ok () } = enabled at final switchedOn
    obtain ⟨on, appliedOn, recordedOn, finished⟩ := enabled
    cases finished with
    | error reason =>
      refine ⟨final.len, final.output, ?_⟩
      intro changed failed
      cases failed
    | ok _ =>
      refine ⟨final.len, final.output, ?_⟩
      -- Each channel was switched off, switched on or already as wanted.
      intro changed _ channel inside
      have small : channel < 32 := by omega
      rw [← final.applied channel inside, switchedOn rfl rfl channel inside,
        switchedOff rfl rfl channel inside]
      simp only [BitVec.getLsbD_and, BitVec.getLsbD_not, small, decide_true, List.mem_range,
        inside, and_true, Bool.true_and]
      cases current.getLsbD channel <;> cases desired.getLsbD channel <;> rfl

/-- Switching channels on in order leaves on what was on. -/
theorem SwitchLaws.enableInOrder_keeps (channels : List Nat) {driver : D} {channel : Nat}
    (lit : physical driver channel = true) :
    physical (enableInOrder PwmDriver.enable driver channels).1 channel = true := by
  -- A channel switched on lights one more, a refused one none.
  induction channels generalizing driver with
  | nil => exact lit
  | cons first rest ih =>
    rw [enableInOrder]
    cases accepted : (PwmDriver.enable driver first).2 with
    | error reason =>
      dsimp only
      rw [laws.enable_error _ _ _ accepted]
      exact lit
    | ok _ =>
      dsimp only
      apply ih
      rw [laws.enable_ok _ _ accepted, Function.update_apply]
      split
      · rfl
      · exact lit

/-- Channels switched on in order without a refusal are all on. -/
theorem SwitchLaws.enableInOrder_all (channels : List Nat) {driver : D}
    (accepted : (enableInOrder PwmDriver.enable driver channels).2 = .ok ()) {channel : Nat}
    (listed : channel ∈ channels) :
    physical (enableInOrder PwmDriver.enable driver channels).1 channel = true := by
  -- The induction follows the order; a channel that is on stays on.
  induction channels generalizing driver with
  | nil => exact absurd listed List.not_mem_nil
  | cons first rest ih =>
    rw [enableInOrder] at accepted ⊢
    cases taken : (PwmDriver.enable driver first).2 with
    | error reason =>
      rw [taken] at accepted
      cases accepted
    | ok _ =>
      rw [taken] at accepted
      dsimp only at accepted ⊢
      rcases List.mem_cons.mp listed with rfl | later
      · apply laws.enableInOrder_keeps
        rw [laws.enable_ok _ _ taken, Function.update_self]
      · exact ih accepted later

/-- Switching channels on in order leaves the driver as long as it was. -/
theorem SwitchLaws.len_enableInOrder (channels : List Nat) (driver : D) :
    PwmDriver.len (enableInOrder PwmDriver.enable driver channels).1 = PwmDriver.len driver := by
  -- Neither an accepted nor a refused switch changes how many channels there are.
  induction channels generalizing driver with
  | nil => rfl
  | cons first rest ih =>
    rw [enableInOrder]
    cases accepted : (PwmDriver.enable driver first).2 with
    | error reason => exact laws.len_enable driver first
    | ok _ => exact (ih _).trans (laws.len_enable driver first)

end Laws

namespace DrivenOutputs

/-- A mask has room for the channels that are switched one by one. -/
theorem channelCount_le (driven : DrivenOutputs D) : driven.channelCount ≤ 32 :=
  Nat.min_le_right _ _

/-- The channels that are switched one by one are available. -/
theorem available_getLsbD {driven : DrivenOutputs D} {channel : Nat}
    (inside : channel < driven.channelCount) :
    (availableMask driven.channelCount).getLsbD channel = true := by
  rw [availableMask_getLsbD driven.channelCount_le, decide_eq_true inside]

/-- The recorded channels among the available ones are those that are on. -/
theorem Tracks.current {driven : DrivenOutputs D} (tracks : Tracks physical driven) :
    ∀ channel < driven.channelCount,
      (driven.output.enabledMask &&& availableMask driven.channelCount).getLsbD channel =
        physical driven.driver channel := by
  intro channel inside
  rw [BitVec.getLsbD_and, available_getLsbD inside, Bool.and_true]
  exact tracks channel inside

/-- The channels a call should leave on, one bit each. -/
def desired (driven : DrivenOutputs D) (call : SyncCall) : BitVec 32 :=
  desiredMask call.outputKillActive call.channelOutputMask (availableMask driven.channelCount)

/-- A call that changes some channels but does not switch all on switches them all off or one by
one. -/
theorem sync_stepwise {driven : DrivenOutputs D} {call : SyncCall}
    (unchanged : ¬driven.desired call =
      driven.output.enabledMask &&& availableMask driven.channelCount)
    (notAll : ¬(driven.desired call = availableMask driven.channelCount ∧
      driven.output.enabledMask &&& availableMask driven.channelCount = 0)) :
    driven.sync call =
      if driven.desired call = 0 then
        ⟨PwmDriver.flush (PwmDriver.disableAll driven.driver), { enabledMask := 0 }, .ok true⟩
      else switchToMask driven.driver driven.output driven.channelCount
        (driven.output.enabledMask &&& availableMask driven.channelCount)
        (driven.desired call) := by
  exact (if_neg unchanged).trans (if_neg notAll)

/-- A call whose record is sound, and whose success leaves the desired channels on, switches as
recorded. -/
theorem switchesAsRecorded_of {driven : DrivenOutputs D} {call : SyncCall} {done : PwmSync D}
    (synced : driven.sync call = done)
    (len : PwmDriver.len done.driver = PwmDriver.len driven.driver)
    (recorded : ∀ channel < driven.channelCount,
      done.output.enabledMask.getLsbD channel = physical done.driver channel)
    (switched : ∀ changed, done.result = .ok changed → ∀ channel < driven.channelCount,
      physical done.driver channel = (driven.desired call).getLsbD channel) :
    SwitchesAsRecorded physical driven call := by
  subst synced
  constructor
  · -- The driver has as many channels as before the call.
    intro channel inside
    apply recorded
    rw [channelCount, step, len] at inside
    exact inside
  · intro changed accepted channel inside
    rw [← desiredMask_getLsbD driven.channelCount_le _ _ inside]
    exact switched changed accepted channel inside

section StartsAll

variable {driven : DrivenOutputs D} {call : SyncCall}

/-- Where all channels are to be switched on there is a first one, and it is not recorded. -/
theorem StartsAll.first (starts : driven.StartsAll call) :
    0 < driven.channelCount ∧ driven.output.enabledMask.getLsbD 0 = false := by
  obtain ⟨-, idle, present⟩ := starts
  have first : 0 < driven.channelCount := by
    refine Nat.pos_of_ne_zero fun empty => present ?_
    rw [empty]
    rfl
  refine ⟨first, ?_⟩
  -- A mask without an available channel has its first bit clear.
  have bit := congrArg (fun mask => mask.getLsbD 0) idle
  rw [BitVec.getLsbD_and, available_getLsbD first, Bool.and_true] at bit
  exact bit.trans BitVec.getLsbD_zero

/-- Switching all channels on at once is recorded exactly when the driver reports no failure. -/
theorem StartsAll.sync_eq (starts : driven.StartsAll call) :
    driven.sync call =
      match (PwmDriver.enableAll driven.driver).2 with
      | .error reason => ⟨(PwmDriver.enableAll driven.driver).1, driven.output, .error reason⟩
      | .ok () =>
        ⟨(PwmDriver.enableAll driven.driver).1, { enabledMask := driven.desired call },
          .ok true⟩ := by
  obtain ⟨whole, idle, present⟩ := starts
  -- Something is to be switched on and nothing is yet, so the call has work to do.
  have unchanged : ¬driven.desired call =
      driven.output.enabledMask &&& availableMask driven.channelCount := by
    rw [idle]
    intro off
    exact present (whole.symm.trans off)
  exact (if_neg unchanged).trans (if_pos ⟨whole, idle⟩)

/-- The first channel is the first one to be switched on. -/
theorem StartsAll.enableAll_eq (laws : SwitchLaws physical) (starts : driven.StartsAll call) :
    ∃ rest, PwmDriver.enableAll driven.driver =
      enableInOrder PwmDriver.enable driven.driver (0 :: rest) := by
  -- A driver with a channel has a first one in its range.
  refine ⟨(List.range (PwmDriver.len driven.driver - 1)).map Nat.succ, ?_⟩
  rw [laws.enableAll_eq, ← List.range_succ_eq_map]
  congr 2
  have first := starts.first.1
  have fewer := Nat.min_le_left (PwmDriver.len driven.driver) 32
  unfold channelCount at first
  omega

/-- Switching all channels on leaves the driver as long as it was. -/
theorem len_enableAll (laws : SwitchLaws physical) (driver : D) :
    PwmDriver.len (PwmDriver.enableAll driver).1 = PwmDriver.len driver := by
  rw [laws.enableAll_eq driver]
  exact laws.len_enableInOrder _ _

/-- Once all channels have been switched on they are all recorded. -/
theorem switchesAsRecorded_of_enabledAll (laws : SwitchLaws physical)
    (starts : driven.StartsAll call) (accepted : (PwmDriver.enableAll driven.driver).2 = .ok ()) :
    SwitchesAsRecorded physical driven call := by
  have synced := starts.sync_eq
  rw [accepted] at synced
  have order := laws.enableAll_eq driven.driver
  -- The driver has switched on every channel it has, and all of them are asked for.
  have lit (channel : Nat) (inside : channel < driven.channelCount) :
      physical (PwmDriver.enableAll driven.driver).1 channel = true := by
    rw [order]
    apply laws.enableInOrder_all
    · rw [← order, accepted]
    · exact List.mem_range.mpr (Nat.lt_of_lt_of_le inside (Nat.min_le_left _ _))
  have all (channel : Nat) (inside : channel < driven.channelCount) :
      (driven.desired call).getLsbD channel = true := by
    rw [show driven.desired call = availableMask driven.channelCount from starts.1]
    exact available_getLsbD inside
  refine switchesAsRecorded_of synced (len_enableAll laws driven.driver) ?_ ?_
  · intro channel inside
    exact (all channel inside).trans (lit channel inside).symm
  · intro _ _ channel inside
    exact (lit channel inside).trans (all channel inside).symm

/-- A refusal of the first channel leaves everything off, as it is recorded. -/
theorem switchesAsRecorded_of_refusedFirst (laws : SwitchLaws physical)
    (tracks : Tracks physical driven) (starts : driven.StartsAll call) {early reason : PwmError}
    (begun : (PwmDriver.enable driven.driver 0).2 = .error early)
    (stopped : (PwmDriver.enableAll driven.driver).2 = .error reason) :
    SwitchesAsRecorded physical driven call := by
  have synced := starts.sync_eq
  rw [stopped] at synced
  obtain ⟨rest, order⟩ := starts.enableAll_eq laws
  rw [enableInOrder, begun] at order
  -- The first refusal ends the loop before any channel was switched.
  have same : physical (PwmDriver.enableAll driven.driver).1 = physical driven.driver := by
    rw [order]
    exact laws.enable_error _ _ _ begun
  refine switchesAsRecorded_of synced (len_enableAll laws driven.driver) ?_ ?_
  · intro channel inside
    rw [same]
    exact tracks channel inside
  · intro changed failed
    cases failed

/-- A later refusal leaves the first channel on, while the record says that it is off. -/
theorem not_switchesAsRecorded_of_begun (laws : SwitchLaws physical)
    (starts : driven.StartsAll call) {reason : PwmError}
    (begun : (PwmDriver.enable driven.driver 0).2 = .ok ())
    (stopped : (PwmDriver.enableAll driven.driver).2 = .error reason) :
    ¬SwitchesAsRecorded physical driven call := by
  have synced := starts.sync_eq
  rw [stopped] at synced
  obtain ⟨rest, order⟩ := starts.enableAll_eq laws
  obtain ⟨first, unrecorded⟩ := starts.first
  rw [enableInOrder, begun] at order
  -- No later step of the loop switches the first channel off again.
  have lit : physical (PwmDriver.enableAll driven.driver).1 0 = true := by
    rw [order]
    apply laws.enableInOrder_keeps
    rw [laws.enable_ok _ _ begun, Function.update_self]
  -- The record was only written at the end, which the loop never reached.
  rintro ⟨tracked, _⟩
  have counted : 0 < (driven.step call).channelCount := by
    rw [channelCount, step, synced, len_enableAll laws driven.driver]
    exact first
  have recorded := tracked 0 counted
  rw [step, synced] at recorded
  rw [unrecorded, lit] at recorded
  cases recorded

/-- Switching all channels on at once goes through, fails at the first channel or leaves that one
on unrecorded. -/
theorem switchesAsRecorded_startsAll (laws : SwitchLaws physical)
    (tracks : Tracks physical driven) (starts : driven.StartsAll call) :
    SwitchesAsRecorded physical driven call ↔ driven.StartsWhole call := by
  -- The loop goes through, is refused at once, or is refused after the first channel.
  cases accepted : (PwmDriver.enableAll driven.driver).2 with
  | ok _ =>
    exact iff_of_true (switchesAsRecorded_of_enabledAll laws starts accepted) fun _ _ => accepted
  | error reason =>
    cases begun : (PwmDriver.enable driven.driver 0).2 with
    | error early =>
      refine iff_of_true (switchesAsRecorded_of_refusedFirst laws tracks starts begun accepted) ?_
      intro _ started
      rw [begun] at started
      cases started
    | ok _ =>
      refine iff_of_false (not_switchesAsRecorded_of_begun laws starts begun accepted) ?_
      intro whole
      have went := whole starts begun
      rw [accepted] at went
      cases went

end StartsAll

/-- A call keeps a tracked record and switches as told exactly when switching all channels on at
once does not stop half-way. -/
theorem switchesAsRecorded_iff (laws : SwitchLaws physical) {driven : DrivenOutputs D}
    (tracks : Tracks physical driven) (call : SyncCall) :
    SwitchesAsRecorded physical driven call ↔ driven.StartsWhole call := by
  -- Only switching all channels on at once leaves its progress unrecorded.
  by_cases starts : driven.StartsAll call
  · exact switchesAsRecorded_startsAll laws tracks starts
  refine iff_of_true ?_ fun begun => absurd begun starts
  have current := tracks.current
  by_cases unchanged : driven.desired call =
      driven.output.enabledMask &&& availableMask driven.channelCount
  · -- Nothing is switched, and the record is cut to the available channels.
    refine switchesAsRecorded_of (if_pos unchanged) rfl current ?_
    intro _ _ channel inside
    rw [unchanged]
    exact (current channel inside).symm
  have notAll : ¬(driven.desired call = availableMask driven.channelCount ∧
      driven.output.enabledMask &&& availableMask driven.channelCount = 0) := by
    rintro ⟨whole, idle⟩
    refine starts ⟨whole, idle, fun absent => unchanged ?_⟩
    rw [whole, idle, absent]
  by_cases off : driven.desired call = 0
  · -- Every channel is switched off, which no driver refuses.
    have dark (channel : Nat) :
        physical (PwmDriver.flush (PwmDriver.disableAll driven.driver)) channel = false := by
      rw [laws.flush_same, laws.disableAll_off]
    refine switchesAsRecorded_of ((sync_stepwise unchanged notAll).trans (if_pos off)) ?_ ?_ ?_
    · exact (laws.len_flush _).trans (laws.len_disableAll _)
    · intro channel _
      exact BitVec.getLsbD_zero.trans (dark channel).symm
    · intro _ _ channel _
      rw [off]
      exact (dark channel).trans BitVec.getLsbD_zero.symm
  · obtain ⟨len, recorded, switched⟩ := laws.switchToMask_sound (driven.desired call)
      driven.channelCount_le current tracks
    exact switchesAsRecorded_of ((sync_stepwise unchanged notAll).trans (if_neg off)) len recorded
      switched

/-- Along every run of calls on a driver whose channels are recorded as they are, the record stays
so and each call without an error switches as told, if and only if no call that switches all
channels on stops after the first one. -/
theorem switchesAsRecorded_along_iff (laws : SwitchLaws physical) {start : DrivenOutputs D}
    (tracks : Tracks physical start) (calls : List SyncCall) :
    Along (SwitchesAsRecorded physical) step start calls ↔ Along StartsWhole step start calls := by
  -- A call that switches as recorded leaves a tracked record for the next one.
  apply along_congr_while (Tracks physical) ?_ ?_ tracks
  · intro driven call _ switches
    exact switches.1
  · intro driven call tracks
    exact switchesAsRecorded_iff laws tracks call

end DrivenOutputs

end Switching

/-- Channels that refuse the calls of a script. -/
structure FaultyDriver (R : Type) extends AcceptingDriver R where
  faults : List Bool

namespace FaultyDriver

variable {R : Type}

/-- A driver whose channels are all off. -/
def new (channels : Nat) (faults : List Bool) : FaultyDriver R :=
  { AcceptingDriver.new channels fun _ => false with faults }

/-- Turn one channel's switch, unless the script says to refuse. -/
def turn (on : Bool) (driver : FaultyDriver R) (channel : Nat) :
    FaultyDriver R × Except PwmError Unit :=
  match driver.faults with
  | true :: rest => ({ driver with faults := rest }, .error .genericError)
  | false :: rest => ({ driver.switch channel on with faults := rest }, .ok ())
  | [] => ({ driver.switch channel on with faults := [] }, .ok ())

end FaultyDriver

instance {R : Type} [FlightFloat R] : PwmDriver R (FaultyDriver R) where
  len driver := driver.channels
  isEnabled driver := (List.range driver.channels).all driver.enabled
  enable := FaultyDriver.turn true
  disable := FaultyDriver.turn false
  enableAll driver := enableInOrder (FaultyDriver.turn true) driver (List.range driver.channels)
  disableAll driver := { driver with enabled := fun _ => false }
  flush driver := driver
  sendCommands driver commands := ({ driver.take commands with faults := driver.faults }, .ok ())

namespace FaultyDriver

variable {R : Type}

/-- The channels that are on. -/
def physical (driver : FaultyDriver R) : Nat → Bool := driver.enabled

/-- A switch that is turned changes one channel. -/
theorem turn_ok {on : Bool} {driver : FaultyDriver R} {channel : Nat}
    (accepted : (driver.turn on channel).2 = .ok ()) :
    (driver.turn on channel).1.physical = Function.update driver.physical channel on := by
  -- Only a refusal reports an error, and it is not this case.
  unfold turn at accepted ⊢
  split at accepted
  · cases accepted
  · rfl
  · rfl

/-- A switch that is not turned changes no channel. -/
theorem turn_error {on : Bool} {driver : FaultyDriver R} {channel : Nat} {reason : PwmError}
    (refused : (driver.turn on channel).2 = .error reason) :
    (driver.turn on channel).1.physical = driver.physical := by
  -- A refusal comes before the channel is touched.
  unfold turn at refused ⊢
  split at refused
  · rfl
  · cases refused
  · cases refused

/-- Turning a switch adds no channel. -/
theorem turn_channels (on : Bool) (driver : FaultyDriver R) (channel : Nat) :
    (driver.turn on channel).1.channels = driver.channels := by
  unfold turn
  split <;> rfl

/-- The scripted refusals have no effect, and the other calls take effect. -/
theorem switchLaws [FlightFloat R] : SwitchLaws (physical (R := R)) where
  -- Each call of the scripted driver takes its next answer and does what that says.
  enable_ok _ _ accepted := turn_ok accepted
  enable_error _ _ _ refused := turn_error refused
  disable_ok _ _ accepted := turn_ok accepted
  disable_error _ _ _ refused := turn_error refused
  enableAll_eq _ := rfl
  disableAll_off _ _ := rfl
  flush_same _ := rfl
  len_enable driver channel := turn_channels true driver channel
  len_disable driver channel := turn_channels false driver channel
  len_disableAll _ := rfl
  len_flush _ := rfl

end FaultyDriver

namespace DrivenOutputs

/-- Two channels that are off and recorded so. -/
def twoChannels (faults : List Bool) : DrivenOutputs (FaultyDriver ℚ) :=
  { driver := .new 2 faults, output := .new false }

/-- Nothing is on, and nothing is recorded. -/
theorem twoChannels_tracks (faults : List Bool) :
    Tracks FaultyDriver.physical (twoChannels faults) := by
  intro channel _
  exact BitVec.getLsbD_zero

/-- Start all channels, then the second one, the first one and both, and end all outputs. -/
def fiveCalls : List SyncCall :=
  [⟨false, -1⟩, ⟨false, 2⟩, ⟨false, 1⟩, ⟨false, -1⟩, ⟨true, -1⟩]

/-- Refusals that do not stop a start half-way leave the record as the channels are. -/
theorem fiveCalls_recorded :
    Along (SwitchesAsRecorded FaultyDriver.physical) step (twoChannels [true, true]) fiveCalls := by
  have whole : Along StartsWhole step (twoChannels [true, true]) fiveCalls := by decide +kernel
  exact (switchesAsRecorded_along_iff FaultyDriver.switchLaws (twoChannels_tracks _) _).mpr whole

/-- A start of all channels that stops at the second one leaves the first one on unrecorded. -/
theorem halfStart_unrecorded :
    Tracks FaultyDriver.physical (twoChannels [false, true]) ∧
      ¬Along (SwitchesAsRecorded FaultyDriver.physical) step (twoChannels [false, true])
        [⟨false, -1⟩] := by
  refine ⟨twoChannels_tracks _, ?_⟩
  -- The first channel is on, while the record is still empty.
  rintro ⟨⟨tracked, _⟩, _⟩
  have recorded := tracked 0 (by decide)
  exact absurd recorded (by decide)

end DrivenOutputs

end Veloxity
