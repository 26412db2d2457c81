import Veloxity.Command.LockoutLaws
import Veloxity.Command.OverrideReports

/-! Timeouts judged by a clock that is rebuilt from 32 bits of milliseconds. -/

namespace Veloxity

/-- Milliseconds since start-up as the 32-bit clock counts them. -/
def clockMillis (uptimeUs : Nat) : Nat := truncU32 (uptimeUs / 1000)

/-- Microseconds that a pass rebuilds from the millisecond clock. -/
def rebuiltUs (uptimeUs : Nat) : Nat := clockMillis uptimeUs * 1000

/-- The rebuilt clock is never ahead of the uptime. -/
theorem rebuiltUs_le (uptimeUs : Nat) : rebuiltUs uptimeUs ≤ uptimeUs := by
  -- Both the truncation and the division by a thousand only lose time.
  have truncated : truncU32 (uptimeUs / 1000) ≤ uptimeUs / 1000 := Nat.mod_le _ _
  unfold rebuiltUs clockMillis
  omega

/-- The rebuilt clock tells whether a timeout has passed since a stamp: it has not, or it had
passed before the rebuilt clock; a deadline beyond 64 bits wraps as the clock does not. -/
def ClockTells (uptimeUs stampUs timeoutUs : Nat) : Prop :=
  if stampUs + timeoutUs < longWordSize then
    uptimeUs ≤ stampUs + timeoutUs ∨ stampUs + timeoutUs < rebuiltUs uptimeUs
  else rebuiltUs uptimeUs ≤ stampUs + timeoutUs - longWordSize

instance (uptimeUs stampUs timeoutUs : Nat) :
    Decidable (ClockTells uptimeUs stampUs timeoutUs) :=
  inferInstanceAs (Decidable (if stampUs + timeoutUs < longWordSize then
    uptimeUs ≤ stampUs + timeoutUs ∨ stampUs + timeoutUs < rebuiltUs uptimeUs
  else rebuiltUs uptimeUs ≤ stampUs + timeoutUs - longWordSize))

/-- A comparison with the rebuilt clock is right exactly when the clock tells. -/
theorem clockTells_iff {uptimeUs stampUs timeoutUs : Nat} (uptime : uptimeUs < longWordSize)
    (stamp : stampUs < longWordSize) (timeout : timeoutUs < longWordSize) :
    (wrappingAddU64 stampUs timeoutUs < rebuiltUs uptimeUs ↔ timeoutUs < uptimeUs - stampUs) ↔
      ClockTells uptimeUs stampUs timeoutUs := by
  have behind := rebuiltUs_le uptimeUs
  unfold ClockTells wrappingAddU64
  by_cases fits : stampUs + timeoutUs < longWordSize
  · -- A deadline within 64 bits is compared as it is.
    rw [if_pos fits, Nat.mod_eq_of_lt fits]
    omega
  · -- A deadline beyond 64 bits has never passed, and wraps once.
    have wrapped : (stampUs + timeoutUs) % longWordSize = stampUs + timeoutUs - longWordSize := by
      rw [Nat.mod_eq_sub_mod (Nat.le_of_not_lt fits), Nat.mod_eq_of_lt (by omega)]
    rw [if_neg fits, wrapped]
    omega

section Link

variable {F : Type} [FlightFloat F]

/-- Everything the link check asks of a sample but its age. -/
def Rc.sampleIntact (rc : Rc F) (params : Params F) : Bool :=
  let numChannels := asU32 (params.intOr .PARAM_RC_NUM_CHANNELS 6)
  if rc.rc.frameLost || rc.rc.failsafeActivated then false
  else if rc.rc.numChannels < numChannels then false
  else (List.range numChannels).all fun index =>
    !(FlightFloat.lt (rc.rc.chanAt index) (FlightFloat.lit (-0.25)) ||
      FlightFloat.lt (FlightFloat.lit 1.25) (rc.rc.chanAt index))

/-- The link check in 64-bit arithmetic, whose deadline wraps. -/
def Rc.checkRcHealthU64 (rc : Rc F) (nowUs : Nat) (params : Params F) : Bool :=
  if wrappingAddU64 rc.rc.header.timestamp rcTimeoutUs < nowUs then false
  else rc.sampleIntact params

/-- Away from the end of the 64-bit range, the deadline of the link check does not wrap. -/
theorem Rc.checkRcHealthU64_eq {rc : Rc F} (nowUs : Nat) (params : Params F)
    (fits : rc.rc.header.timestamp + rcTimeoutUs < longWordSize) :
    rc.checkRcHealthU64 nowUs params = rc.checkRcHealth nowUs params := by
  unfold checkRcHealthU64 checkRcHealth wrappingAddU64
  rw [Nat.mod_eq_of_lt fits]
  rfl

/-- The link check in a pass finds fault exactly with a sample that is too old or not intact. -/
def Rc.AgesTruly (rc : Rc F) (params : Params F) (uptimeUs : Nat) : Prop :=
  rc.checkRcHealthU64 (rebuiltUs uptimeUs) params = false ↔
    rcTimeoutUs < uptimeUs - rc.rc.header.timestamp ∨ rc.sampleIntact params = false

/-- The link check is right about a sample exactly when the sample is not intact anyway or the
rebuilt clock tells its age. -/
theorem Rc.agesTruly_iff {rc : Rc F} {params : Params F} {uptimeUs : Nat}
    (uptime : uptimeUs < longWordSize) (stamp : rc.rc.header.timestamp < longWordSize) :
    rc.AgesTruly params uptimeUs ↔
      (rc.sampleIntact params = true →
        ClockTells uptimeUs rc.rc.header.timestamp rcTimeoutUs) := by
  rw [← clockTells_iff uptime stamp (by decide), AgesTruly, checkRcHealthU64]
  -- A sample that is not intact is faulty at any age.
  cases rc.sampleIntact params with
  | false => simp
  | true => simp

end Link

namespace CommandManager

variable {F : Type} [FlightFloat F]

/-- The offboard timeout in 64-bit arithmetic, whose deadline wraps. -/
def updateOffboardTimeoutU64 (manager : CommandManager F) (nowUs : Nat) (params : Params F) :
    CommandManager F :=
  let timeoutMs := asU32 (params.intOr .PARAM_OFFBOARD_TIMEOUT 100)
  if nowUs ≤ wrappingAddU64 manager.lastOffboardCommandUs (timeoutMs * 1000) then manager
  else { manager with offboardCommand := deactivate manager.offboardCommand }

omit [FlightFloat F] in
/-- Away from the end of the 64-bit range, the deadline of the offboard command does not wrap. -/
theorem updateOffboardTimeoutU64_eq {manager : CommandManager F} (nowUs : Nat) {params : Params F}
    (fits : manager.lastOffboardCommandUs + offboardTimeoutMs params * 1000 < longWordSize) :
    manager.updateOffboardTimeoutU64 nowUs params = manager.updateOffboardTimeout nowUs params := by
  -- The sum is below the word size, so the remainder is the sum itself.
  have wrapped := Nat.mod_eq_of_lt fits
  unfold offboardTimeoutMs at wrapped
  unfold updateOffboardTimeoutU64 updateOffboardTimeout wrappingAddU64
  dsimp only
  rw [wrapped]

/-- A pass deactivates the offboard command exactly when it is too old. -/
def AgesTruly (manager : CommandManager F) (params : Params F) (uptimeUs : Nat) : Prop :=
  (manager.updateOffboardTimeoutU64 (rebuiltUs uptimeUs) params).offboardCommand =
    if offboardTimeoutMs params * 1000 < uptimeUs - manager.lastOffboardCommandUs then
      deactivate manager.offboardCommand
    else manager.offboardCommand

omit [FlightFloat F] in
/-- The offboard command is aged rightly exactly when it has no active channel anyway or the
rebuilt clock tells its age. -/
theorem agesTruly_iff {manager : CommandManager F} {params : Params F} {uptimeUs : Nat}
    (uptime : uptimeUs < longWordSize) (stamp : manager.lastOffboardCommandUs < longWordSize) :
    manager.AgesTruly params uptimeUs ↔
      (deactivate manager.offboardCommand ≠ manager.offboardCommand →
        ClockTells uptimeUs manager.lastOffboardCommandUs (offboardTimeoutMs params * 1000)) := by
  have small : offboardTimeoutMs params * 1000 < longWordSize := by
    unfold offboardTimeoutMs asU32
    simp only [wordSize, longWordSize]
    omega
  -- The source asks whether the command is current, which is the same question.
  have taken : (manager.updateOffboardTimeoutU64 (rebuiltUs uptimeUs) params).offboardCommand =
      if wrappingAddU64 manager.lastOffboardCommandUs (offboardTimeoutMs params * 1000) <
        rebuiltUs uptimeUs then deactivate manager.offboardCommand
      else manager.offboardCommand := by
    unfold updateOffboardTimeoutU64
    change (if rebuiltUs uptimeUs ≤ wrappingAddU64 manager.lastOffboardCommandUs
      (offboardTimeoutMs params * 1000) then manager else _).offboardCommand = _
    by_cases current : rebuiltUs uptimeUs ≤ wrappingAddU64 manager.lastOffboardCommandUs
      (offboardTimeoutMs params * 1000)
    · rw [if_pos current, if_neg (Nat.not_lt.mpr current)]
    · rw [if_neg current, if_pos (Nat.lt_of_not_le current)]
  rw [← clockTells_iff uptime stamp small, AgesTruly, taken]
  by_cases late : wrappingAddU64 manager.lastOffboardCommandUs (offboardTimeoutMs params * 1000) <
      rebuiltUs uptimeUs
  · by_cases old : offboardTimeoutMs params * 1000 < uptimeUs - manager.lastOffboardCommandUs
    · simp [late, old]
    · -- A command deactivated too early is right only if nothing was active.
      simp [late, old]
  · by_cases old : offboardTimeoutMs params * 1000 < uptimeUs - manager.lastOffboardCommandUs
    · simp [late, old, eq_comm]
    · simp [late, old]

/-- A pass is right about the age of the sample and of the offboard command if and only if the
rebuilt clock tells both, or what it cannot tell makes no difference. -/
theorem timeouts_iff {rc : Rc F} {manager : CommandManager F} (params : Params F) {uptimeUs : Nat}
    (uptime : uptimeUs < longWordSize) (sample : rc.rc.header.timestamp < longWordSize)
    (command : manager.lastOffboardCommandUs < longWordSize) :
    (rc.AgesTruly params uptimeUs ∧ manager.AgesTruly params uptimeUs) ↔
      (rc.sampleIntact params = true →
        ClockTells uptimeUs rc.rc.header.timestamp rcTimeoutUs) ∧
        (deactivate manager.offboardCommand ≠ manager.offboardCommand →
          ClockTells uptimeUs manager.lastOffboardCommandUs
            (offboardTimeoutMs params * 1000)) := by
  rw [Rc.agesTruly_iff uptime sample, agesTruly_iff uptime command]

section Passes

variable (manager : CommandManager F) (params : Params F) (rc : Rc F) (state : StateManager)

/-- A pass outside failsafe leaves the offboard command as its timeout does. -/
theorem run_offboardCommand {nowMs : Nat}
    (flying : (noteRcLoss nowMs params rc state).isInFailsafe = false) :
    (manager.run nowMs params rc state).manager.offboardCommand =
      (manager.updateOffboardTimeout (nowMs * 1000) params).offboardCommand := by
  let linked := noteRcLoss nowMs params rc state
  let timed := manager.updateOffboardTimeout (nowMs * 1000) params
  let guarded := timed.estimatorModeSafety params rc linked
  let interpreted := guarded.1.interpretWhen rc.newCommand guarded.2.forceRcRate
    rc.takeNewCommand.2 params
  have resolved : manager.run nowMs params rc state = manager.resolve nowMs params rc linked := by
    simp only [run, flying, Bool.false_eq_true, ↓reduceIte, linked]
  -- The lockout, the interpretation and the muxing leave the command alone.
  have lockout := (estimatorModeSafety_keeps timed params rc linked).2.1
  have interpretation := (interpretWhen_keeps guarded.1 rc.newCommand guarded.2.forceRcRate
    rc.takeNewCommand.2 params).1
  obtain ⟨_, _, _, muxed⟩ := doMuxing_muxedBy interpreted params rc.takeNewCommand.2 nowMs
    guarded.2.forceRcAttitude
  rw [resolved]
  exact muxed.offboard.trans (interpretation.trans lockout)

/-- Away from the end of the 64-bit range, a pass at some uptime checks the link by the rebuilt
clock, and outside failsafe ages the offboard command by it. -/
theorem run_ages {uptimeUs : Nat}
    (sampleFits : rc.rc.header.timestamp + rcTimeoutUs < longWordSize)
    (commandFits : manager.lastOffboardCommandUs + offboardTimeoutMs params * 1000 <
      longWordSize) :
    noteRcLoss (clockMillis uptimeUs) params rc state =
        (if rc.checkRcHealthU64 (rebuiltUs uptimeUs) params then state
        else state.update (.ERROR_OCCURRED ErrorFlag.RC_LOST) params) ∧
      ((noteRcLoss (clockMillis uptimeUs) params rc state).isInFailsafe = false →
        (manager.run (clockMillis uptimeUs) params rc state).manager.offboardCommand =
          (manager.updateOffboardTimeoutU64 (rebuiltUs uptimeUs) params).offboardCommand) := by
  constructor
  · rw [Rc.checkRcHealthU64_eq (rebuiltUs uptimeUs) params sampleFits, noteRcLoss, rebuiltUs]
    cases rc.checkRcHealth (clockMillis uptimeUs * 1000) params with
    | true => rfl
    | false => rfl
  · -- Outside failsafe the pass ages the command by the same clock.
    intro flying
    rw [run_offboardCommand manager params rc state flying,
      updateOffboardTimeoutU64_eq (rebuiltUs uptimeUs) commandFits]
    rfl

end Passes

section Wrap

/-- A receiver with a centred sample of ten seconds before the millisecond clock wraps. -/
def lateRc : Rc ℚ :=
  (Rc.new.init Params.new).receive { sticksAtRest with header := { timestamp := 4294957296000 } }

/-- A manager with an offboard command of the same time. -/
def lateManager : CommandManager ℚ := new.setNewOffboardCommand 4294957296000 holdRates

/-- Fifty milliseconds later the clock tells that sample and command are recent. -/
theorem timeouts_before_wrap :
    lateRc.AgesTruly Params.new 4294957346000 ∧ lateManager.AgesTruly Params.new 4294957346000 :=
  (timeouts_iff Params.new (by decide) (by decide) (by decide)).mpr
    ⟨fun _ => by decide, fun _ => by decide⟩

/-- One second after the wrap a sample and a command of eleven seconds ago still pass. -/
theorem not_agesTruly_after_wrap :
    ¬ (lateRc.AgesTruly Params.new 4294968296000 ∧
      lateManager.AgesTruly Params.new 4294968296000) ∧
      lateRc.checkRcHealthU64 (rebuiltUs 4294968296000) Params.new = true ∧
      (lateManager.updateOffboardTimeoutU64 (rebuiltUs 4294968296000)
        Params.new).offboardCommand.qx.active = true := by
  have healthy : lateRc.checkRcHealthU64 (rebuiltUs 4294968296000) Params.new = true := by
    decide +kernel
  refine ⟨?_, healthy, by decide +kernel⟩
  intro ⟨truly, _⟩
  -- The sample is eleven seconds old.
  have faulty := truly.mpr (Or.inl (by decide))
  rw [healthy] at faulty
  cases faulty

end Wrap

end CommandManager

end Veloxity
