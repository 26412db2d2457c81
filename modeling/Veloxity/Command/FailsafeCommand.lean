import Veloxity.Command.LockoutLaws
import Veloxity.State.MachineLaws

/-! What the vehicle does when the link is lost, and where that command is configured. -/

namespace Veloxity

variable {F : Type}

namespace StateManager

/-- The vehicle is armed in failsafe, and holds the loss of the link. -/
def LinkFailsafe (manager : StateManager) : Prop :=
  ∃ errors, manager.machine = .failsafe errors ∧ .rcLost ∈ errors

/-- Raising the loss of the link takes an armed vehicle to failsafe, and keeps it there. -/
theorem linkFailsafe_of_lost {manager : StateManager} (armed : manager.isArmed = true)
    (params : Params F) :
    (manager.update (.ERROR_OCCURRED ErrorFlag.RC_LOST) params).LinkFailsafe := by
  have lost (errors : ErrorFlag) : .rcLost ∈ errors ∪ ErrorFlag.RC_LOST :=
    Finset.mem_union_right _ (by decide)
  unfold isArmed at armed
  -- Both armed states hold the flag afterwards.
  cases state : manager.machine with
  | armed errors =>
    exact ⟨_, by rw [machine_update_of_ne (by simp), state]; rfl, lost errors⟩
  | failsafe errors =>
    exact ⟨_, by rw [machine_update_of_ne (by simp), state]; rfl, lost errors⟩
  | _ =>
    rw [state] at armed
    exact nomatch armed

/-- Such a vehicle is armed. -/
theorem LinkFailsafe.isArmed {manager : StateManager} (failsafe : manager.LinkFailsafe) :
    manager.isArmed = true := by
  obtain ⟨errors, state, -⟩ := failsafe
  rw [StateManager.isArmed, state]
  rfl

/-- Such a vehicle is in failsafe. -/
theorem LinkFailsafe.isInFailsafe {manager : StateManager} (failsafe : manager.LinkFailsafe) :
    manager.isInFailsafe = true := by
  obtain ⟨errors, state, -⟩ := failsafe
  rw [StateManager.isInFailsafe, state]
  rfl

/-- Such a vehicle holds the loss of the link. -/
theorem LinkFailsafe.rcLost {manager : StateManager} (failsafe : manager.LinkFailsafe) :
    .rcLost ∈ manager.getErrors := by
  obtain ⟨errors, state, lost⟩ := failsafe
  rw [getErrors, state]
  exact lost

/-- Revisiting the errors keeps such a vehicle as it is. -/
theorem LinkFailsafe.run {manager : StateManager} (failsafe : manager.LinkFailsafe)
    (params : Params F) : (manager.run params).LinkFailsafe := by
  -- The held errors are raised again, which failsafe ignores.
  have held : manager.getErrors ≠ ∅ := Finset.ne_empty_of_mem failsafe.rcLost
  obtain ⟨errors, state, lost⟩ := failsafe
  rw [StateManager.run, if_neg held]
  exact ⟨errors ∪ manager.getErrors, by rw [machine_update_of_ne (by simp), state]; rfl,
    Finset.mem_union_left _ lost⟩

end StateManager

variable [FlightFloat F]

namespace CommandManager

/-- The commands kept for the loss of the link. -/
def failsafeCommands (manager : CommandManager F) : CombinedControl F × CombinedControl F :=
  (manager.multirotorFailsafeCommand, manager.fixedwingFailsafeCommand)

/-- The throttle the parameters configure for the loss of the link, zero where it is invalid. -/
def configuredThrottle (params : Params F) : F :=
  if failsafeThrottleInvalid params then FlightFloat.zero
  else params.floatOr .PARAM_FAILSAFE_THROTTLE FlightFloat.zero

/-- The commands the parameters configure for the loss of the link. -/
def configuredCommands (params : Params F) : CombinedControl F × CombinedControl F :=
  ( withFailsafeThrottle new.multirotorFailsafeCommand params (configuredThrottle params),
    new.fixedwingFailsafeCommand )

/-- The command the parameters configure for the loss of the link of this vehicle. -/
def configuredFailsafe (params : Params F) : CombinedControl F :=
  if params.isNonzeroInt .PARAM_FIXED_WING then (configuredCommands params).2
  else (configuredCommands params).1

/-- Commands that differ from a new manager's by no more than a throttle put on an axis. -/
structure Configurable (commands : CombinedControl F × CombinedControl F) : Prop where
  multirotor : ∀ params throttle, withFailsafeThrottle commands.1 params throttle =
    withFailsafeThrottle new.multirotorFailsafeCommand params throttle
  fixedwing : commands.2 = new.fixedwingFailsafeCommand

/-- A throttle put on one axis replaces one that was put on an axis before. -/
theorem withFailsafeThrottle_idem (command : CombinedControl F) (before params : Params F)
    (throttle later : F) :
    withFailsafeThrottle (withFailsafeThrottle command before throttle) params later =
      withFailsafeThrottle command params later := by
  -- Every axis is set to zero first, so where the throttle was does not matter.
  have forgotten (fx fy fz : F) :
      withFailsafeThrottle { command with
        fx := { command.fx with value := fx }, fy := { command.fy with value := fy }
        fz := { command.fz with value := fz } } params later =
        withFailsafeThrottle command params later := rfl
  have placed : ∃ fx fy fz, withFailsafeThrottle command before throttle = { command with
      fx := { command.fx with value := fx }, fy := { command.fy with value := fy }
      fz := { command.fz with value := fz } } := by
    unfold withFailsafeThrottle
    dsimp only
    split
    · exact ⟨_, _, _, rfl⟩
    · exact ⟨_, _, _, rfl⟩
    · exact ⟨_, _, _, rfl⟩
  obtain ⟨fx, fy, fz, same⟩ := placed
  rw [same, forgotten]

/-- A new manager's commands are configurable. -/
theorem configurable_new : Configurable (new.failsafeCommands : _ × CombinedControl F) :=
  ⟨fun _ _ => rfl, rfl⟩

/-- Configured commands can be configured again. -/
theorem configurable_configured (params : Params F) : Configurable (configuredCommands params) :=
  ⟨fun _ _ => withFailsafeThrottle_idem _ _ _ _ _, rfl⟩

/-- Configuring the failsafe leaves no trace of the parameters it had. -/
theorem updateFailsafeConfig_commands {manager : CommandManager F}
    (configurable : Configurable manager.failsafeCommands) (params : Params F)
    (state : StateManager) :
    (manager.updateFailsafeConfig params state).1.failsafeCommands = configuredCommands params := by
  have fixedwing : manager.fixedwingFailsafeCommand = new.fixedwingFailsafeCommand :=
    configurable.fixedwing
  -- The multirotor command has its throttle replaced, and the fixed-wing one never has any.
  refine Prod.ext (configurable.multirotor params _) ?_
  simp only [failsafeCommands, updateFailsafeConfig, configuredCommands, fixedwing]
  rfl

omit [FlightFloat F] in
/-- The failsafe command is chosen by the kind of vehicle alone. -/
theorem failsafeCommand_eq (manager : CommandManager F) (params : Params F) :
    manager.failsafeCommand params =
      if params.isNonzeroInt .PARAM_FIXED_WING then manager.failsafeCommands.2
      else manager.failsafeCommands.1 := rfl

/-- Noting deflected sticks keeps the commands for the loss of the link. -/
theorem noteStickOverride_failsafeCommands (manager : CommandManager F) (rc : Rc F)
    (stick : Stick) (deviationParam : F) (lagTimeMs nowMs : Nat) :
    (manager.noteStickOverride rc stick deviationParam lagTimeMs nowMs).failsafeCommands =
      manager.failsafeCommands := by
  -- Only the time of the override is noted.
  unfold noteStickOverride
  split
  · rfl
  · split
    · rfl
    · rfl

/-- Muxing keeps the commands for the loss of the link. -/
theorem doMuxing_failsafeCommands (manager : CommandManager F) (params : Params F) (rc : Rc F)
    (nowMs : Nat) (forceRcAttitude : Bool) :
    (manager.doMuxing params rc nowMs forceRcAttitude).failsafeCommands =
      manager.failsafeCommands := by
  -- The sticks are noted one after another, and the rest only touches the resolved command.
  have noted (deviationParam : F) (lagTimeMs : Nat) :
      ([Stick.X, .Y, .Z].foldl (fun manager stick => manager.noteStickOverride rc stick
        deviationParam lagTimeMs nowMs) manager).failsafeCommands = manager.failsafeCommands := by
    simp only [List.foldl_cons, List.foldl_nil, noteStickOverride_failsafeCommands]
  simp only [doMuxing, doThrottleMuxing, doAttitudeMuxing]
  exact noted _ _

/-- Resolving the commands outside failsafe keeps those for the loss of the link. -/
theorem resolve_failsafeCommands (manager : CommandManager F) (nowMs : Nat) (params : Params F)
    (rc : Rc F) (state : StateManager) :
    (manager.resolve nowMs params rc state).manager.failsafeCommands =
      manager.failsafeCommands := by
  have timed : (manager.updateOffboardTimeout (nowMs * 1000) params).failsafeCommands =
      manager.failsafeCommands := by
    unfold updateOffboardTimeout
    dsimp only
    split <;> rfl
  have guarded (manager : CommandManager F) :
      (manager.estimatorModeSafety params rc state).1.failsafeCommands =
        manager.failsafeCommands := by
    unfold estimatorModeSafety
    split <;> rfl
  have interpreted (manager : CommandManager F) (fresh force : Bool) (rc : Rc F) :
      (manager.interpretWhen fresh force rc params).failsafeCommands =
        manager.failsafeCommands := by
    unfold interpretWhen
    split <;> rfl
  -- Each part of the resolution leaves them alone.
  simp only [resolve, doMuxing_failsafeCommands, interpreted, guarded, timed]

/-- A pass in failsafe only replaces the resolved command. -/
theorem run_of_failsafe {manager : CommandManager F} {nowMs : Nat} {params : Params F} {rc : Rc F}
    {state : StateManager}
    (failsafe : (noteRcLoss nowMs params rc state).isInFailsafe = true) :
    (manager.run nowMs params rc state).manager =
      { manager with combinedCommand := manager.failsafeCommand params } := by
  -- The first branch is taken.
  simp only [run, if_pos failsafe]

/-- Resolving the commands keeps those for the loss of the link. -/
theorem run_failsafeCommands (manager : CommandManager F) (nowMs : Nat) (params : Params F)
    (rc : Rc F) (state : StateManager) :
    (manager.run nowMs params rc state).manager.failsafeCommands = manager.failsafeCommands := by
  -- Failsafe only replaces the resolved command.
  by_cases failsafe : (noteRcLoss nowMs params rc state).isInFailsafe = true
  · rw [run_of_failsafe failsafe]
    rfl
  · simp only [run, if_neg failsafe]
    exact resolve_failsafeCommands manager nowMs params rc _

/-- A pass of an armed vehicle without a healthy link takes it to failsafe on its command. -/
theorem run_of_lost {nowMs : Nat} {params : Params F} {rc : Rc F}
    {state : StateManager} (manager : CommandManager F) (armed : state.isArmed = true)
    (lost : rc.checkRcHealth (nowMs * 1000) params = false) :
    (manager.run nowMs params rc state).state.LinkFailsafe ∧
      (manager.run nowMs params rc state).manager.combinedControl =
        manager.failsafeCommand params := by
  -- The loss is noted first, whatever the receiver has said about the sample.
  have noted : noteRcLoss nowMs params rc state =
      state.update (.ERROR_OCCURRED ErrorFlag.RC_LOST) params := by
    rw [noteRcLoss, lost]
    rfl
  have failsafe : (noteRcLoss nowMs params rc state).LinkFailsafe := by
    rw [noted]
    exact StateManager.linkFailsafe_of_lost armed params
  refine ⟨by rwa [run_state], ?_⟩
  rw [run_of_failsafe failsafe.isInFailsafe]
  rfl

end CommandManager

end Veloxity
