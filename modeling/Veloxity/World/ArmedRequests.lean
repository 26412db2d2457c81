import Veloxity.Library.Run
import Veloxity.World.Bench

/-! Commands that reach an armed vehicle are refused and change nothing. -/

namespace Veloxity

open Library (BoundedQueue Along run run_cons)

/-- The refusal of a command. -/
def refusal {F : Type} (command : RosflightCmd) : CommResponse F :=
  .cmdAck { command, success := .rosflightCmdFailed }

/-- Waiting commands that are owed an acknowledgement, queue by queue in the order of service. -/
def CommandEventQueues.owed {F : Type} (requests : CommandEventQueues F) : List RosflightCmd :=
  requests.calibrationRequests.items ++ requests.paramDefaultsRequests.items ++
    requests.rcTrimCalibrationRequests.items ++ requests.boardCommandRequests.items ++
    requests.versionRequests.items ++ requests.resetOriginRequests.items ++
    requests.configInfoRequests.items

namespace CommandService

variable {F R S O C : Type} [FlightFloat F]

/-- The service after commands have been refused, as far as there was room for responses. -/
def withRefusals (service : CommandService F C) (commands : List RosflightCmd) :
    CommandService F C :=
  { service with
    commEvents := { responses := service.commEvents.responses.pushAll (commands.map refusal) } }

omit [FlightFloat F] in
/-- Draining a queue of commands that are all refused. -/
theorem drain_refusing {capacity : Nat}
    {act : CommandService F C → RosflightCmd → CommandService F C}
    (refuses : ∀ service command, act service command = service.emitCmdAck command false)
    (service : CommandService F C) (queue : BoundedQueue capacity RosflightCmd) :
    queue.drain act service = (service.withRefusals queue.items, .empty) := by
  rcases queue with ⟨commands, bounded⟩
  simp only [BoundedQueue.drain]
  clear bounded
  -- The induction is on the commands, with the service moving along.
  induction commands generalizing service with
  | nil => rfl
  | cons command rest ih =>
    rw [List.foldl_cons, refuses, ih]
    rfl

section Armed

variable {state : StateManager} (armed : state.isArmed = true) (service : CommandService F C)

include armed

/-- An armed vehicle refuses calibrations. -/
theorem applyCalibrationRequests_of_armed :
    service.applyCalibrationRequests state =
      { service.withRefusals service.requests.calibrationRequests.items with
        requests := { service.requests with calibrationRequests := .empty } } := by
  -- While armed, serving a request is refusing it, so draining refuses them all.
  have refuses (service : CommandService F C) (command : RosflightCmd) :
      applyCalibrationRequest state service command = service.emitCmdAck command false := by
    simp [applyCalibrationRequest, armed]
  rw [applyCalibrationRequests, drain_refusing refuses]
  rfl

/-- An armed vehicle refuses resets to the defaults. -/
theorem applyParamDefaultsRequests_of_armed :
    service.applyParamDefaultsRequests state =
      { service.withRefusals service.requests.paramDefaultsRequests.items with
        requests := { service.requests with paramDefaultsRequests := .empty } } := by
  -- While armed, serving a request is refusing it, so draining refuses them all.
  have refuses (service : CommandService F C) (command : RosflightCmd) :
      applyParamDefaultsRequest state service command = service.emitCmdAck command false := by
    simp [applyParamDefaultsRequest, armed]
  rw [applyParamDefaultsRequests, drain_refusing refuses]
  rfl

/-- An armed vehicle refuses trims. -/
theorem applyRcTrimCalibrationRequests_of_armed [Controller F R S O C] :
    service.applyRcTrimCalibrationRequests state =
      { service.withRefusals service.requests.rcTrimCalibrationRequests.items with
        requests := { service.requests with rcTrimCalibrationRequests := .empty } } := by
  -- While armed, serving a request is refusing it, so draining refuses them all.
  have refuses (service : CommandService F C) (command : RosflightCmd) :
      applyRcTrimCalibrationRequest state service command = service.emitCmdAck command false := by
    simp [applyRcTrimCalibrationRequest, armed]
  rw [applyRcTrimCalibrationRequests, drain_refusing refuses]
  rfl

omit [FlightFloat F] in
/-- An armed vehicle refuses requests for the board. -/
theorem applyBoardCommandRequests_of_armed (storage : BoardStorage F) :
    service.applyBoardCommandRequests state storage =
      { service.withRefusals service.requests.boardCommandRequests.items with
        requests := { service.requests with boardCommandRequests := .empty } } := by
  -- While armed, serving a request is refusing it, so draining refuses them all.
  have refuses (service : CommandService F C) (command : RosflightCmd) :
      applyBoardCommandRequest state storage service command =
        service.emitCmdAck command false := by
    simp [applyBoardCommandRequest, armed]
  rw [applyBoardCommandRequests, drain_refusing refuses]
  rfl

omit [FlightFloat F] in
/-- An armed vehicle refuses requests for the version. -/
theorem applyVersionRequests_of_armed :
    service.applyVersionRequests state =
      { service.withRefusals service.requests.versionRequests.items with
        requests := { service.requests with versionRequests := .empty } } := by
  -- While armed, serving a request is refusing it, so draining refuses them all.
  have refuses (service : CommandService F C) (command : RosflightCmd) :
      applyVersionRequest state service command = service.emitCmdAck command false := by
    simp [applyVersionRequest, armed]
  rw [applyVersionRequests, drain_refusing refuses]
  rfl

end Armed

omit [FlightFloat F] in
/-- Every vehicle refuses to reset the origin. -/
theorem applyResetOriginRequests_eq (service : CommandService F C) :
    service.applyResetOriginRequests =
      { service.withRefusals service.requests.resetOriginRequests.items with
        requests := { service.requests with resetOriginRequests := .empty } } := by
  rw [applyResetOriginRequests, drain_refusing fun _ _ => rfl]
  rfl

omit [FlightFloat F] in
/-- Every vehicle refuses to send configuration information. -/
theorem applyConfigInfoRequests_eq (service : CommandService F C) :
    service.applyConfigInfoRequests =
      { service.withRefusals service.requests.configInfoRequests.items with
        requests := { service.requests with configInfoRequests := .empty } } := by
  rw [applyConfigInfoRequests, drain_refusing fun _ _ => rfl]
  rfl

omit [FlightFloat F] in
/-- Handing over offboard commands only changes the command manager. -/
theorem applyOffboardControlRequests_eq (service : CommandService F C) :
    ∃ command, service.applyOffboardControlRequests =
      { service with
        command, requests := { service.requests with offboardControlRequests := .empty } } := by
  have handed (served : CommandService F C) (request : OffboardControlRequested F)
      (before : ∃ command, served = { service with command }) :
      ∃ command, { served with
        command := served.command.setNewOffboardCommand request.nowUs request.msg } =
        { service with command } := by
    -- One more command replaces the last.
    obtain ⟨command, rfl⟩ := before
    exact ⟨_, rfl⟩
  obtain ⟨command, all⟩ := BoundedQueue.drain_invariant handed ⟨service.command, rfl⟩
    service.requests.offboardControlRequests
  refine ⟨command, ?_⟩
  rw [applyOffboardControlRequests]
  dsimp only
  rw [all]
  rfl

/-- An armed vehicle refuses every waiting command and takes over offboard commands only. -/
theorem applyCommandRequests_of_armed [Controller F R S O C] {state : StateManager}
    (armed : state.isArmed = true) (service : CommandService F C) (storage : BoardStorage F) :
    ∃ command, service.applyCommandRequests state storage =
      { service.withRefusals service.requests.owed with command, requests := {} } := by
  -- Each handler refuses its own queue, behind the refusals of those before it.
  obtain ⟨command, offboard⟩ :=
    (service.applyCalibrationRequests state).applyOffboardControlRequests_eq
  refine ⟨command, ?_⟩
  rw [applyCommandRequests, applyConfigInfoRequests_eq, applyResetOriginRequests_eq,
    applyVersionRequests_of_armed armed, applyBoardCommandRequests_of_armed armed,
    applyRcTrimCalibrationRequests_of_armed armed, applyParamDefaultsRequests_of_armed armed,
    offboard, applyCalibrationRequests_of_armed armed]
  simp only [withRefusals, CommandEventQueues.owed, List.map_append, BoundedQueue.pushAll_append]

/-- Nothing that configures the vehicle differs, and the board was asked for nothing. -/
structure SameConfiguration (before after : CommandService F C) : Prop where
  boardCalls : after.boardCalls = before.boardCalls
  params : after.params = before.params
  paramEvents : after.paramEvents = before.paramEvents
  flags : after.flags = before.flags
  controller : after.controller = before.controller

/-- All waiting commands are gone, each but offboard control with one refusal in order. -/
structure RefusesAll (before after : CommandService F C) : Prop where
  requests : after.requests = {}
  responses : after.commEvents.responses.items =
    before.commEvents.responses.items ++ before.requests.owed.map refusal

/-- What the rest of the firmware leaves for one round of service. -/
structure ServiceRound (F : Type) where
  requests : CommandEventQueues F
  commEvents : CommEventQueues F
  command : CommandManager F
  state : StateManager
  storage : BoardStorage F

/-- The responses a round is owed all find room. -/
def ServiceRound.HasRoom (round : ServiceRound F) : Prop :=
  round.commEvents.responses.items.length + round.requests.owed.length ≤
    COMM_RESPONSE_QUEUE_CAPACITY

/-- The service as a round finds it, with new commands and whatever responses still wait. -/
def offer (service : CommandService F C) (round : ServiceRound F) : CommandService F C :=
  { service with
    requests := round.requests, commEvents := round.commEvents, command := round.command }

/-- Serve the commands of one round. -/
def serveRound [Controller F R S O C] (service : CommandService F C) (round : ServiceRound F) :
    CommandService F C :=
  (service.offer round).applyCommandRequests round.state round.storage

/-- A round of an armed vehicle refuses everything and configures nothing. -/
theorem serveRound_of_armed [Controller F R S O C] (service : CommandService F C)
    {round : ServiceRound F} (armed : round.state.isArmed = true) (room : round.HasRoom) :
    SameConfiguration service (service.serveRound round) ∧
      RefusesAll (service.offer round) (service.serveRound round) := by
  obtain ⟨command, served⟩ :=
    applyCommandRequests_of_armed armed (service.offer round) round.storage
  rw [serveRound, served]
  refine ⟨⟨rfl, rfl, rfl, rfl, rfl⟩, ⟨rfl, ?_⟩⟩
  -- With room for all of them, no refusal is dropped.
  have fits : (service.offer round).commEvents.responses.items.length +
      ((service.offer round).requests.owed.map (refusal (F := F))).length ≤
        COMM_RESPONSE_QUEUE_CAPACITY := by
    rw [List.length_map]
    exact room
  exact BoundedQueue.items_pushAll_of_room fits

omit [FlightFloat F] in
/-- A configuration is its own. -/
theorem SameConfiguration.refl (service : CommandService F C) : SameConfiguration service service :=
  ⟨rfl, rfl, rfl, rfl, rfl⟩

omit [FlightFloat F] in
/-- Two rounds that configure nothing configure nothing together. -/
theorem SameConfiguration.trans {first second third : CommandService F C}
    (before : SameConfiguration first second) (after : SameConfiguration second third) :
    SameConfiguration first third :=
  ⟨after.boardCalls.trans before.boardCalls, after.params.trans before.params,
    after.paramEvents.trans before.paramEvents, after.flags.trans before.flags,
    after.controller.trans before.controller⟩

/-- Commands are inert for as long as the vehicle is armed, whatever they are and however many. -/
theorem refusesAll_along [Controller F R S O C] (service : CommandService F C)
    (rounds : List (ServiceRound F)) (armed : ∀ round ∈ rounds, round.state.isArmed = true)
    (room : ∀ round ∈ rounds, round.HasRoom) :
    Along (fun service round => RefusesAll (service.offer round) (service.serveRound round))
      serveRound service rounds ∧
    SameConfiguration service (run serveRound service rounds) := by
  -- The induction is on the rounds, each of which leaves the configuration to the next.
  induction rounds generalizing service with
  | nil => exact ⟨trivial, .refl service⟩
  | cons round rest ih =>
    have here := service.serveRound_of_armed (armed round List.mem_cons_self)
      (room round List.mem_cons_self)
    obtain ⟨refuses, same⟩ := ih (service.serveRound round)
      (fun other member => armed other (List.mem_cons_of_mem _ member))
      (fun other member => room other (List.mem_cons_of_mem _ member))
    rw [run_cons]
    refine ⟨⟨here.2, refuses⟩, ?_⟩
    exact SameConfiguration.trans here.1 same

/-- A service of the bench controller, at the default parameters. -/
def benchService : CommandService ℚ (IdleController ℚ ℚ) where
  requests := {}
  paramEvents := {}
  commEvents := {}
  command := .new
  controller := .mk
  flags := ∅
  params := .new
  boardCalls := []

/-- A round that asks an armed vehicle to forget its parameters and to reboot. -/
def rebootRound : ServiceRound ℚ where
  requests :=
    { paramDefaultsRequests := (BoundedQueue.empty.push .setParamDefaults).1
      boardCommandRequests := (BoundedQueue.empty.push .reboot).1 }
  commEvents := {}
  command := .new
  state := { StateManager.new with machine := .armed ∅ }
  storage := { readParams := fun _ params => (params, true), writeParams := fun _ _ => true }

/-- An armed vehicle neither forgets its parameters nor reboots. -/
theorem rebootRound_refused :
    Along (fun service round => RefusesAll (service.offer round) (service.serveRound round))
      serveRound benchService [rebootRound, rebootRound] ∧
    SameConfiguration benchService (run serveRound benchService [rebootRound, rebootRound]) := by
  refine refusesAll_along benchService [rebootRound, rebootRound] ?_ ?_
  · -- Both rounds ask an armed vehicle, in a queue that is not too long.
    intro round member
    simp only [List.mem_cons, List.not_mem_nil, or_false, or_self] at member
    rw [member]
    rfl
  · intro round member
    simp only [List.mem_cons, List.not_mem_nil, or_false, or_self] at member
    rw [member]
    exact Nat.le_of_ble_eq_true rfl

end CommandService

end Veloxity
