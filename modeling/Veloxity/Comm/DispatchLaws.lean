import Veloxity.Comm.Responses

/-! What acting on the received messages leaves of commands and responses. -/

namespace Veloxity

open CommEventQueues (Appends appends_respond)

variable {F : Type}

/-- The command a message gives, if it gives one. -/
def IncomingMessage.command : IncomingMessage F → Option RosflightCmd
  | .cmd command => some command
  | _ => none

/-- Commands among received messages, in order. -/
def receivedCommands (incoming : List (IncomingMessage F)) : List RosflightCmd :=
  incoming.filterMap IncomingMessage.command

/-- The slot for a command holds the last one received. -/
theorem cmd_store (msgs : Messages F) (incoming : List (IncomingMessage F)) :
    (incoming.foldl Messages.store msgs).cmd =
      (receivedCommands incoming).getLast?.or msgs.cmd := by
  -- Each command takes the place of the one before it.
  induction incoming generalizing msgs with
  | nil => rfl
  | cons message rest ih =>
    rw [List.foldl_cons, ih]
    cases message with
    | cmd command =>
      have first : receivedCommands (.cmd command :: rest) = command :: receivedCommands rest := rfl
      rw [first, List.getLast?_cons]
      cases (receivedCommands rest).getLast? <;> rfl
    | _ => rfl

namespace MessageDispatch

/-- What handlers leave alone that do not handle commands, where offboard commands may queue. -/
structure Prepares (before after : MessageDispatch F) : Prop where
  sent : after.comm.replies.filterMap Reply.carried = before.comm.replies.filterMap Reply.carried
  sysid : after.comm.sysid = before.comm.sysid
  cmd : after.comm.msgs.cmd = before.comm.msgs.cmd
  commEvents : after.commEvents = before.commEvents
  requests : ∃ offboardControlRequests,
    after.commandEvents = { before.commandEvents with offboardControlRequests }

/-- Nothing has been handled. -/
theorem Prepares.refl (dispatch : MessageDispatch F) : Prepares dispatch dispatch :=
  ⟨rfl, rfl, rfl, rfl, dispatch.commandEvents.offboardControlRequests, rfl⟩

/-- One handler after another. -/
theorem Prepares.trans {before middle after : MessageDispatch F} (first : Prepares before middle)
    (second : Prepares middle after) : Prepares before after := by
  -- Each part is kept twice over, and the later requests are those that remain.
  obtain ⟨_, earlier⟩ := first.requests
  obtain ⟨offboardControlRequests, later⟩ := second.requests
  refine ⟨second.sent.trans first.sent, second.sysid.trans first.sysid, second.cmd.trans first.cmd,
    second.commEvents.trans first.commEvents, offboardControlRequests, ?_⟩
  rw [later, earlier]

/-- Passing a heartbeat on prepares. -/
theorem prepares_heartbeat (dispatch : MessageDispatch F) :
    Prepares dispatch dispatch.heartbeat := by
  unfold heartbeat
  -- Without a heartbeat nothing happens, and with one only the companion's queue grows.
  split
  · exact .refl dispatch
  · exact ⟨rfl, rfl, rfl, rfl, _, rfl⟩

/-- Passing a list request on prepares. -/
theorem prepares_paramRequestList (dispatch : MessageDispatch F) :
    Prepares dispatch dispatch.paramRequestList := by
  unfold paramRequestList
  -- Only a request to list may be queued.
  split
  · exact .refl dispatch
  · exact ⟨rfl, rfl, rfl, rfl, _, rfl⟩

/-- Answering a clock request prepares. -/
theorem prepares_timesync (dispatch : MessageDispatch F) (nowUs : Nat) :
    Prepares dispatch (dispatch.timesync nowUs) := by
  unfold timesync
  split
  · exact .refl dispatch
  · dsimp only
    split
    · -- A clock reply carries no response.
      refine ⟨?_, rfl, rfl, rfl, _, rfl⟩
      simp [Reply.carried]
    · exact ⟨rfl, rfl, rfl, rfl, _, rfl⟩

/-- Passing an offboard command on prepares. -/
theorem prepares_offboardControl (dispatch : MessageDispatch F) (nowUs : Nat) :
    Prepares dispatch (dispatch.offboardControl nowUs) := by
  unfold offboardControl
  -- Only the offboard requests grow.
  split
  · exact .refl dispatch
  · exact ⟨rfl, rfl, rfl, rfl, _, rfl⟩

/-- Passing an auxiliary command on prepares. -/
theorem prepares_auxCmd (dispatch : MessageDispatch F) : Prepares dispatch dispatch.auxCmd := by
  unfold auxCmd
  -- Only the companion's auxiliary commands grow.
  split
  · exact .refl dispatch
  · exact ⟨rfl, rfl, rfl, rfl, _, rfl⟩

/-- Passing an external attitude on prepares. -/
theorem prepares_externalAttitude (dispatch : MessageDispatch F) :
    Prepares dispatch dispatch.externalAttitude := by
  unfold externalAttitude
  -- Only the companion's attitudes grow.
  split
  · exact .refl dispatch
  · exact ⟨rfl, rfl, rfl, rfl, _, rfl⟩

/-- Everything but the command has been acted on. -/
def prepared (dispatch : MessageDispatch F) (clock : CommClock) : MessageDispatch F :=
  ((((((dispatch.heartbeat.paramRequestRead.paramRequestList.timesync
    clock.timesyncUs).offboardControl clock.offboardUs).auxCmd).externalAttitude).paramSet))

/-- The command is acted on last, after handlers that prepare. -/
theorem prepares_prepared (dispatch : MessageDispatch F) (clock : CommClock) :
    Prepares dispatch (dispatch.prepared clock) := by
  -- Requests to read and to set are passed on without looking at commands or replies.
  have read (dispatch : MessageDispatch F) : Prepares dispatch dispatch.paramRequestRead :=
    ⟨rfl, rfl, rfl, rfl, _, rfl⟩
  have set (dispatch : MessageDispatch F) : Prepares dispatch dispatch.paramSet :=
    ⟨rfl, rfl, rfl, rfl, _, rfl⟩
  exact (((((((dispatch.prepares_heartbeat.trans (read _)).trans
    (prepares_paramRequestList _)).trans (prepares_timesync _ _)).trans
    (prepares_offboardControl _ _)).trans (prepares_auxCmd _)).trans
    (prepares_externalAttitude _)).trans (set _))

/-- The refusal of a command that finds its queue full, or nothing. -/
def refused (dispatch : MessageDispatch F) : List (CommResponse F) :=
  match dispatch.comm.msgs.cmd with
  | none => []
  | some command =>
    if (dispatch.commandEvents.route command).2 then []
    else [.cmdAck { command, success := .rosflightCmdFailed }]

/-- Acting on a command takes it out of its slot, and answers it only to refuse it. -/
theorem appends_cmd (dispatch : MessageDispatch F) :
    dispatch.cmd.comm.replies = dispatch.comm.replies ∧
      dispatch.cmd.comm.sysid = dispatch.comm.sysid ∧
      dispatch.cmd.comm.msgs.cmd = none ∧
      Appends dispatch.commEvents dispatch.cmd.commEvents dispatch.refused := by
  -- An empty slot leaves everything as it was.
  unfold cmd refused
  cases waiting : dispatch.comm.msgs.cmd with
  | none => exact ⟨rfl, rfl, waiting, .refl _⟩
  | some command =>
    refine ⟨rfl, rfl, rfl, ?_⟩
    dsimp only
    split
    · exact .refl _
    · exact appends_respond _ _

end MessageDispatch

end Veloxity
