import Veloxity.Comm.Manager

/-! What queueing and sending do to the sequence of the vehicle's responses. -/

namespace Veloxity

open Library (BoundedQueue)

variable {F : Type}

namespace CommEventQueues

/-- These responses were queued, as far as there was room. -/
structure Appends (before after : CommEventQueues F) (added : List (CommResponse F)) : Prop where
  items :
      after.responses.items = (before.responses.items ++ added).take COMM_RESPONSE_QUEUE_CAPACITY

/-- No response is queued when nothing happens. -/
theorem Appends.refl (events : CommEventQueues F) : Appends events events [] := by
  refine ⟨?_⟩
  rw [List.append_nil, List.take_of_length_le events.responses.bounded]

/-- Responses queued one after another. -/
theorem Appends.trans {before middle after : CommEventQueues F}
    {first second : List (CommResponse F)}
    (earlier : Appends before middle first) (later : Appends middle after second) :
    Appends before after (first ++ second) := by
  refine ⟨?_⟩
  rw [later.items, earlier.items, BoundedQueue.take_take_append, List.append_assoc]

/-- A response is queued. -/
theorem appends_respond (events : CommEventQueues F) (response : CommResponse F) :
    Appends events (events.respond response) [response] :=
  ⟨BoundedQueue.items_push _ _⟩

/-- Responses of a list of items are queued one after another. -/
theorem appends_foldl_respond {α : Type} (respond : α → CommResponse F) (items : List α)
    (events : CommEventQueues F) :
    Appends events (items.foldl (fun events item => events.respond (respond item)) events)
      (items.map respond) := by
  -- Each response goes behind those queued before it.
  induction items generalizing events with
  | nil => exact .refl events
  | cons item rest ih =>
    rw [List.foldl_cons, List.map_cons]
    exact (appends_respond events (respond item)).trans (ih _)

/-- Earlier responses keep waiting in their order, and as many new ones as there is room for join
them. -/
theorem Appends.grown {before after : CommEventQueues F} {added : List (CommResponse F)}
    (appends : Appends before after added) :
    after.responses.items = before.responses.items ++
      added.take (COMM_RESPONSE_QUEUE_CAPACITY - before.responses.items.length) := by
  -- The cut at the capacity leaves what waited whole.
  rw [appends.items, List.take_append, List.take_of_length_le before.responses.bounded]

/-- Responses that all find room are queued whole. -/
theorem Appends.items_of_room {before after : CommEventQueues F} {added : List (CommResponse F)}
    (appends : Appends before after added)
    (room : before.responses.items.length + added.length ≤ COMM_RESPONSE_QUEUE_CAPACITY) :
    after.responses.items = before.responses.items ++ added := by
  rw [appends.items]
  apply List.take_of_length_le
  rw [List.length_append]
  exact room

end CommEventQueues

/-- The response a reply carries. -/
def Reply.carried : Reply F → Option (CommResponse F)
  | .response _ answer => some answer
  | .timesync _ _ => none

namespace CommManager

/-- The responses sent so far and those that wait, in order. -/
def responseLog (comm : CommManager F) (events : CommEventQueues F) : List (CommResponse F) :=
  comm.replies.filterMap Reply.carried ++ events.responses.items

/-- A sent response is the last of those sent. -/
theorem sent_sendResponse (comm : CommManager F) (response : CommResponse F) :
    (comm.sendResponse response).replies.filterMap Reply.carried =
      comm.replies.filterMap Reply.carried ++ [response] := by
  unfold sendResponse
  dsimp only
  rw [List.filterMap_append]
  rfl

/-- What a send of the first waiting response keeps is kept when responses are sent. -/
theorem sendCommResponsesLimited_keeps {α : Type}
    (quantity : CommManager F → CommEventQueues F → α)
    (kept : ∀ comm events response rest, events.responses.items = response :: rest.items →
      quantity (comm.sendResponse response) ⟨rest⟩ = quantity comm events)
    (budget : Nat) (comm : CommManager F) (events : CommEventQueues F) :
    quantity (sendCommResponsesLimited budget comm events).1
      (sendCommResponsesLimited budget comm events).2 = quantity comm events := by
  -- Each response that is sent is the first of those that wait then.
  induction budget generalizing comm events with
  | zero => rfl
  | succ budget ih =>
    rw [sendCommResponsesLimited]
    cases taken : events.responses.pop with
    | none => rfl
    | some next =>
      obtain ⟨response, rest⟩ := next
      exact (ih _ _).trans (kept comm events response rest (BoundedQueue.items_of_pop taken))

/-- Sending responses loses none, repeats none and keeps their order. -/
theorem responseLog_sendCommResponsesLimited (budget : Nat) (comm : CommManager F)
    (events : CommEventQueues F) :
    (sendCommResponsesLimited budget comm events).1.responseLog
      (sendCommResponsesLimited budget comm events).2 = comm.responseLog events := by
  -- Each sent response moves from the front of the queue to the end of those sent.
  refine sendCommResponsesLimited_keeps responseLog ?_ budget comm events
  intro comm events response rest front
  rw [responseLog, responseLog, sent_sendResponse, front, List.append_assoc]
  rfl

/-- Sending responses keeps the messages that wait to be acted on. -/
theorem msgs_sendCommResponsesLimited (budget : Nat) (comm : CommManager F)
    (events : CommEventQueues F) :
    (sendCommResponsesLimited budget comm events).1.msgs = comm.msgs :=
  -- A response is added to the replies alone.
  sendCommResponsesLimited_keeps (fun comm _ => comm.msgs) (fun _ _ _ _ _ => rfl) budget comm events

/-- The system identifier a response announces. -/
def announcedSysid (sysid : Nat) : CommResponse F → Nat
  | .paramValue msg =>
    if msg.paramIndex = ParamId.toIndex .PARAM_SYSTEM_ID then
      match msg.paramValue with
      | .int newSysid => (newSysid % 256).toNat
      | _ => sysid
    else sysid
  | _ => sysid

/-- The system identifier the manager has once all waiting responses are sent. -/
def pendingSysid (comm : CommManager F) (events : CommEventQueues F) : Nat :=
  events.responses.items.foldl announcedSysid comm.sysid

/-- Responses that each announce an identifier already held leave it held. -/
theorem foldl_announcedSysid {sysid : Nat} {responses : List (CommResponse F)}
    (confirmed : ∀ response ∈ responses, announcedSysid sysid response = sysid) :
    responses.foldl announcedSysid sysid = sysid := by
  -- A response that announces what is held changes nothing for the next one.
  induction responses with
  | nil => rfl
  | cons response rest ih =>
    rw [List.foldl_cons, confirmed response List.mem_cons_self]
    exact ih fun other member => confirmed other (List.mem_cons_of_mem _ member)

/-- Sending responses announces what they would have announced while they waited. -/
theorem pendingSysid_sendCommResponsesLimited (budget : Nat) (comm : CommManager F)
    (events : CommEventQueues F) :
    (sendCommResponsesLimited budget comm events).1.pendingSysid
      (sendCommResponsesLimited budget comm events).2 = comm.pendingSysid events := by
  -- The first response is announced when it is sent, and the others still wait.
  refine sendCommResponsesLimited_keeps pendingSysid ?_ budget comm events
  intro comm events response rest front
  rw [pendingSysid, pendingSysid, front]
  rfl

end CommManager

end Veloxity
