import Veloxity.Boards.Downlink
import Veloxity.Library.LatestQueue

/-! Every message handed to the sending core is sent in its turn, or replaced by a newer one. -/

namespace Veloxity

open Library

variable {Payload : DownlinkKind → Type}

/-- The stream a message is replaced in when it is offered at a priority. -/
def replaceableStream (msg : QueuedDownlinkMessage Payload) (priority : UInt8) :
    Option (Fin downlinkTelemetryStreams) :=
  if defaultTxPriority ≤ priority then none else downlinkTelemetryStream msg.msg

/-- What the calls and their results alone tell: the critical messages accepted and those
delivered, and the newest message of each stream that became pending. -/
structure DownlinkLog (Payload : DownlinkKind → Type) where
  accepted : List (QueuedDownlinkMessage Payload)
  delivered : List (QueuedDownlinkMessage Payload)
  pending : LatestQueue (Fin downlinkTelemetryStreams) (QueuedDownlinkMessage Payload)

namespace DownlinkLog

/-- Nothing has been called yet. -/
def empty : DownlinkLog Payload := ⟨[], [], .empty⟩

/-- Accepted critical messages that have not been delivered. -/
def undelivered (log : DownlinkLog Payload) : List (QueuedDownlinkMessage Payload) :=
  log.accepted.drop log.delivered.length

/-- The message whose turn it is. -/
def expected (log : DownlinkLog Payload) : Option (QueuedDownlinkMessage Payload) :=
  log.undelivered.head?.or log.pending.next

/-- Note an accepted message. -/
def accept (log : DownlinkLog Payload) (msg : QueuedDownlinkMessage Payload) (priority : UInt8) :
    DownlinkLog Payload :=
  match replaceableStream msg priority with
  | none => { log with accepted := log.accepted ++ [msg] }
  | some stream => { log with pending := log.pending.offer stream msg }

/-- Note what was taken out: a critical message while one is undelivered. -/
def deliver (log : DownlinkLog Payload) (popped : Option (QueuedDownlinkMessage Payload)) :
    DownlinkLog Payload :=
  match log.undelivered with
  | [] => { log with pending := log.pending.rest }
  | _ :: _ => { log with delivered := log.delivered ++ popped.toList }

end DownlinkLog

/-- A mailbox and the log of the calls made to it. -/
structure LoggedDownlink (Payload : DownlinkKind → Type) where
  mailbox : DownlinkMailbox Payload
  log : DownlinkLog Payload

namespace LoggedDownlink

/-- A new mailbox with an empty log. -/
def new : LoggedDownlink Payload := ⟨.new, .empty⟩

/-- Make a call and log its result. -/
def step (logged : LoggedDownlink Payload) : DownlinkCall Payload → LoggedDownlink Payload
  | .push msg priority =>
    let (accepted, mailbox) := logged.mailbox.pushDownlinkMessage msg priority
    ⟨mailbox, if accepted then logged.log.accept msg priority else logged.log⟩
  | .pop =>
    let (popped, mailbox) := logged.mailbox.popDownlinkMessage
    ⟨mailbox, logged.log.deliver popped⟩

/-- The mailbox holds the undelivered critical messages and what is pending in each stream. -/
structure Accounted (logged : LoggedDownlink Payload) : Prop where
  critical : logged.log.accepted =
    logged.log.delivered ++ logged.mailbox.downlinkCritical.items
  telemetry : logged.log.pending.HeldBy logged.mailbox.downlinkTelemetryReady.items
    logged.mailbox.downlinkTelemetry

/-- A new mailbox accounts for its empty log. -/
theorem accounted_new : (new : LoggedDownlink Payload).Accounted :=
  ⟨rfl, LatestQueue.heldBy_empty⟩

/-- The loop over ready streams takes out what has been pending longest. -/
theorem takeReady_eq
    {queue : LatestQueue (Fin downlinkTelemetryStreams) (QueuedDownlinkMessage Payload)}
    {ready : List (Fin downlinkTelemetryStreams)}
    {slots : Fin downlinkTelemetryStreams → Option (QueuedDownlinkMessage Payload)}
    (held : queue.HeldBy ready slots) :
    (DownlinkMailbox.takeReady slots ready).1 = queue.next ∧
      queue.rest.HeldBy (DownlinkMailbox.takeReady slots ready).2.2
        (DownlinkMailbox.takeReady slots ready).2.1 := by
  -- The first ready stream has a message, so the loop never turns twice.
  cases ready with
  | nil =>
    have nothing : queue.entries = [] := List.map_eq_nil_iff.mp held.order.symm
    refine ⟨held.next_of_nil.symm, ?_, ?_⟩
    · simp [DownlinkMailbox.takeReady, LatestQueue.keys, LatestQueue.rest, nothing]
    · intro stream msg
      rw [DownlinkMailbox.takeReady, held.items]
      simp [LatestQueue.rest, nothing]
  | cons stream ready =>
    obtain ⟨msg, occupied, first, remaining⟩ := held.take
    rw [DownlinkMailbox.takeReady, occupied]
    exact ⟨first.symm, remaining⟩

namespace Accounted

variable {logged : LoggedDownlink Payload}

/-- The undelivered critical messages are the queued ones. -/
theorem undelivered (accounted : logged.Accounted) :
    logged.log.undelivered = logged.mailbox.downlinkCritical.items := by
  rw [DownlinkLog.undelivered, accounted.critical, List.drop_left]

/-- A message that replaces others is always accepted, and waits in its stream. -/
theorem push_replaceable (accounted : logged.Accounted) {msg : QueuedDownlinkMessage Payload}
    {priority : UInt8} {stream : Fin downlinkTelemetryStreams}
    (replaceable : replaceableStream msg priority = some stream) :
    (logged.mailbox.pushDownlinkMessage msg priority).1 = true ∧
      (logged.step (.push msg priority)).Accounted := by
  have low : ¬ defaultTxPriority ≤ priority := by
    intro high
    rw [replaceableStream, if_pos high] at replaceable
    exact nomatch replaceable
  have slot : downlinkTelemetryStream msg.msg = some stream := by
    rwa [replaceableStream, if_neg low] at replaceable
  simp only [step, DownlinkMailbox.pushDownlinkMessage, if_neg low, slot]
  cases occupied : (logged.mailbox.downlinkTelemetry stream).isSome with
  | true =>
    refine ⟨rfl, ?_, ?_⟩
    · simpa [DownlinkLog.accept, replaceable] using accounted.critical
    · simpa [DownlinkLog.accept, replaceable] using accounted.telemetry.replace occupied msg
  | false =>
    -- A vacant slot leaves room among the ready streams.
    have vacant := Option.not_isSome_iff_eq_none.mp (Bool.eq_false_iff.mp occupied)
    have room := accounted.telemetry.length_lt vacant
    rw [Fintype.card_fin] at room
    simp only [Bool.false_eq_true, if_false, BoundedQueue.push, dif_pos room]
    refine ⟨trivial, ?_, ?_⟩
    · simpa [DownlinkLog.accept, replaceable] using accounted.critical
    · simpa [DownlinkLog.accept, replaceable] using accounted.telemetry.append vacant msg

/-- Any other message goes to the critical queue. -/
theorem push_critical {mailbox : DownlinkMailbox Payload} {msg : QueuedDownlinkMessage Payload}
    {priority : UInt8} (critical : replaceableStream msg priority = none) :
    mailbox.pushDownlinkMessage msg priority = mailbox.pushCritical msg := by
  -- Only a low priority can name a stream to replace.
  unfold DownlinkMailbox.pushDownlinkMessage
  unfold replaceableStream at critical
  split
  · rfl
  · rename_i low
    rw [if_neg low] at critical
    rw [critical]

/-- A critical message is queued last, or changes nothing. -/
theorem pushCritical_cases (mailbox : DownlinkMailbox Payload)
    (msg : QueuedDownlinkMessage Payload) :
    (mailbox.pushCritical msg).2.downlinkTelemetry = mailbox.downlinkTelemetry ∧
      (mailbox.pushCritical msg).2.downlinkTelemetryReady = mailbox.downlinkTelemetryReady ∧
      ((mailbox.pushCritical msg).1 = true ∧
          (mailbox.pushCritical msg).2.downlinkCritical.items =
            mailbox.downlinkCritical.items ++ [msg] ∨
        (mailbox.pushCritical msg).1 = false ∧ (mailbox.pushCritical msg).2 = mailbox) := by
  -- The queue reports whether it had room.
  refine ⟨rfl, rfl, ?_⟩
  by_cases room : mailbox.downlinkCritical.items.length < downlinkCriticalCapacity
  · left
    simp only [DownlinkMailbox.pushCritical, BoundedQueue.push, dif_pos room, and_self]
  · right
    simp only [DownlinkMailbox.pushCritical, BoundedQueue.push, dif_neg room, and_self]

/-- Every push keeps the account. -/
theorem push (accounted : logged.Accounted) (msg : QueuedDownlinkMessage Payload)
    (priority : UInt8) : (logged.step (.push msg priority)).Accounted := by
  -- A critical message is queued behind the others, or refused without a trace.
  cases replaceable : replaceableStream msg priority with
  | some stream => exact (accounted.push_replaceable replaceable).2
  | none =>
    obtain ⟨slots, ready, queued⟩ := pushCritical_cases logged.mailbox msg
    simp only [step, push_critical replaceable]
    rcases queued with ⟨accepted, items⟩ | ⟨rejected, same⟩
    · rw [accepted, if_pos rfl, DownlinkLog.accept, replaceable]
      refine ⟨?_, ?_⟩
      · rw [items, accounted.critical, List.append_assoc]
      · rw [slots, ready]
        exact accounted.telemetry
    · rw [rejected, if_neg Bool.false_ne_true, same]
      exact accounted

/-- What is taken out is the message whose turn it is, and the account is kept. -/
theorem pop (accounted : logged.Accounted) :
    logged.mailbox.popDownlinkMessage.1 = logged.log.expected ∧
      (logged.step .pop).Accounted := by
  have waiting := accounted.undelivered
  have critical := accounted.critical
  simp only [step, DownlinkLog.expected, DownlinkLog.deliver, DownlinkMailbox.popDownlinkMessage]
  cases taken : logged.mailbox.downlinkCritical.pop with
  | some result =>
    -- A critical message goes first.
    obtain ⟨msg, others⟩ := result
    rw [BoundedQueue.items_of_pop taken] at waiting critical
    rw [waiting]
    refine ⟨rfl, ?_, accounted.telemetry⟩
    rw [critical, Option.toList_some, List.append_assoc]
    rfl
  | none =>
    -- Otherwise the stream that has been pending longest has its turn.
    have nothing : logged.mailbox.downlinkCritical.items = [] := by
      rcases queue : logged.mailbox.downlinkCritical with ⟨_ | ⟨head, tail⟩, bounded⟩
      · rfl
      · rw [queue] at taken
        exact absurd taken (Option.some_ne_none _)
    obtain ⟨first, remaining⟩ := takeReady_eq accounted.telemetry
    rw [waiting, nothing]
    refine ⟨?_, critical, remaining⟩
    rw [first]
    rfl

/-- Every call keeps the account. -/
theorem step (accounted : logged.Accounted) (call : DownlinkCall Payload) :
    (logged.step call).Accounted := by
  cases call with
  | push msg priority => exact accounted.push msg priority
  | pop => exact accounted.pop.2

end Accounted

/-- How many calls take a message out. -/
def pops (calls : List (DownlinkCall Payload)) : Nat :=
  calls.countP fun call => match call with
    | .push _ _ => false
    | .pop => true

/-- What a mailbox promises of the calls that may come next, given those before. -/
structure Promises (logged : LoggedDownlink Payload) : Prop where
  /-- A stream is ready once while its slot is occupied, and otherwise not at all. -/
  readyOnce : ∀ stream, logged.mailbox.downlinkTelemetryReady.items.count stream =
    if (logged.mailbox.downlinkTelemetry stream).isSome then 1 else 0
  /-- Messages that replace others are never turned away. -/
  acceptsTelemetry : ∀ msg priority, (replaceableStream msg priority).isSome →
    (logged.mailbox.pushDownlinkMessage msg priority).1 = true
  /-- A message turned away leaves no trace. -/
  rejectedUnchanged : ∀ msg priority,
    (logged.mailbox.pushDownlinkMessage msg priority).1 = false →
      (logged.mailbox.pushDownlinkMessage msg priority).2 = logged.mailbox
  /-- The oldest undelivered critical message goes first, and then the newest message of the
  stream that became pending first. -/
  popsExpected : logged.mailbox.popDownlinkMessage.1 = logged.log.expected
  /-- Critical messages are delivered once each, in the order of their acceptance. -/
  deliveredInOrder : logged.log.delivered <+: logged.log.accepted
  /-- Whatever else is called, taking out as many messages as are undelivered delivers them. -/
  deliversAll : ∀ calls, logged.log.undelivered.length ≤ pops calls →
    logged.log.accepted <+: (run step logged calls).log.delivered

/-- A push delivers nothing, and what was accepted stays accepted. -/
theorem log_push (logged : LoggedDownlink Payload) (msg : QueuedDownlinkMessage Payload)
    (priority : UInt8) :
    (logged.step (.push msg priority)).log.delivered = logged.log.delivered ∧
      logged.log.accepted <+: (logged.step (.push msg priority)).log.accepted := by
  -- The accepted messages grow at their end, or not at all.
  simp only [step]
  split
  · unfold DownlinkLog.accept
    split
    · exact ⟨rfl, List.prefix_append _ _⟩
    · exact ⟨rfl, List.prefix_rfl⟩
  · exact ⟨rfl, List.prefix_rfl⟩

namespace Accounted

variable {logged : LoggedDownlink Payload}

/-- What was delivered is the front of what was accepted. -/
theorem delivered_prefix (accounted : logged.Accounted) :
    logged.log.delivered <+: logged.log.accepted := by
  rw [accounted.critical]
  exact List.prefix_append _ _

/-- Taking a message out accepts nothing, and delivers one more critical message if there is
one. -/
theorem log_pop (accounted : logged.Accounted) :
    (logged.step .pop).log.accepted = logged.log.accepted ∧
      (logged.step .pop).log.delivered.length =
        min logged.log.accepted.length (logged.log.delivered.length + 1) := by
  -- Either every accepted message was delivered, or the oldest one left is next.
  have shorter := accounted.delivered_prefix.length_le
  obtain ⟨popped, _⟩ := accounted.pop
  simp only [LoggedDownlink.step, DownlinkLog.deliver, popped, DownlinkLog.expected]
  cases waiting : logged.log.undelivered with
  | nil =>
    have caughtUp : logged.log.accepted.length ≤ logged.log.delivered.length :=
      List.drop_eq_nil_iff.mp waiting
    refine ⟨rfl, ?_⟩
    dsimp only
    omega
  | cons first others =>
    have behind := congrArg List.length waiting
    rw [DownlinkLog.undelivered, List.length_drop, List.length_cons] at behind
    refine ⟨rfl, ?_⟩
    simp only [List.head?_cons, Option.some_or, Option.toList_some, List.length_append,
      List.length_singleton]
    omega

/-- Accepted messages have been delivered after as many turns as they were short of. -/
theorem delivers (accounted : logged.Accounted) {goal : List (QueuedDownlinkMessage Payload)}
    (accepted : goal <+: logged.log.accepted) (calls : List (DownlinkCall Payload))
    (enough : goal.length - logged.log.delivered.length ≤ pops calls) :
    goal <+: (run LoggedDownlink.step logged calls).log.delivered := by
  -- The induction is on the calls: a push keeps the distance, a pop shortens it.
  induction calls generalizing logged with
  | nil =>
    have reached : goal.length ≤ logged.log.delivered.length :=
      Nat.le_of_sub_eq_zero (Nat.le_zero.mp enough)
    exact List.prefix_of_prefix_length_le accepted accounted.delivered_prefix reached
  | cons call calls ih =>
    cases call with
    | push msg priority =>
      obtain ⟨kept, longer⟩ := log_push logged msg priority
      apply ih (accounted.push msg priority) (accepted.trans longer)
      rwa [kept]
    | pop =>
      obtain ⟨same, grown⟩ := accounted.log_pop
      have bounded := accepted.length_le
      have one : pops (.pop :: calls) = pops calls + 1 := by simp [pops]
      apply ih accounted.pop.2
      · rwa [same]
      · rw [grown]
        omega

/-- A mailbox that accounts for its log keeps its promises. -/
theorem promises (accounted : logged.Accounted) : logged.Promises where
  -- Each promise is read off the account of what was queued, rejected and popped.
  readyOnce := accounted.telemetry.count_eq
  acceptsTelemetry msg priority replaceable := by
    obtain ⟨stream, found⟩ := Option.isSome_iff_exists.mp replaceable
    exact (accounted.push_replaceable found).1
  rejectedUnchanged msg priority rejected := by
    cases replaceable : replaceableStream msg priority with
    | some stream =>
      rw [(accounted.push_replaceable replaceable).1] at rejected
      exact nomatch rejected
    -- Only a critical message that finds its queue full is rejected, and it leaves the queue alone.
    | none =>
      rw [push_critical replaceable] at rejected ⊢
      rcases (pushCritical_cases logged.mailbox msg).2.2 with ⟨accepted, _⟩ | ⟨_, same⟩
      · rw [accepted] at rejected
        exact nomatch rejected
      · exact same
  popsExpected := accounted.pop.1
  deliveredInOrder := accounted.delivered_prefix
  deliversAll calls enough := by
    apply accounted.delivers List.prefix_rfl calls
    rwa [DownlinkLog.undelivered, List.length_drop] at enough

end Accounted

/-- After any calls a mailbox that was new keeps its promises. -/
theorem promises_after (calls : List (DownlinkCall Payload)) :
    (run step (new : LoggedDownlink Payload) calls).Promises := by
  -- The account is kept from call to call.
  have accounted : (run step (new : LoggedDownlink Payload) calls).Accounted :=
    run_invariant (fun _ call kept => kept.step call) accounted_new calls
  exact accounted.promises

end LoggedDownlink

end Veloxity
