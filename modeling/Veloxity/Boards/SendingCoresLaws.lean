import Mathlib.Data.List.Basic
import Veloxity.Boards.SendingCores

/-! What one core hands over for sending the other end of the line reads back, in order. -/

namespace Veloxity

open Library

variable {Payload : DownlinkKind → Type} {format : PayloadFormat Payload}

/-- One more message has the number behind those of the messages before it. -/
theorem numberedFrames_concat (componentId sequence : UInt8)
    (messages : List (QueuedDownlinkMessage Payload)) (queued : QueuedDownlinkMessage Payload) :
    numberedFrames format componentId sequence (messages ++ [queued]) =
      numberedFrames format componentId sequence messages ++
        [frameBuilderWithSequence format componentId queued.systemId
          (sequence + UInt8.ofNat messages.length) queued.msg] := by
  -- The induction moves the number along with the messages.
  induction messages generalizing sequence with
  | nil => simp [numberedFrames]
  | cons first rest ih =>
    have number : sequence + 1 + UInt8.ofNat rest.length =
        sequence + UInt8.ofNat (rest.length + 1) := by
      rw [UInt8.ofNat_add, UInt8.add_assoc, UInt8.add_comm 1]
      rfl
    rw [List.cons_append, numberedFrames, ih, numberedFrames, List.cons_append, number,
      List.length_cons]

/-- Each message has a place among the numbered frames. -/
theorem length_numberedFrames (componentId sequence : UInt8)
    (messages : List (QueuedDownlinkMessage Payload)) :
    (numberedFrames format componentId sequence messages).length = messages.length := by
  induction messages generalizing sequence with
  | nil => rfl
  | cons first rest ih => simp [numberedFrames, ih]

/-- A message is replaceable at its own priority exactly if it belongs to a stream. -/
theorem replaceableStream_txPriority (systemId : UInt8) (msg : DownlinkMessage Payload) :
    replaceableStream ⟨systemId, msg⟩ msg.kind.txPriority = downlinkTelemetryStream msg := by
  obtain ⟨kind, payload⟩ := msg
  cases kind <;> rfl

/-- Offering an item keeps what all entries of a queue have in common. -/
theorem forall_entries_offer {κ : Type} {α : Type} [DecidableEq κ] {queue : LatestQueue κ α}
    (good : α → Prop) (all : ∀ entry ∈ queue.entries, good entry.2) (key : κ) {item : α}
    (offered : good item) : ∀ entry ∈ (queue.offer key item).entries, good entry.2 := by
  intro entry member
  -- An offer renews the entry under its key, or adds one at the end.
  by_cases pending : key ∈ queue.keys
  · rw [LatestQueue.entries_offer_of_mem pending] at member
    obtain ⟨before, held, rfl⟩ := List.mem_map.mp member
    rw [renewEntry]
    split
    · exact offered
    · exact all before held
  · rw [LatestQueue.entries_offer_of_notMem pending] at member
    rcases List.mem_append.mp member with held | last
    · exact all entry held
    · rw [List.mem_singleton.mp last]
      exact offered

namespace SharedMavlinkMailbox

/-- Without outgoing frames there is nothing to drain. -/
theorem drainTxBatchInto_idle {mailbox : SharedMavlinkMailbox Payload}
    (idle : mailbox.frames.tx.slots = []) (out : Nat) :
    mailbox.drainTxBatchInto out = ([], mailbox) := by
  -- An empty queue yields no frame, whatever room there is.
  have nothing : ∀ room, mailbox.frames.popTxFrame room = ([], mailbox.frames) := by
    intro room
    rw [MavlinkMailbox.popTxFrame, if_pos (by rw [idle]; rfl)]
  simp only [drainTxBatchInto, idle, List.length_nil, drainTxBatch]
  by_cases full : out = 0
  · rw [if_pos full]
  · simp only [if_neg full, nothing, List.length_nil, if_true]

end SharedMavlinkMailbox

namespace SendingCores

/-- What is always true of the two cores: no frame is encoded ahead, the messages taken out are
numbered one after the other, what was delivered are the critical ones among them, and every
message was sent. -/
structure Sound (format : PayloadFormat Payload) (cores : SendingCores Payload) : Prop where
  idle : cores.mailbox.frames.tx.slots = []
  accounted : cores.mailbox.downlink.Accounted
  encoder : cores.encoder = ⟨mavCompIdRosflightFirmware, UInt8.ofNat cores.taken.length⟩
  wire : cores.wire = (sentFrames format cores.taken).flatMap V1Frame.wire
  delivered : cores.mailbox.downlink.log.delivered = takenCritical cores.taken
  accepted : ∀ queued ∈ cores.mailbox.downlink.log.accepted,
    downlinkTelemetryStream queued.msg = none ∧ queued ∈ cores.sent
  pending : ∀ entry ∈ cores.mailbox.downlink.log.pending.entries,
    downlinkTelemetryStream entry.2.msg ≠ none ∧ entry.2 ∈ cores.sent
  taken : ∀ entry ∈ cores.taken, entry.1 ∈ cores.sent

/-- Two cores that have sent nothing are sound. -/
theorem new_sound : (new : SendingCores Payload).Sound format where
  -- Nothing was sent, accepted or taken.
  idle := rfl
  accounted := LoggedDownlink.accounted_new
  encoder := rfl
  wire := rfl
  delivered := rfl
  accepted _ absent := absurd absent List.not_mem_nil
  pending _ absent := absurd absent List.not_mem_nil
  taken _ absent := absurd absent List.not_mem_nil

variable {cores : SendingCores Payload}

/-- Handing over a message keeps the cores sound. -/
theorem Sound.send (sound : cores.Sound format) (systemId : UInt8) (msg : DownlinkMessage Payload) :
    (cores.step format (.send systemId msg)).Sound format := by
  have stepped : cores.step format (.send systemId msg) = { cores with
      sent := cores.sent ++ [⟨systemId, msg⟩]
      mailbox := { cores.mailbox with
        downlink :=
          cores.mailbox.downlink.step (.push ⟨systemId, msg⟩ msg.kind.txPriority) } } := rfl
  obtain ⟨kept, _⟩ := LoggedDownlink.log_push cores.mailbox.downlink ⟨systemId, msg⟩
    msg.kind.txPriority
  have stream := replaceableStream_txPriority systemId msg
  have earlier : ∀ {queued}, queued ∈ cores.sent → queued ∈ cores.sent ++ [⟨systemId, msg⟩] :=
    List.mem_append_left _
  have now : (⟨systemId, msg⟩ : QueuedDownlinkMessage Payload) ∈ cores.sent ++ [⟨systemId, msg⟩] :=
    List.mem_append_right _ List.mem_cons_self
  have acceptedBefore : ∀ queued ∈ cores.mailbox.downlink.log.accepted,
      downlinkTelemetryStream queued.msg = none ∧ queued ∈ cores.sent ++ [⟨systemId, msg⟩] :=
    fun queued member =>
      ⟨(sound.accepted queued member).1, earlier (sound.accepted queued member).2⟩
  have pendingBefore : ∀ entry ∈ cores.mailbox.downlink.log.pending.entries,
      downlinkTelemetryStream entry.2.msg ≠ none ∧ entry.2 ∈ cores.sent ++ [⟨systemId, msg⟩] :=
    fun entry member => ⟨(sound.pending entry member).1, earlier (sound.pending entry member).2⟩
  rw [stepped]
  refine ⟨sound.idle, sound.accounted.push _ _, sound.encoder, sound.wire,
    kept.trans sound.delivered, ?_, ?_, fun entry member => earlier (sound.taken entry member)⟩
  · -- Only messages without a stream are accepted as critical ones.
    simp only [LoggedDownlink.step]
    split
    · simp only [DownlinkLog.accept, stream]
      split
      · rename_i none
        intro queued member
        rcases List.mem_append.mp member with before | last
        · exact acceptedBefore queued before
        · rw [List.mem_singleton.mp last]
          exact ⟨none, now⟩
      · exact acceptedBefore
    · exact acceptedBefore
  · simp only [LoggedDownlink.step]
    split
    · simp only [DownlinkLog.accept, stream]
      split
      · exact pendingBefore
      · -- A message with a stream takes the place of the one pending for it.
        rename_i slot some
        refine forall_entries_offer (fun queued : QueuedDownlinkMessage Payload =>
          downlinkTelemetryStream queued.msg ≠ none ∧
            queued ∈ cores.sent ++ [⟨systemId, msg⟩]) pendingBefore slot ⟨?_, now⟩
        rw [some]
        exact Option.some_ne_none slot
    · exact pendingBefore

/-- The frames sent with one more message taken out. -/
theorem sentFrames_concat (taken : List (QueuedDownlinkMessage Payload × Bool))
    (queued : QueuedDownlinkMessage Payload) (written : Bool) :
    sentFrames format (taken ++ [(queued, written)]) = sentFrames format taken ++
      (if written then frameBuilderWithSequence format mavCompIdRosflightFirmware
        queued.systemId (UInt8.ofNat taken.length) queued.msg else none).toList := by
  -- Every message taken has one frame and one outcome, so the two lists grow alike.
  have aligned : (numberedFrames format mavCompIdRosflightFirmware 0
      (taken.map Prod.fst)).length = (taken.map Prod.snd).length := by
    rw [length_numberedFrames, List.length_map, List.length_map]
  simp only [sentFrames, List.map_append, List.map_cons, List.map_nil, numberedFrames_concat,
    List.zip_append aligned, List.zip_cons_cons, List.zip_nil_right, List.reduceOption_append,
    List.length_map, UInt8.zero_add]
  split
  · cases frameBuilderWithSequence format mavCompIdRosflightFirmware queued.systemId
      (UInt8.ofNat taken.length) queued.msg <;> rfl
  · rfl

/-- What is taken out was sent, and is a critical message that is delivered now or one of a
stream. -/
theorem Sound.popped (sound : cores.Sound format) :
    let log := cores.mailbox.downlink.log
    let next := (cores.mailbox.downlink.step .pop).log
    let popped := cores.mailbox.downlink.mailbox.popDownlinkMessage.1
    next.accepted = log.accepted ∧ (∀ entry ∈ next.pending.entries, entry ∈ log.pending.entries) ∧
      next.delivered = log.delivered ++ popped.toList.filter
        (fun queued => downlinkTelemetryStream queued.msg = none) ∧
      ∀ queued ∈ popped, queued ∈ cores.sent := by
  intro log next popped
  have expected : popped = log.expected := sound.accounted.pop.1
  have stepped : next = log.deliver log.expected := by
    rw [← expected]
    rfl
  rw [stepped, expected]
  cases waiting : log.undelivered with
  | nil =>
    -- Without critical messages it is the turn of a stream.
    simp only [DownlinkLog.deliver, DownlinkLog.expected, waiting, List.head?_nil, Option.none_or]
    refine ⟨trivial, fun entry member => List.mem_of_mem_tail member, ?_⟩
    cases first : log.pending.entries with
    | nil => simp [LatestQueue.next, first]
    | cons entry rest =>
      obtain ⟨streamed, sent⟩ := sound.pending entry (by
        rw [show cores.mailbox.downlink.log.pending.entries = entry :: rest from first]
        exact List.mem_cons_self)
      simp [LatestQueue.next, first, streamed, sent]
  | cons queued rest =>
    obtain ⟨critical, sent⟩ := sound.accepted queued (by
      have among : queued ∈ log.undelivered := by
        rw [waiting]
        exact List.mem_cons_self
      exact List.mem_of_mem_drop among)
    simp only [DownlinkLog.deliver, DownlinkLog.expected, waiting, List.head?_cons, Option.some_or]
    exact ⟨trivial, fun entry member => member, by simp [critical], by simpa using sent⟩

/-- A turn of the sending core keeps the cores sound. -/
theorem Sound.uartTx (sound : cores.Sound format) (written : Bool) :
    (cores.step format (.uartTx written)).Sound format := by
  obtain ⟨accepted, pending, delivered, sent⟩ := sound.popped
  have accounted := sound.accounted.pop.2
  have idleDrain := SharedMavlinkMailbox.drainTxBatchInto_idle sound.idle uartTxBatchBytes
  simp only [step, uartTxTask, idleDrain, List.length_nil, ne_eq, not_true_eq_false, if_false,
    SharedMavlinkMailbox.popDownlinkMessage]
  have acceptedAfter : ∀ queued ∈ (cores.mailbox.downlink.step .pop).log.accepted,
      downlinkTelemetryStream queued.msg = none ∧ queued ∈ cores.sent := by
    rw [accepted]
    exact sound.accepted
  have pendingAfter : ∀ entry ∈ (cores.mailbox.downlink.step .pop).log.pending.entries,
      downlinkTelemetryStream entry.2.msg ≠ none ∧ entry.2 ∈ cores.sent :=
    fun entry member => sound.pending entry (pending entry member)
  cases popped : cores.mailbox.downlink.mailbox.popDownlinkMessage.1 with
  | none =>
    rw [popped] at delivered
    exact ⟨sound.idle, accounted, sound.encoder, sound.wire,
      delivered.trans ((List.append_nil _).trans sound.delivered), acceptedAfter, pendingAfter,
      sound.taken⟩
  | some queued =>
    rw [popped] at delivered sent
    simp only [cores.encoder.encodeDownlink_eq queued.systemId queued.msg
      (show mavlinkV1MessageSize ≤ uartTxBatchBytes by decide)]
    refine ⟨sound.idle, accounted, ?_, ?_, ?_, acceptedAfter, pendingAfter, ?_⟩
    · -- The message has used up a number.
      rw [sound.encoder]
      simp [UInt8.ofNat_add]
    · -- The wire grows by the frame of the message, if the port takes it.
      rw [sentFrames_concat, List.flatMap_append, ← sound.wire, sound.encoder]
      cases written
      · simp
      · cases frameBuilderWithSequence format mavCompIdRosflightFirmware queued.systemId
          (UInt8.ofNat cores.taken.length) queued.msg <;> simp
    · refine delivered.trans ?_
      rw [sound.delivered]
      simp [takenCritical]
    · intro entry member
      rcases List.mem_append.mp member with before | last
      · exact sound.taken entry before
      · rw [List.mem_singleton.mp last]
        exact sent queued rfl

/-- Two cores are sound in every run. -/
theorem run_sound (steps : List (SendingStep Payload)) :
    (run (step format) (new : SendingCores Payload) steps).Sound format := by
  refine run_invariant ?_ new_sound steps
  rintro cores (⟨systemId, msg⟩ | ⟨written⟩) sound
  · exact sound.send systemId msg
  · exact sound.uartTx written

/-- In any run the other end of the line reads back exactly the frames of the messages taken out
whose bytes the port took, numbered in the order in which they were taken out. Every one of them was
sent, and the accepted critical messages are taken out once each and in order. -/
theorem run_read_back (steps : List (SendingStep Payload)) :
    let cores := run (step format) (new : SendingCores Payload) steps
    (∃ next emitted, MavlinkParser.new.feedBytes cores.wire = .ok (next, emitted) ∧
      emitted.map CompleteFrame.bytes = (sentFrames format cores.taken).map V1Frame.wire) ∧
    (∀ entry ∈ cores.taken, entry.1 ∈ cores.sent) ∧
    cores.mailbox.downlink.log.accepted =
      takenCritical cores.taken ++ cores.mailbox.downlink.mailbox.downlinkCritical.items := by
  intro cores
  have sound : cores.Sound format := run_sound steps
  -- The wire is the frames sent, and a fresh parser reads frames back one by one.
  obtain ⟨next, emitted, fed, _, bytes⟩ := MavlinkParser.feedBytes_wires
    (show MavlinkParser.new.state = .waitingForStart from rfl) (sentFrames format cores.taken)
  refine ⟨⟨next, emitted, by rwa [sound.wire], bytes⟩, sound.taken, ?_⟩
  rw [← sound.delivered]
  exact sound.accounted.critical

end SendingCores

end Veloxity
