import Veloxity.Boards.MailboxLaws
import Veloxity.Boards.ReceivingCores
import Veloxity.Comms.FrameEncoder

/-! Frames of a priority that does not fill the queue all reach the core that takes them. -/

namespace Veloxity

open Library

namespace FrameQueue

/-- Removing a slot keeps the others. -/
theorem perm_withoutSlot (before after : List FrameSlot) (removed : FrameSlot) :
    (before ++ removed :: after).Perm
      (removed :: withoutSlot (before ++ removed :: after) before.length) := by
  -- The last frame moves into the hole, if it is not itself the one removed.
  rcases List.eq_nil_or_concat after with rfl | ⟨between, last, rfl⟩
  · rw [withoutSlot_last]
    exact List.perm_append_singleton removed before
  · rw [List.concat_eq_append, withoutSlot_inner]
    refine List.perm_middle.trans (List.Perm.cons removed ?_)
    exact (List.perm_append_singleton last between).append_left before

/-- The slot of the highest priority is one of the occupied ones, and freeing it keeps the
others. -/
theorem perm_removeSlot_highest {maxBytes capacity : Nat} {queue : FrameQueue maxBytes capacity}
    (occupied : queue.slots ≠ []) :
    let slot := highestPrioritySlot queue.slots
    queue.slots.Perm (queue.slots.getD slot default :: (queue.removeSlot slot).slots) := by
  intro slot
  -- The slots split around the best one, and removing it joins what is on either side.
  obtain ⟨before, best, after, split, position, -⟩ := highestPrioritySlot_spec occupied
  have found : queue.slots.getD slot default = best := by
    simp only [slot, position]
    rw [split]
    simp [List.getD_eq_getElem?_getD]
  have rest := perm_withoutSlot before after best
  rw [← split, ← position] at rest
  rw [found]
  exact rest

end FrameQueue

namespace Candidate

/-- The bytes of a frame that checks out include a header and a checksum. -/
theorem length_of_step_some {candidate : Candidate} (formed : candidate.WellFormed) {byte : UInt8}
    {bytes : List UInt8} (checked : (candidate.step byte).2 = some bytes) : 8 ≤ bytes.length := by
  -- Only the last byte of a checksum completes a frame.
  obtain ⟨held, phase⟩ := candidate
  cases phase with
  | waitingForStart => simp only [step] at checked; split at checked <;> cases checked
  | readingHeader => simp only [step] at checked; split at checked <;> cases checked
  | readingPayload expectedLen => simp only [step] at checked; split at checked <;> cases checked
  | readingChecksum bytesRemaining =>
    obtain ⟨-, enough⟩ := formed
    simp only [step] at checked enough
    split at checked
    · rename_i last
      split at checked
      · cases checked
        rw [List.length_append, List.length_singleton]
        omega
      · cases checked
    · cases checked

end Candidate

namespace ReceivingCores

open FrameQueue

variable {cores : ReceivingCores}

/-- The slots of frames that wait. -/
def waiting (cores : ReceivingCores) : List FrameSlot := cores.mailbox.rx.slots

/-- A full queue holds a frame of the lowest priority, which is below every one whose frames do not
fill the queue. -/
theorem lowest_of_full (full : rxFrameCapacity ≤ cores.waiting.length) :
    ∃ before lowest after, cores.waiting = before ++ lowest :: after ∧
      lowestPrioritySlot cores.waiting = before.length ∧
      cores.mailbox.lowestRxPrioritySlot = some before.length ∧
      ∀ level : UInt8, (cores.waiting.filter fun slot => level ≤ slot.priority).length <
        rxFrameCapacity → lowest.priority < level := by
  have occupied : cores.waiting ≠ [] := by
    intro empty
    rw [empty] at full
    exact absurd full (by decide)
  obtain ⟨before, lowest, after, split, position, earlier, later⟩ :=
    lowestPrioritySlot_spec occupied
  refine ⟨before, lowest, after, split, position, ?_, ?_⟩
  · have some : cores.mailbox.rx.slots.length ≠ 0 := mt List.length_eq_zero_iff.mp occupied
    rw [MavlinkMailbox.lowestRxPrioritySlot, if_neg some]
    exact congrArg Option.some position
  · intro level room
    -- If the lowest frame reached the level, all of them would.
    by_contra high
    have reaches : level.toNat ≤ lowest.level := UInt8.le_iff_toNat_le.mp (UInt8.not_lt.mp high)
    have all : ∀ slot ∈ cores.waiting, decide (level ≤ slot.priority) = true := by
      intro slot member
      rw [decide_eq_true_eq, UInt8.le_iff_toNat_le]
      rw [split] at member
      have least : lowest.level ≤ slot.level := by
        rcases List.mem_append.mp member with ahead | behind
        · exact (OrderDual.toDual_lt_toDual.mp (earlier slot ahead)).le
        · rcases List.mem_cons.mp behind with rfl | behind
          · exact le_refl _
          · exact OrderDual.toDual_le_toDual.mp (later slot behind)
      exact reaches.trans least
    rw [List.filter_eq_self.mpr all] at room
    omega

/-- A frame that is offered waits or is lost, perhaps for one that waited, and nothing else moves.
What is lost has a priority below every one whose frames do not fill the queue. -/
theorem pushRxFrame_spec (cores : ReceivingCores) (bytes : List UInt8)
    (fits : bytes.length ≤ serialRxFrameMaxBytes) (priority : UInt8) :
    ∃ lost : List FrameSlot, (cores.pushRxFrame bytes priority).lost = cores.lost ++ lost ∧
      (cores.waiting ++ [FrameSlot.mk bytes priority]).Perm
        ((cores.pushRxFrame bytes priority).waiting ++ lost) ∧
      ∀ level : UInt8, (cores.waiting.filter fun slot => level ≤ slot.priority).length <
          rxFrameCapacity → ∀ slot ∈ lost, slot.priority < level := by
  have short : ¬ serialRxFrameMaxBytes < bytes.length := by omega
  by_cases room : cores.waiting.length < rxFrameCapacity
  · -- There is a free slot.
    have free : cores.mailbox.rx.slots.length < rxFrameCapacity := room
    refine ⟨[], ?_, ?_, fun _ _ slot absent => absurd absent List.not_mem_nil⟩
    · simp [pushRxFrame, MavlinkMailbox.pushRxFrame, FrameQueue.pushFrame, short, free]
    · simp [pushRxFrame, MavlinkMailbox.pushRxFrame, FrameQueue.pushFrame, short, free, waiting]
  obtain ⟨before, lowest, after, split, position, chosen, least⟩ :=
    lowest_of_full (Nat.le_of_not_lt room)
  have full : ¬ cores.mailbox.rx.slots.length < rxFrameCapacity := room
  have stored : priorityAt cores.mailbox.rx.slots before.length = lowest.priority := by
    rw [show cores.mailbox.rx.slots = before ++ lowest :: after from split]
    exact priorityAt_append_cons before after lowest
  have found : (cores.mailbox.rx.slots[lowestPrioritySlot cores.mailbox.rx.slots]?).getD default =
      lowest := by
    rw [show lowestPrioritySlot cores.mailbox.rx.slots = before.length from position,
      show cores.mailbox.rx.slots = before ++ lowest :: after from split]
    simp
  by_cases higher : lowest.priority < priority
  · -- The lowest frame gives way.
    have replaces : ¬ priority ≤ lowest.priority := UInt8.not_le.mpr higher
    refine ⟨[lowest], ?_, ?_, ?_⟩
    · simp [pushRxFrame, MavlinkMailbox.pushRxFrame, FrameQueue.pushFrame, short, full, chosen,
        stored, replaces, found]
    · have slots : (cores.pushRxFrame bytes priority).waiting =
          before ++ ⟨bytes, priority⟩ :: after := by
        simp [pushRxFrame, MavlinkMailbox.pushRxFrame, FrameQueue.pushFrame, short, full, chosen,
          stored, replaces, waiting]
        rw [show cores.mailbox.rx.slots = before ++ lowest :: after from split]
        simp
      rw [slots, split]
      refine (List.perm_append_singleton _ _).trans ?_
      refine List.Perm.trans ?_ (List.perm_append_singleton _ _).symm
      exact ((List.perm_middle).cons _).trans ((List.Perm.swap _ _ _).trans
        ((List.perm_middle).symm.cons _))
    · intro level fewer slot member
      rw [List.mem_singleton.mp member]
      exact least level fewer
  · -- The frame itself is refused.
    have refused : priority ≤ lowest.priority := UInt8.not_lt.mp higher
    refine ⟨[⟨bytes, priority⟩], ?_, ?_, ?_⟩
    · simp [pushRxFrame, MavlinkMailbox.pushRxFrame, FrameQueue.pushFrame, short, full, chosen,
        stored, refused]
    · simp [pushRxFrame, MavlinkMailbox.pushRxFrame, FrameQueue.pushFrame, short, full, chosen,
        stored, refused, waiting]
    · intro level fewer slot member
      rw [List.mem_singleton.mp member]
      exact UInt8.lt_of_le_of_lt refused (least level fewer)

/-- Each frame put out has been taken, waits or was lost, and those not taken have the priority of
their message. -/
structure Accounted (cores : ReceivingCores) : Prop where
  kept : cores.emitted.Perm (cores.taken ++ cores.held ++ cores.lost.map FrameSlot.bytes)
  graded : ∀ slot ∈ cores.waiting ++ cores.lost,
    slot.priority = mavlinkRxPriority (slot.bytes.getD 5 0)

/-- What is always true of the two cores: the frames put out are those the parser reads in the bytes
received, and they are accounted for. -/
structure Sound (cores : ReceivingCores) : Prop where
  parsed : ∀ parser, cores.parser = some parser → ∃ outputs,
    MavlinkParser.new.feedBytes cores.received = .ok (parser, outputs) ∧
      cores.emitted = outputs.map CompleteFrame.bytes
  panicked : cores.parser = none →
    ∃ reason, MavlinkParser.new.feedBytes cores.received = .error reason
  accounted : cores.Accounted

/-- Two cores that have received nothing are sound. -/
theorem new_sound : new.Sound where
  parsed parser given := ⟨[], by cases given; rfl, rfl⟩
  panicked given := by cases given
  accounted := ⟨List.Perm.refl _, fun _ absent => absurd absent List.not_mem_nil⟩

/-- A frame that is put out and offered keeps the frames accounted for. -/
theorem Accounted.push (accounted : cores.Accounted) {bytes : List UInt8}
    (fits : bytes.length ≤ serialRxFrameMaxBytes) :
    ({ cores with emitted := cores.emitted ++ [bytes] }.pushRxFrame bytes
      (mavlinkRxPriority (bytes.getD 5 0))).Accounted := by
  obtain ⟨lost, all, kept, -⟩ := pushRxFrame_spec
    { cores with emitted := cores.emitted ++ [bytes] } bytes fits
    (mavlinkRxPriority (bytes.getD 5 0))
  generalize given : { cores with emitted := cores.emitted ++ [bytes] }.pushRxFrame bytes
    (mavlinkRxPriority (bytes.getD 5 0)) = next at all kept ⊢
  have emitted : next.emitted = cores.emitted ++ [bytes] := by rw [← given]; rfl
  have taken : next.taken = cores.taken := by rw [← given]; rfl
  -- The frames that waited and the new one are those that wait now and those just lost.
  have moved : (cores.waiting ++ [FrameSlot.mk bytes (mavlinkRxPriority (bytes.getD 5 0))]).Perm
      (next.waiting ++ lost) := kept
  constructor
  · -- The new frame is either among those that wait now or among those just lost.
    have heldNow : (cores.held ++ [bytes]).Perm (next.held ++ lost.map FrameSlot.bytes) := by
      have mapped := moved.map FrameSlot.bytes
      rwa [List.map_append, List.map_append] at mapped
    rw [emitted, taken, all, List.map_append]
    have first : (cores.emitted ++ [bytes]).Perm
        (cores.taken ++ (cores.held ++ [bytes]) ++ cores.lost.map FrameSlot.bytes) := by
      refine (accounted.kept.append_right [bytes]).trans ?_
      simp only [List.append_assoc]
      exact (List.perm_append_comm.append_left _).append_left _
    refine (first.trans ((heldNow.append_left _).append_right _)).trans ?_
    simp only [List.append_assoc]
    exact (List.perm_append_comm.append_left _).append_left _
  · -- A slot that is lost was lost earlier, waited before, or holds the new frame.
    intro slot member
    rw [all] at member
    have among : slot ∈ cores.lost ∨ slot ∈ next.waiting ++ lost := by
      simp only [List.mem_append] at member ⊢
      tauto
    rcases among with earlier | now
    · exact accounted.graded slot (List.mem_append_right _ earlier)
    · rcases List.mem_append.mp (moved.mem_iff.mpr now) with before | added
      · exact accounted.graded slot (List.mem_append_left _ before)
      · rw [List.mem_singleton.mp added]

/-- The task that receives has panicked, or panics at the byte, or reads on, or offers a frame that
fits at the priority of its message. -/
theorem Sound.uartRx_cases (sound : cores.Sound) (byte : UInt8) :
    (cores.parser = none ∧ cores.step (.uartRx byte) = cores) ∨
    ∃ parser, cores.parser = some parser ∧
      ((∃ reason, parser.feedByte byte = .error reason ∧ cores.step (.uartRx byte) =
          { cores with received := cores.received ++ [byte], parser := none }) ∨
      (∃ next, parser.feedByte byte = .ok (next, none) ∧ cores.step (.uartRx byte) =
          { cores with received := cores.received ++ [byte], parser := some next }) ∨
      ∃ next frame, parser.feedByte byte = .ok (next, some frame) ∧
        frame.bytes.length ≤ serialRxFrameMaxBytes ∧ cores.step (.uartRx byte) =
          { cores with
            received := cores.received ++ [byte], parser := some next
            emitted := cores.emitted ++ [frame.bytes] }.pushRxFrame frame.bytes
            (mavlinkRxPriority (frame.bytes.getD 5 0))) := by
  cases present : cores.parser with
  | none => exact Or.inl ⟨rfl, by simp only [step, uartRxTask, present]⟩
  | some parser =>
    refine Or.inr ⟨parser, rfl, ?_⟩
    obtain ⟨outputs, fed, -⟩ := sound.parsed parser present
    have tracks := MavlinkParser.tracks_of_reached fed
    cases read : parser.feedByte byte with
    | error reason => exact Or.inl ⟨reason, rfl, by simp only [step, uartRxTask, present, read]⟩
    | ok result =>
      obtain ⟨next, output⟩ := result
      cases output with
      | none =>
        exact Or.inr (Or.inl ⟨next, rfl, by simp only [step, uartRxTask, present, read]⟩)
      | some frame =>
        -- A frame is long enough to have an identifier, and no longer than its buffer.
        obtain ⟨-, -, shown⟩ := tracks.feedByte read
        have long : 8 ≤ frame.bytes.length :=
          Candidate.length_of_step_some tracks.formed shown.symm
        have fits : frame.bytes.length ≤ serialRxFrameMaxBytes := by
          rw [CompleteFrame.bytes, List.length_take, Vector.length_toList]
          exact Nat.min_le_right _ _
        have identifier : frame.data[5] = frame.bytes.getD 5 0 := by
          rw [List.getD_eq_getElem _ _ (by omega)]
          simp [CompleteFrame.bytes]
        refine Or.inr (Or.inr ⟨next, frame, rfl, fits, ?_⟩)
        simp only [step, uartRxTask, present, read, identifier]
        rfl

/-- Reading a byte keeps the cores sound. -/
theorem Sound.uartRx (sound : cores.Sound) (byte : UInt8) :
    (cores.step (.uartRx byte)).Sound := by
  have cases := sound.uartRx_cases byte
  obtain ⟨parsed, panicked, accounted⟩ := sound
  rcases cases with ⟨-, same⟩ | ⟨parser, present, outcome⟩
  · rw [same]
    exact ⟨parsed, panicked, accounted⟩
  obtain ⟨outputs, fed, emitted⟩ := parsed parser present
  rw [MavlinkParser.feedBytes] at fed
  -- One more byte is fed to what the parser has read so far.
  rcases outcome with ⟨reason, read, same⟩ | ⟨next, read, same⟩ | ⟨next, frame, read, fits, same⟩
  · rw [same]
    refine ⟨fun _ given => (by cases given), fun _ => ⟨reason, ?_⟩, accounted.1, accounted.2⟩
    rw [MavlinkParser.feedBytes, feedAll_append_of_ok fed, feedAll_cons_error [] read]
    rfl
  · rw [same]
    refine ⟨fun _ given => ⟨outputs, ?_, emitted⟩, fun given => (by cases given),
      accounted.1, accounted.2⟩
    cases given
    rw [MavlinkParser.feedBytes, feedAll_append_of_ok fed, feedAll_cons_ok [] read]
    simp [Except.map]
  · -- A frame that is put out keeps the account only together with its offer.
    have advanced : Accounted { cores with
        received := cores.received ++ [byte], parser := some next } :=
      ⟨accounted.kept, accounted.graded⟩
    rw [same]
    refine ⟨fun _ given => ⟨outputs ++ [frame], ?_, ?_⟩, fun given => ?_, advanced.push fits⟩
    · cases given
      show feedAll _ _ (cores.received ++ [byte]) = _
      rw [feedAll_append_of_ok fed, feedAll_cons_ok [] read]
      rfl
    · rw [List.map_append, ← emitted]
      rfl
    · cases given

/-- Taking a frame keeps the cores sound. -/
theorem Sound.serialRxFrameRead (sound : cores.Sound) : (cores.step .serialRxFrameRead).Sound := by
  obtain ⟨parsed, panicked, kept, graded⟩ := sound
  by_cases empty : cores.mailbox.rx.slots.length = 0
  · have same : cores.step .serialRxFrameRead = cores := by
      simp only [step, MavlinkMailbox.popRxFrame, if_pos empty]
    rw [same]
    exact ⟨parsed, panicked, kept, graded⟩
  · -- What is taken leaves the others waiting.
    have occupied : cores.mailbox.rx.slots ≠ [] := mt List.length_eq_zero_iff.mpr empty
    have removed := perm_removeSlot_highest occupied
    set slot := highestPrioritySlot cores.mailbox.rx.slots with chosen
    have next : cores.step .serialRxFrameRead = { cores with
        mailbox := cores.mailbox.removeRxSlot slot
        taken := cores.taken ++ [(cores.mailbox.rx.slots.getD slot default).bytes] } := by
      simp only [step, MavlinkMailbox.popRxFrame, if_neg empty]
      rfl
    rw [next]
    refine ⟨parsed, panicked, ?_, ?_⟩
    · have moved := removed.map FrameSlot.bytes
      rw [List.map_cons] at moved
      refine kept.trans ?_
      refine List.Perm.append_right _ ?_
      rw [List.append_assoc]
      exact moved.append_left _
    · intro other member
      refine graded other ?_
      rcases List.mem_append.mp member with still | lost
      · exact List.mem_append_left _ (removed.mem_iff.mpr (List.mem_cons_of_mem _ still))
      · exact List.mem_append_right _ lost

/-- Every step keeps the cores sound. -/
theorem Sound.step (sound : cores.Sound) (input : ReceivingStep) : (cores.step input).Sound := by
  cases input with
  | uartRx byte => exact sound.uartRx byte
  | serialRxFrameRead => exact sound.serialRxFrameRead

/-- Two cores are sound in every run. -/
theorem run_sound (steps : List ReceivingStep) : (run ReceivingCores.step new steps).Sound :=
  run_invariant (fun _ input sound => sound.step input) new_sound steps

/-- The cores are sound, and have lost only frames of a priority below a level. -/
structure Spares (level : UInt8) (cores : ReceivingCores) : Prop where
  sound : cores.Sound
  below : ∀ slot ∈ cores.lost, slot.priority < level

/-- A step that keeps room for a level loses only frames below it. -/
theorem Spares.step {level : UInt8} (spares : cores.Spares level) {input : ReceivingStep}
    (room : cores.RoomFor level input) : (cores.step input).Spares level := by
  refine ⟨spares.sound.step input, ?_⟩
  obtain ⟨sound, below⟩ := spares
  cases input with
  | uartRx byte =>
    rcases sound.uartRx_cases byte with ⟨-, same⟩ | ⟨parser, -, ⟨reason, -, same⟩ |
      ⟨next, -, same⟩ | ⟨next, frame, -, fits, same⟩⟩
    · rwa [same]
    · rwa [same]
    · rwa [same]
    · -- Only an offer can lose a frame.
      obtain ⟨lost, all, -, least⟩ := pushRxFrame_spec
        { cores with
          received := cores.received ++ [byte], parser := some next
          emitted := cores.emitted ++ [frame.bytes] } frame.bytes fits
        (mavlinkRxPriority (frame.bytes.getD 5 0))
      rw [same, all]
      intro slot member
      rcases List.mem_append.mp member with earlier | now
      · exact below slot earlier
      · exact least level room slot now
  | serialRxFrameRead =>
    have same : (cores.step .serialRxFrameRead).lost = cores.lost := by
      simp only [ReceivingCores.step]
      split <;> rfl
    rwa [same]

/-- A run that keeps room for a level loses only frames below it. -/
theorem run_spares {steps : List ReceivingStep} {level : UInt8}
    (room : Along (RoomFor level) ReceivingCores.step new steps) :
    (run ReceivingCores.step new steps).Spares level := by
  refine run_invariant_along ?_ ⟨new_sound, fun _ absent => absurd absent List.not_mem_nil⟩ room
  intro cores input spares lawful
  exact spares.step lawful

/-- The parser of sound cores reads what is the start of frames written one after the other, and
puts out exactly those of them that are complete in it. -/
theorem Sound.reads (sound : cores.Sound) {frames : List V1Frame}
    (clean : cores.received <+: frames.flatMap V1Frame.wire) :
    cores.parser ≠ none ∧
      cores.emitted = (V1Frame.complete frames cores.received.length).map V1Frame.wire := by
  obtain ⟨next, outputs, fed, wires⟩ := MavlinkParser.feedBytes_front
    (show MavlinkParser.new.state = .waitingForStart from rfl) clean
  -- What was received is read without a panic.
  have present : cores.parser ≠ none := by
    intro absent
    obtain ⟨reason, failed⟩ := sound.panicked absent
    rw [fed] at failed
    cases failed
  obtain ⟨parser, given⟩ := Option.ne_none_iff_exists'.mp present
  obtain ⟨read, same, emitted⟩ := sound.parsed parser given
  rw [fed] at same
  cases same
  exact ⟨present, emitted.trans wires⟩

/-- A step of a core with a parser adds the byte it reads to those received, and without one nothing
is received. -/
theorem step_received (cores : ReceivingCores) (input : ReceivingStep) :
    (cores.parser = none ∧ (cores.step input).parser = none ∧
        (cores.step input).received = cores.received) ∨
      (cores.parser ≠ none ∧
        (cores.step input).received = cores.received ++ input.byte.toList) := by
  cases present : cores.parser with
  | none =>
    left
    cases input with
    | uartRx byte => simp only [step, uartRxTask, present, and_self]
    | serialRxFrameRead =>
      simp only [step]
      split <;> exact ⟨trivial, present, rfl⟩
  | some parser =>
    refine .inr ⟨Option.some_ne_none parser, ?_⟩
    cases input with
    | uartRx byte =>
      -- Whatever becomes of the byte, it was read.
      cases read : parser.feedByte byte with
      | error reason => simp only [step, uartRxTask, present, read]; rfl
      | ok result =>
        obtain ⟨next, output⟩ := result
        cases output with
        | none => simp only [step, uartRxTask, present, read]; rfl
        | some frame => simp only [step, uartRxTask, present, read]; rfl
    | serialRxFrameRead =>
      simp only [step]
      split <;> exact (List.append_nil _).symm

/-- What was received is the start of the bytes read, and all of them unless the parser has
panicked. -/
theorem run_received (steps : List ReceivingStep) :
    (run step new steps).received <+: steps.filterMap ReceivingStep.byte ∧
      ((run step new steps).parser ≠ none →
        (run step new steps).received = steps.filterMap ReceivingStep.byte) := by
  -- The induction is on the run, grown by one step at its end.
  induction steps using List.reverseRecOn with
  | nil => exact ⟨List.prefix_refl _, fun _ => rfl⟩
  | append_singleton steps input ih =>
    obtain ⟨front, all⟩ := ih
    have bytes : (steps ++ [input]).filterMap ReceivingStep.byte =
        steps.filterMap ReceivingStep.byte ++ input.byte.toList := by
      rw [List.filterMap_append]
      cases input <;> rfl
    rw [run_concat, bytes]
    -- A byte is dropped only once the parser has panicked, and it stays panicked.
    rcases step_received (run step new steps) input with
      ⟨_, absent, same⟩ | ⟨present, added⟩
    · rw [same]
      exact ⟨front.trans (List.prefix_append _ _), fun present => absurd absent present⟩
    · rw [added, all present]
      exact ⟨List.prefix_refl _, fun _ => rfl⟩

/-- What was lost is below a level that the cores spare, as the messages of the frames tell. -/
theorem Spares.lost {level : UInt8} (spares : cores.Spares level) :
    ∀ slot ∈ cores.lost, mavlinkRxPriority (slot.bytes.getD 5 0) < level := by
  intro slot member
  rw [← spares.sound.accounted.graded slot (List.mem_append_right _ member)]
  exact spares.below slot member

/-- In a run in which frames of a priority from a level on never fill the queue, and in which the
bytes read are the start of frames written one after the other, the parser does not panic and puts
out exactly those of these frames that are complete in the bytes read, in order. Each of them is
taken once, waits or was lost, and only frames of messages below the level are lost. -/
theorem run_hands_over {steps : List ReceivingStep} {level : UInt8} {frames : List V1Frame}
    (room : Along (RoomFor level) step new steps)
    (clean : steps.filterMap ReceivingStep.byte <+: frames.flatMap V1Frame.wire) :
    let cores := run step new steps
    cores.parser ≠ none ∧
      cores.emitted = (V1Frame.complete frames
        (steps.filterMap ReceivingStep.byte).length).map V1Frame.wire ∧
      cores.emitted.Perm (cores.taken ++ cores.held ++ cores.lost.map FrameSlot.bytes) ∧
      ∀ slot ∈ cores.lost, mavlinkRxPriority (slot.bytes.getD 5 0) < level := by
  intro cores
  have sound : cores.Sound := run_sound steps
  -- What the parser has read is a front of the bytes, and all of them if it never panicked.
  obtain ⟨front, all⟩ := run_received steps
  obtain ⟨present, emitted⟩ := sound.reads (front.trans clean)
  rw [← all present]
  exact ⟨present, emitted, sound.accounted.kept, (run_spares room).lost⟩

/-- A heartbeat and half of another are read, and one frame is asked for. -/
def heartbeatSteps : List ReceivingStep :=
  (MavlinkParser.heartbeatFrame.wire ++ MavlinkParser.heartbeatFrame.wire.take 4).map
    ReceivingStep.uartRx ++ [.serialRxFrameRead]

/-- Only the whole heartbeat is put out, and it is taken. -/
theorem run_hands_over_heartbeats :
    (run step new heartbeatSteps).emitted = [MavlinkParser.heartbeatFrame.wire] ∧
      (run step new heartbeatSteps).taken = [MavlinkParser.heartbeatFrame.wire] := by
  have room : Along (RoomFor 0) step new heartbeatSteps := by decide +kernel
  -- The bytes are one heartbeat and the first half of another.
  have clean : heartbeatSteps.filterMap ReceivingStep.byte <+:
      [MavlinkParser.heartbeatFrame, MavlinkParser.heartbeatFrame].flatMap V1Frame.wire := by
    decide +kernel
  obtain ⟨-, emitted, -, -⟩ := run_hands_over room clean
  exact ⟨emitted.trans (by decide +kernel), by decide +kernel⟩

end ReceivingCores

end Veloxity
