import Mathlib.Data.List.DropRight
import Veloxity.Library.Settling
import Veloxity.Tools.FramePacker

/-! Cutting the byte stream differently changes nothing the frame packer does. -/

namespace Veloxity

open Library

/-- A copy that fits puts the bytes behind those held. -/
theorem memcpy_eq {size : Nat} {held source : List UInt8} {offset len : Nat}
    (room : held.length + len ≤ size) (inside : offset + len ≤ source.length) :
    memcpy size held source offset len = .ok (held ++ (source.drop offset).take len) := by
  -- Both checks pass.
  rw [memcpy, if_pos ⟨room, inside⟩]

/-- Moving everything from an offset on to the front drops what stands before it. -/
theorem memmove_eq {size : Nat} {held : List UInt8} {offset : Nat} (fits : held.length ≤ size)
    (inside : offset ≤ held.length) :
    memmove size held offset (held.length - offset) = .ok (held.drop offset) := by
  -- The bytes moved are all that remain behind the offset.
  rw [memmove, if_pos ⟨fits, by omega⟩, List.take_of_length_le (Nat.le_of_eq List.length_drop)]

namespace MavlinkFramePacker

/-- The packer never holds more than its buffers and its packets may. -/
structure InBounds (packer : MavlinkFramePacker) : Prop where
  rx_bounded : packer.rx.length ≤ framePackerRxSize
  packet_bounded : packer.packet.length ≤ packer.maxPacketLen
  max_bounded : packer.maxPacketLen ≤ mavlinkFramePackerMaxPacket

/-- A packer stays in bounds when it receives no more and keeps its packet. -/
theorem InBounds.of_shorter {packer other : MavlinkFramePacker} (bounded : packer.InBounds)
    (shorter : other.rx.length ≤ packer.rx.length) (packet : other.packet = packer.packet)
    (max : other.maxPacketLen = packer.maxPacketLen) : other.InBounds where
  -- The bounds are upper ones, and the packet is the same.
  rx_bounded := Nat.le_trans shorter bounded.rx_bounded
  packet_bounded := by
    rw [packet, max]
    exact bounded.packet_bounded
  max_bounded := by
    rw [max]
    exact bounded.max_bounded

/-- An empty packer is in bounds. -/
theorem init_inBounds (maxPacketLen : Nat) : (init maxPacketLen).InBounds where
  rx_bounded := Nat.zero_le _
  packet_bounded := Nat.zero_le _
  max_bounded := by
    -- A larger limit is replaced by the size of the buffer.
    simp only [init]
    split <;> omega

/-- Compacting drops the bytes that cannot start a frame. -/
theorem compactRx_eq {packer : MavlinkFramePacker}
    (bounded : packer.rx.length ≤ framePackerRxSize) :
    packer.compactRx = .ok { packer with rx := packer.rx.dropWhile (· != mavlinkV1Stx) } := by
  -- The loop stops at the byte from which on nothing is dropped.
  have dropped : packer.rx.dropWhile (· != mavlinkV1Stx) =
      packer.rx.drop (packer.rx.findIdx (· == mavlinkV1Stx)) := by
    rw [List.dropWhile_eq_drop_findIdx_not]
    simp [bne]
  have inside : packer.rx.findIdx (· == mavlinkV1Stx) ≤ packer.rx.length :=
    List.findIdx_le_length
  rw [compactRx, dropped]
  by_cases front : packer.rx.findIdx (· == mavlinkV1Stx) = 0
  · simp [front]
  · rw [if_neg front]
    by_cases found : packer.rx.findIdx (· == mavlinkV1Stx) < packer.rx.length
    · rw [if_pos found, memmove_eq bounded inside]
      rfl
    · rw [if_neg found, List.drop_eq_nil_of_le (by omega)]

end MavlinkFramePacker

/-- What a packer at work shows of itself: its state and the packets it has handed out. -/
structure PackerScan where
  packer : MavlinkFramePacker
  emitted : List (List UInt8)

namespace PackerScan

variable (emit : List UInt8 → Bool)

/-- Replace the bytes received and not yet used. -/
def withRx (scan : PackerScan) (rx : List UInt8) : PackerScan :=
  { scan with packer := { scan.packer with rx } }

/-- More bytes arrive behind those not yet used. -/
def feed (scan : PackerScan) (bytes : List UInt8) : PackerScan :=
  scan.withRx (scan.packer.rx ++ bytes)

/-- Drop the received bytes before the next one that may start a frame. -/
def compacted (scan : PackerScan) : PackerScan :=
  scan.withRx (scan.packer.rx.dropWhile (· != mavlinkV1Stx))

/-- Use up the first byte of a frame that fits into no packet. -/
def skipped (scan : PackerScan) : PackerScan :=
  { scan with packer := { scan.packer with
      rx := scan.packer.rx.tail
      drops := scan.packer.drops + 1 } }

/-- Hand out the packet being filled. -/
def sent (scan : PackerScan) : PackerScan where
  packer := { scan.packer with
    packet := []
    drops := if emit scan.packer.packet then scan.packer.drops else scan.packer.drops + 1 }
  emitted := scan.emitted ++ [scan.packer.packet]

/-- Make room for a frame of the given length in the packet being filled. -/
def makeRoom (scan : PackerScan) (frameLen : Nat) : PackerScan :=
  if 0 < scan.packer.packet.length ∧
      scan.packer.maxPacketLen < scan.packer.packet.length + frameLen then scan.sent emit
  else scan

/-- Append the first bytes received to the packet being filled. -/
def packed (scan : PackerScan) (frameLen : Nat) : PackerScan :=
  { scan with packer := { scan.packer with
      rx := scan.packer.rx.drop frameLen
      packet := scan.packer.packet ++ scan.packer.rx.take frameLen
      frames := scan.packer.frames + 1 } }

/-- The length of the frame whose second byte is given. -/
def frameLength (second : UInt8) : Nat :=
  mavlinkV1HeaderLen + second.toNat + mavlinkV1ChecksumLen

/-- Use up one byte or one frame of what was received, unless more bytes are needed to tell. -/
def step (scan : PackerScan) : Option PackerScan :=
  match scan.packer.rx with
  | [] => none
  | first :: rest =>
    if first ≠ mavlinkV1Stx then some (scan.withRx rest)
    else
      match rest with
      | [] => none
      | second :: _ =>
        if scan.packer.rx.length < mavlinkV1HeaderLen then none
        else if scan.packer.maxPacketLen < frameLength second then some scan.skipped
        else if scan.packer.rx.length < frameLength second then none
        else some ((scan.makeRoom emit (frameLength second)).packed (frameLength second))

section Steps

variable {emit} {scan : PackerScan} {first second : UInt8} {rest : List UInt8}

/-- Making room leaves the received bytes alone. -/
@[simp] theorem makeRoom_rx (frameLen : Nat) :
    (scan.makeRoom emit frameLen).packer.rx = scan.packer.rx := by
  -- Handing a packet out changes only the packet and a counter.
  rw [makeRoom]
  split <;> rfl

@[simp] theorem makeRoom_maxPacketLen (frameLen : Nat) :
    (scan.makeRoom emit frameLen).packer.maxPacketLen = scan.packer.maxPacketLen := by
  -- The limit never changes.
  rw [makeRoom]
  split <;> rfl

/-- There is room for a frame that fits into a packet once room has been made for it. -/
theorem makeRoom_fits {frameLen : Nat} (fits : frameLen ≤ scan.packer.maxPacketLen) :
    (scan.makeRoom emit frameLen).packer.packet.length + frameLen ≤
      scan.packer.maxPacketLen := by
  -- An empty packet has room for the frame, and another one is kept only if it has.
  rw [makeRoom]
  split
  · simpa [sent] using fits
  · omega

/-- Making room does not look at the received bytes. -/
theorem makeRoom_feed (frameLen : Nat) (bytes : List UInt8) :
    (scan.feed bytes).makeRoom emit frameLen = (scan.makeRoom emit frameLen).feed bytes := by
  -- The packet and the limit are those of the scan without the bytes.
  by_cases full : 0 < scan.packer.packet.length ∧
      scan.packer.maxPacketLen < scan.packer.packet.length + frameLen
  · rw [makeRoom, makeRoom, if_pos full, if_pos (by exact full)]
    rfl
  · rw [makeRoom, makeRoom, if_neg full, if_neg (by exact full)]

/-- Packing a frame leaves the bytes behind it alone. -/
theorem packed_feed {frameLen : Nat} (bytes : List UInt8)
    (whole : frameLen ≤ scan.packer.rx.length) :
    (scan.feed bytes).packed frameLen = (scan.packed frameLen).feed bytes := by
  -- The frame ends before the bytes start.
  simp [packed, feed, withRx, List.drop_append_of_le_length whole,
    List.take_append_of_le_length whole]

/-- A byte that cannot start a frame is dropped. -/
theorem step_noise (received : scan.packer.rx = first :: rest) (noise : first ≠ mavlinkV1Stx) :
    scan.step emit = some (scan.withRx rest) := by
  -- The first branch is taken.
  simp only [step, received, if_pos noise]

/-- What starts like a frame is judged by its length. -/
theorem step_header (received : scan.packer.rx = mavlinkV1Stx :: second :: rest) :
    scan.step emit =
      if scan.packer.rx.length < mavlinkV1HeaderLen then none
      else if scan.packer.maxPacketLen < frameLength second then some scan.skipped
      else if scan.packer.rx.length < frameLength second then none
      else some ((scan.makeRoom emit (frameLength second)).packed (frameLength second)) := by
  -- The two bytes select the innermost branches.
  simp [step, received]

/-- A frame that fits into no packet loses its first byte. -/
theorem step_oversized (received : scan.packer.rx = mavlinkV1Stx :: second :: rest)
    (header : mavlinkV1HeaderLen ≤ scan.packer.rx.length)
    (oversized : scan.packer.maxPacketLen < frameLength second) :
    scan.step emit = some scan.skipped := by
  -- The header is there, and the length it tells is too long.
  rw [step_header received, if_neg (Nat.not_lt.mpr header), if_pos oversized]

/-- A frame is longer than its header. -/
theorem header_le_frameLength (second : UInt8) : mavlinkV1HeaderLen ≤ frameLength second := by
  -- The payload and the checksum follow the header.
  rw [frameLength]
  omega

/-- A whole frame that fits into a packet goes into one. -/
theorem step_frame (received : scan.packer.rx = mavlinkV1Stx :: second :: rest)
    (fits : frameLength second ≤ scan.packer.maxPacketLen)
    (whole : frameLength second ≤ scan.packer.rx.length) :
    scan.step emit =
      some ((scan.makeRoom emit (frameLength second)).packed (frameLength second)) := by
  -- A whole frame has a header.
  have header := Nat.le_trans (header_le_frameLength second) whole
  rw [step_header received, if_neg (Nat.not_lt.mpr header), if_neg (Nat.not_lt.mpr fits),
    if_neg (Nat.not_lt.mpr whole)]

/-- A step drops a byte that starts no frame, skips one of a frame too long, or packs a frame. -/
theorem step_cases {next : PackerScan} (stepped : scan.step emit = some next) :
    (∃ first rest, scan.packer.rx = first :: rest ∧ first ≠ mavlinkV1Stx ∧
      next = scan.withRx rest) ∨
    ∃ second rest, scan.packer.rx = mavlinkV1Stx :: second :: rest ∧
      ((mavlinkV1HeaderLen ≤ scan.packer.rx.length ∧
          scan.packer.maxPacketLen < frameLength second ∧ next = scan.skipped) ∨
        (frameLength second ≤ scan.packer.maxPacketLen ∧
          frameLength second ≤ scan.packer.rx.length ∧
          next = (scan.makeRoom emit (frameLength second)).packed (frameLength second))) := by
  -- Each branch that goes on is one of the three.
  rcases received : scan.packer.rx with - | ⟨first, rest⟩
  · simp [step, received] at stepped
  · by_cases noise : first ≠ mavlinkV1Stx
    · rw [step_noise received noise] at stepped
      exact .inl ⟨first, rest, rfl, noise, (Option.some.inj stepped).symm⟩
    · obtain rfl := not_not.mp noise
      rcases rest with - | ⟨second, rest⟩
      · simp [step, received] at stepped
      · refine .inr ⟨second, rest, rfl, ?_⟩
        rw [step_header received] at stepped
        rw [← received]
        split at stepped
        · cases stepped
        · split at stepped
          · exact .inl ⟨by omega, by assumption, (Option.some.inj stepped).symm⟩
          · split at stepped
            · cases stepped
            · exact .inr ⟨by omega, by omega, (Option.some.inj stepped).symm⟩

/-- Bytes that arrive later wait behind those a step uses. -/
theorem feed_step {next : PackerScan} (bytes : List UInt8)
    (stepped : scan.step emit = some next) :
    (scan.feed bytes).step emit = some (next.feed bytes) := by
  -- The bytes that decide the step are all there before the later ones.
  rcases step_cases stepped with
    ⟨first, rest, received, noise, rfl⟩ |
      ⟨second, rest, received, ⟨header, oversized, rfl⟩ | ⟨fits, whole, rfl⟩⟩
  · have received' : (scan.feed bytes).packer.rx = first :: (rest ++ bytes) := by
      rw [feed, withRx, received, List.cons_append]
    rw [step_noise received' noise]
    rfl
  · have received' : (scan.feed bytes).packer.rx = mavlinkV1Stx :: second :: (rest ++ bytes) := by
      rw [feed, withRx, received, List.cons_append, List.cons_append]
    have more : scan.packer.rx.length ≤ (scan.feed bytes).packer.rx.length := by
      simp [feed, withRx]
    rw [step_oversized received' (Nat.le_trans header more) oversized]
    simp [skipped, feed, withRx, received]
  · have received' : (scan.feed bytes).packer.rx = mavlinkV1Stx :: second :: (rest ++ bytes) := by
      rw [feed, withRx, received, List.cons_append, List.cons_append]
    have more : scan.packer.rx.length ≤ (scan.feed bytes).packer.rx.length := by
      simp [feed, withRx]
    rw [step_frame received' fits (Nat.le_trans whole more)]
    rw [makeRoom_feed, packed_feed _ (by rw [makeRoom_rx]; exact whole)]

/-- The bytes that cannot start a frame are dropped one by one. -/
theorem reaches_compacted (emit : List UInt8 → Bool) (scan : PackerScan) :
    Reaches (step emit) scan scan.compacted := by
  -- The induction is on the received bytes, which the scan gives away one at a time.
  rw [compacted]
  obtain ⟨⟨rx, packet, maxPacketLen, frames, drops⟩, emitted⟩ := scan
  induction rx with
  | nil => exact .refl _
  | cons first rest ih =>
    by_cases noise : first ≠ mavlinkV1Stx
    · rw [List.dropWhile_cons_of_pos (by simpa using noise)]
      exact .head (step_noise rfl noise) ih
    · rw [List.dropWhile_cons_of_neg (by simpa using noise)]
      exact .refl _

/-- Compacting drops nothing from what starts with a frame. -/
theorem compacted_compacted : scan.compacted.compacted = scan.compacted := by
  -- The first byte that is kept is kept again.
  simp [compacted, withRx, List.dropWhile_idempotent]

/-- Compacting adds no bytes. -/
theorem length_compacted : scan.compacted.packer.rx.length ≤ scan.packer.rx.length :=
  (List.dropWhile_suffix _).length_le

/-- Skipping uses up a byte. -/
theorem skipped_shorter (received : 0 < scan.packer.rx.length) :
    scan.skipped.compacted.packer.rx.length < scan.packer.rx.length := by
  -- The first byte is gone before the rest is compacted.
  have dropped := @length_compacted scan.skipped
  simp only [skipped, List.length_tail] at dropped ⊢
  omega

/-- Packing a frame uses up bytes. -/
theorem packed_shorter (emit : List UInt8 → Bool) (second : UInt8)
    (received : 0 < scan.packer.rx.length) :
    ((scan.makeRoom emit (frameLength second)).packed
      (frameLength second)).compacted.packer.rx.length < scan.packer.rx.length := by
  -- The frame's bytes are gone before the rest is compacted.
  refine Nat.lt_of_le_of_lt length_compacted ?_
  simp only [packed, List.length_drop, makeRoom_rx, frameLength, mavlinkV1HeaderLen]
  omega

/-- What compacting leaves as it is starts with a frame, if with anything. -/
theorem first_of_compacted (aligned : scan.compacted = scan)
    (received : scan.packer.rx = first :: rest) : first = mavlinkV1Stx := by
  -- Another first byte would be dropped, and there would be fewer bytes.
  by_contra noise
  have same : scan.packer.rx.dropWhile (· != mavlinkV1Stx) = scan.packer.rx :=
    congrArg (·.packer.rx) aligned
  rw [received, List.dropWhile_cons_of_pos (by simpa using noise)] at same
  have shorter : (rest.dropWhile (· != mavlinkV1Stx)).length ≤ rest.length :=
    (List.dropWhile_suffix _).length_le
  have lengths := congrArg List.length same
  rw [List.length_cons] at lengths
  omega

/-- A scan that waits holds less than the longest packet. -/
theorem length_of_waits (waits : scan.step emit = none)
    (bounded : scan.packer.maxPacketLen ≤ mavlinkFramePackerMaxPacket) :
    scan.packer.rx.length < mavlinkFramePackerMaxPacket := by
  -- It waits for a header or for the rest of a frame that fits into a packet.
  rcases received : scan.packer.rx with - | ⟨first, rest⟩
  · decide
  · by_cases noise : first ≠ mavlinkV1Stx
    · rw [step_noise received noise] at waits
      cases waits
    · obtain rfl := not_not.mp noise
      rcases rest with - | ⟨second, rest⟩
      · decide
      · rw [step_header received] at waits
        rw [← received]
        split at waits
        · have short : mavlinkV1HeaderLen < mavlinkFramePackerMaxPacket := by decide
          omega
        · split at waits
          · cases waits
          · split at waits
            · omega
            · cases waits

end Steps

/-- Bytes that arrive later never change what the scan has done. -/
theorem patient (emit : List UInt8 → Bool) : Patient (step emit) feed where
  -- Feeding appends to what was received and touches nothing else.
  feed_nil := by
    intro scan
    simp [feed, withRx]
  feed_append := by
    intro scan first second
    simp [feed, withRx]
  feed_step := feed_step

end PackerScan

namespace Packing

/-- What a packer at work shows of itself. -/
def scan (packing : Packing) : PackerScan := ⟨packing.packer, packing.emitted⟩

/-- The packer has never discarded its receive buffer, and has always stayed in bounds. -/
structure Sound (packing : Packing) : Prop where
  current : packing.packer.InBounds
  passed : ∀ packer ∈ packing.passed, packer.InBounds
  undiscarded : packing.discards = 0

/-- A packer that stays in bounds remains sound. -/
theorem Sound.become {packing : Packing} {packer : MavlinkFramePacker} (sound : packing.Sound)
    (bounded : packer.InBounds) : (packing.become packer).Sound where
  current := bounded
  passed := by
    -- The new state is the last one passed.
    intro other member
    rcases List.mem_append.mp member with before | last
    · exact sound.passed other before
    · obtain rfl := List.mem_singleton.mp last
      exact bounded
  undiscarded := sound.undiscarded

@[simp] theorem scan_become (packing : Packing) (packer : MavlinkFramePacker) :
    (packing.become packer).scan = ⟨packer, packing.emitted⟩ := rfl

@[simp] theorem packer_become (packing : Packing) (packer : MavlinkFramePacker) :
    (packing.become packer).packer = packer := rfl

variable (emit : List UInt8 → Bool) {packing : Packing}

/-- Compacting leaves the packing as its scan describes it. -/
theorem compactRx_spec (bounded : packing.packer.InBounds) :
    packing.packer.compactRx = .ok packing.scan.compacted.packer ∧
      packing.scan.compacted.packer.InBounds := by
  -- No byte is added.
  refine ⟨MavlinkFramePacker.compactRx_eq bounded.rx_bounded, ?_⟩
  exact bounded.of_shorter (List.dropWhile_suffix _).length_le rfl rfl

/-- Handing out a packet shows as its scan describes it. -/
theorem flush_spec (sound : packing.Sound) (filled : 0 < packing.packer.packet.length) :
    (packing.flush emit).scan = packing.scan.sent emit ∧ (packing.flush emit).Sound := by
  -- The packet is not empty, so the call does not return early.
  have bounded : (packing.scan.sent emit).packer.InBounds :=
    ⟨sound.current.rx_bounded, Nat.zero_le _, sound.current.max_bounded⟩
  have kept : { packing with emitted := packing.emitted ++ [packing.packer.packet] }.Sound :=
    ⟨sound.current, sound.passed, sound.undiscarded⟩
  rw [flush, if_neg (Nat.ne_of_gt filled)]
  exact ⟨rfl, kept.become bounded⟩

/-- The packing that makes room for a frame shows as its scan describes it. -/
theorem makeRoom_spec (sound : packing.Sound) (frameLen : Nat) :
    ∃ roomy : Packing, (if 0 < packing.packer.packet.length ∧
        packing.packer.maxPacketLen < packing.packer.packet.length + frameLen then
        packing.flush emit else packing) = roomy ∧
      roomy.scan = packing.scan.makeRoom emit frameLen ∧ roomy.Sound := by
  -- Either the packet is handed out or nothing happens.
  by_cases full : 0 < packing.packer.packet.length ∧
      packing.packer.maxPacketLen < packing.packer.packet.length + frameLen
  · obtain ⟨shown, kept⟩ := flush_spec emit sound full.1
    refine ⟨_, if_pos full, ?_, kept⟩
    rw [shown, PackerScan.makeRoom, if_pos (by exact full)]
  · refine ⟨_, if_neg full, ?_, sound⟩
    rw [PackerScan.makeRoom, if_neg (by exact full)]

/-- Skipping a byte shows as its scan describes it. -/
theorem skipFrame_spec (sound : packing.Sound) (received : 0 < packing.packer.rx.length) :
    ∃ next, packing.skipFrame = .ok next ∧ next.scan = packing.scan.skipped.compacted ∧
      next.Sound := by
  -- The byte is dropped first, and what is left is compacted.
  have dropped : packing.scan.skipped.packer.InBounds :=
    sound.current.of_shorter (by simp [PackerScan.skipped, scan]) rfl rfl
  have kept := sound.become dropped
  obtain ⟨compacted, bounded⟩ := compactRx_spec kept.current
  refine ⟨_, ?_, rfl, kept.become bounded⟩
  rw [skipFrame, memmove_eq sound.current.rx_bounded received, List.drop_one]
  simp only [Bind.bind, Except.bind]
  rw [show { packing.packer with
    rx := packing.packer.rx.tail
    drops := packing.packer.drops + 1 } = packing.scan.skipped.packer from rfl, compacted]
  rfl

/-- Packing a frame shows as its scan describes it. -/
theorem takeFrame_spec {frameLen : Nat} (sound : packing.Sound)
    (fits : frameLen ≤ packing.packer.maxPacketLen)
    (whole : frameLen ≤ packing.packer.rx.length) :
    ∃ next, packing.takeFrame emit frameLen = .ok next ∧
      next.scan = ((packing.scan.makeRoom emit frameLen).packed frameLen).compacted ∧
      next.Sound := by
  -- The frame is copied behind what is left of the packet, and then moved out of the buffer.
  obtain ⟨roomy, made, shown, kept⟩ := makeRoom_spec emit sound frameLen
  obtain ⟨sameRx, sameMax, room⟩ : roomy.packer.rx = packing.packer.rx ∧
      roomy.packer.maxPacketLen = packing.packer.maxPacketLen ∧
      roomy.packer.packet.length + frameLen ≤ packing.packer.maxPacketLen := by
    change roomy.scan.packer.rx = packing.scan.packer.rx ∧
      roomy.scan.packer.maxPacketLen = packing.scan.packer.maxPacketLen ∧
      roomy.scan.packer.packet.length + frameLen ≤ packing.scan.packer.maxPacketLen
    rw [shown]
    exact ⟨PackerScan.makeRoom_rx _, PackerScan.makeRoom_maxPacketLen _,
      PackerScan.makeRoom_fits fits⟩
  have fitsBuffer := Nat.le_trans room sound.current.max_bounded
  have inside : frameLen ≤ roomy.packer.rx.length := by rwa [sameRx]
  -- Neither copy leaves its buffer.
  have copied : memcpy mavlinkFramePackerMaxPacket roomy.packer.packet roomy.packer.rx 0 frameLen =
      .ok (roomy.packer.packet ++ roomy.packer.rx.take frameLen) :=
    memcpy_eq fitsBuffer (by omega)
  have appended : { roomy.packer with
      packet := roomy.packer.packet ++ roomy.packer.rx.take frameLen
      frames := roomy.packer.frames + 1 }.InBounds := by
    refine ⟨kept.current.rx_bounded, ?_, kept.current.max_bounded⟩
    simp only [List.length_append, List.length_take, sameMax]
    omega
  have moved : (roomy.scan.packed frameLen).packer.InBounds :=
    appended.of_shorter (by simp [PackerScan.packed, scan]) rfl rfl
  have keptAppended := kept.become appended
  have keptMoved := keptAppended.become moved
  obtain ⟨compacted, bounded⟩ := compactRx_spec keptMoved.current
  refine ⟨_, ?_, ?_, keptMoved.become bounded⟩
  · simp only [takeFrame, made, copied, Bind.bind, Except.bind, packer_become,
      memmove_eq kept.current.rx_bounded inside]
    rw [show { roomy.packer with
      rx := roomy.packer.rx.drop frameLen
      packet := roomy.packer.packet ++ roomy.packer.rx.take frameLen
      frames := roomy.packer.frames + 1 } = (roomy.scan.packed frameLen).packer from rfl,
      show (roomy.scan.packed frameLen).packer.compactRx = _ from compacted]
    rfl
  · rw [← shown]
    rfl

/-- No frame is longer than the longest one. -/
theorem frameLength_le (second : UInt8) :
    PackerScan.frameLength second ≤ mavlinkV1MaxFrameLen := by
  -- The payload's length is one byte.
  have := second.toNat_lt
  simp only [PackerScan.frameLength, mavlinkV1HeaderLen, mavlinkV1ChecksumLen,
    mavlinkV1MaxFrameLen]
  omega

/-- A turn judges what starts like a frame by its length. -/
theorem frameTurn_header {second : UInt8} {rest : List UInt8}
    (received : packing.packer.rx = mavlinkV1Stx :: second :: rest) :
    packing.frameTurn emit =
      if packing.packer.rx.length < mavlinkV1HeaderLen then .ok none
      else if packing.packer.maxPacketLen < PackerScan.frameLength second then
        packing.skipFrame.map some
      else if packing.packer.rx.length < PackerScan.frameLength second then .ok none
      else (packing.takeFrame emit (PackerScan.frameLength second)).map some := by
  -- Only the limit of the packet can be exceeded.
  have longest := Nat.not_lt.mpr (frameLength_le second)
  rw [PackerScan.frameLength] at longest
  rw [frameTurn, PackerScan.frameLength]
  simp only [received, ne_eq, not_true, if_false, longest, false_or]
  rfl

/-- A turn of the inner loop waits exactly when the scan does, and else takes some of its steps
that use up received bytes. -/
theorem frameTurn_spec (sound : packing.Sound) (aligned : packing.scan.compacted = packing.scan) :
    (packing.frameTurn emit = .ok none ∧ packing.scan.step emit = none) ∨
      ∃ next, packing.frameTurn emit = .ok (some next) ∧
        Reaches (PackerScan.step emit) packing.scan next.scan ∧ next.Sound ∧
        next.scan.compacted = next.scan ∧ next.packer.rx.length < packing.packer.rx.length := by
  -- The turn looks at the two bytes at which the scan looks.
  rcases received : packing.packer.rx with - | ⟨first, rest⟩
  · left
    simp [frameTurn, PackerScan.step, scan, received, pure, Except.pure]
  · obtain rfl := PackerScan.first_of_compacted aligned received
    rcases rest with - | ⟨second, rest⟩
    · left
      simp [frameTurn, PackerScan.step, scan, received, pure, Except.pure]
    · have turn := frameTurn_header emit received
      have stepped : packing.scan.step emit = _ := PackerScan.step_header received
      rw [← received]
      -- Less than a header waits for more.
      by_cases header : packing.packer.rx.length < mavlinkV1HeaderLen
      · rw [if_pos header] at turn
        rw [if_pos (by exact header)] at stepped
        exact .inl ⟨turn, stepped⟩
      · rw [if_neg header] at turn
        rw [if_neg (by exact header)] at stepped
        have someReceived : 0 < packing.packer.rx.length := by
          rw [received]
          exact Nat.zero_lt_succ _
        -- A frame that no packet holds is skipped by its first byte.
        by_cases oversized : packing.packer.maxPacketLen < PackerScan.frameLength second
        · rw [if_pos oversized] at turn
          rw [if_pos (by exact oversized)] at stepped
          obtain ⟨next, skipped, shown, kept⟩ := skipFrame_spec sound someReceived
          refine .inr ⟨next, ?_, ?_, kept, ?_, ?_⟩
          · rw [turn, skipped]
            rfl
          · rw [shown]
            exact .head stepped (PackerScan.reaches_compacted emit _)
          · rw [shown, PackerScan.compacted_compacted]
          · change next.scan.packer.rx.length < packing.scan.packer.rx.length
            rw [shown]
            exact PackerScan.skipped_shorter someReceived
        · rw [if_neg oversized] at turn
          rw [if_neg (by exact oversized)] at stepped
          -- A frame that has not come whole waits for more, and a whole one is packed.
          by_cases partly : packing.packer.rx.length < PackerScan.frameLength second
          · rw [if_pos partly] at turn
            rw [if_pos (by exact partly)] at stepped
            exact .inl ⟨turn, stepped⟩
          · rw [if_neg partly] at turn
            rw [if_neg (by exact partly)] at stepped
            obtain ⟨next, taken, shown, kept⟩ :=
              takeFrame_spec emit sound (Nat.le_of_not_lt oversized) (Nat.le_of_not_lt partly)
            refine .inr ⟨next, ?_, ?_, kept, ?_, ?_⟩
            · rw [turn, taken]
              rfl
            · rw [shown]
              exact .head stepped (PackerScan.reaches_compacted emit _)
            · rw [shown, PackerScan.compacted_compacted]
            · change next.scan.packer.rx.length < packing.scan.packer.rx.length
              rw [shown]
              exact PackerScan.packed_shorter emit second someReceived

/-- The inner loop runs until the scan settles, and is done within one turn for each byte. -/
theorem frameLoop_spec {turns : Nat} (sound : packing.Sound)
    (aligned : packing.scan.compacted = packing.scan) (enough : packing.packer.rx.length < turns) :
    ∃ last, frameLoop emit turns packing = .ok last ∧
      SettlesIn (PackerScan.step emit) packing.scan last.scan ∧ last.Sound := by
  -- Each turn uses up a received byte, so the turns suffice.
  induction turns generalizing packing with
  | zero => exact absurd enough (Nat.not_lt_zero _)
  | succ turns ih =>
    rcases frameTurn_spec emit sound aligned with
      ⟨done, waits⟩ | ⟨next, turned, reached, kept, ready, shorter⟩
    · refine ⟨packing, ?_, ⟨.refl _, waits⟩, sound⟩
      rw [frameLoop, done]
      rfl
    · obtain ⟨last, looped, settled, final⟩ := ih kept ready (by omega)
      refine ⟨last, ?_, reached.settles settled, final⟩
      rw [frameLoop, turned]
      exact looped

/-- A turn of the outer loop copies at least one byte, and lets the scan settle after those it
copies. -/
theorem copyTurn_spec {bytes : List UInt8} {offset : Nat} (sound : packing.Sound)
    (waits : packing.scan.step emit = none) (more : offset < bytes.length) :
    ∃ copied last, copyTurn emit bytes offset packing = .ok (offset + copied, last) ∧
      0 < copied ∧
      SettlesIn (PackerScan.step emit)
        (packing.scan.feed ((bytes.drop offset).take copied)) last.scan ∧
      last.Sound := by
  -- A waiting scan leaves room in the receive buffer.
  have short := PackerScan.length_of_waits waits sound.current.max_bounded
  change packing.packer.rx.length < mavlinkFramePackerMaxPacket at short
  have smaller : mavlinkFramePackerMaxPacket < framePackerRxSize := by decide
  have room : framePackerRxSize - packing.packer.rx.length ≠ 0 := by omega
  -- As much is copied as there is and as fits.
  obtain ⟨copied, isCopied⟩ : ∃ copied, copied =
      min (bytes.length - offset) (framePackerRxSize - packing.packer.rx.length) := ⟨_, rfl⟩
  have fitsBuffer : packing.packer.rx.length + copied ≤ framePackerRxSize := by omega
  have copy : memcpy framePackerRxSize packing.packer.rx bytes offset copied =
      .ok (packing.packer.rx ++ (bytes.drop offset).take copied) :=
    memcpy_eq fitsBuffer (by omega)
  have fed : (packing.scan.feed ((bytes.drop offset).take copied)).packer.InBounds := by
    refine ⟨?_, sound.current.packet_bounded, sound.current.max_bounded⟩
    simp only [PackerScan.feed, PackerScan.withRx, scan, List.length_append, List.length_take]
    omega
  have keptFed := sound.become fed
  obtain ⟨compacted, bounded⟩ := compactRx_spec keptFed.current
  have keptCompacted := keptFed.become bounded
  -- The inner loop then settles what was received.
  obtain ⟨last, looped, settled, final⟩ :=
    frameLoop_spec emit keptCompacted PackerScan.compacted_compacted (Nat.lt_add_one _)
  refine ⟨copied, last, ?_, by omega, ?_, final⟩
  · simp only [copyTurn, if_neg room, ← isCopied, copy, Bind.bind, Except.bind, packer_become]
    rw [show { packing.packer with
        rx := packing.packer.rx ++ (bytes.drop offset).take copied } =
      (packing.scan.feed ((bytes.drop offset).take copied)).packer from rfl]
    rw [packer_become] at compacted looped
    rw [compacted]
    dsimp only
    rw [looped]
    rfl
  · exact (PackerScan.reaches_compacted emit _).settles settled

/-- The outer loop lets the scan settle after the bytes from its offset on, and is done within one
turn for each of them. -/
theorem copyLoop_spec {bytes : List UInt8} {turns offset : Nat} (sound : packing.Sound)
    (waits : packing.scan.step emit = none) (enough : bytes.length - offset < turns) :
    ∃ last, copyLoop emit bytes turns offset packing = .ok last ∧
      SettlesIn (PackerScan.step emit) (packing.scan.feed (bytes.drop offset)) last.scan ∧
      last.Sound := by
  -- Each turn copies a byte, so the turns suffice.
  induction turns generalizing packing offset with
  | zero => exact absurd enough (Nat.not_lt_zero _)
  | succ turns ih =>
    rw [copyLoop]
    by_cases more : offset < bytes.length
    · obtain ⟨copied, middle, turned, used, settled, kept⟩ :=
        copyTurn_spec emit sound waits more
      have left : bytes.length - (offset + copied) < turns := by omega
      obtain ⟨last, looped, final, held⟩ := ih kept settled.2 left
      refine ⟨last, ?_, ?_, held⟩
      · rw [if_pos more, turned]
        exact looped
      · have split : bytes.drop offset =
            (bytes.drop offset).take copied ++ bytes.drop (offset + copied) := by
          rw [← List.drop_drop, List.take_append_drop]
        rw [split]
        exact (PackerScan.patient emit).settles_append settled.1 final
    · refine ⟨packing, if_neg more, ?_, sound⟩
      rw [List.drop_eq_nil_of_le (by omega), (PackerScan.patient emit).feed_nil]
      exact ⟨.refl _, waits⟩

/-- A call lets the scan settle after its bytes. -/
theorem push_spec (sound : packing.Sound) (waits : packing.scan.step emit = none)
    (bytes : List UInt8) :
    ∃ last, packing.push emit bytes = .ok last ∧
      SettlesIn (PackerScan.step emit) (packing.scan.feed bytes) last.scan ∧ last.Sound :=
  copyLoop_spec emit sound waits (Nat.lt_succ_self _)

/-- A packer that has been set up is sound. -/
theorem start_sound (maxPacketLen : Nat) : (start maxPacketLen).Sound where
  -- The packer is the only one the scan has passed.
  current := MavlinkFramePacker.init_inBounds maxPacketLen
  passed := by
    intro packer member
    obtain rfl := List.mem_singleton.mp member
    exact MavlinkFramePacker.init_inBounds maxPacketLen
  undiscarded := rfl

/-- Calls one after the other let the scan settle after all their bytes. -/
theorem pushAll_spec (maxPacketLen : Nat) (chunks : List (List UInt8)) :
    ∃ last, (start maxPacketLen).pushAll emit chunks = .ok last ∧
      SettlesIn (PackerScan.step emit) ((start maxPacketLen).scan.feed chunks.flatten) last.scan ∧
      last.Sound := by
  -- The packer waits before the first call, and after each one.
  exact (PackerScan.patient emit).settles_foldlM
    (fun _ bytes sound waits => push_spec emit sound waits bytes) (start_sound maxPacketLen) rfl
    chunks

/-- Every packer takes a stream in the same way however it is cut into calls: each call returns,
the packets and the final states agree, and all along the packer stays in bounds and never
discards its receive buffer. -/
theorem pushAll_chunking (maxPacketLen : Nat) {chunks others : List (List UInt8)}
    (same : chunks.flatten = others.flatten) :
    ∃ first second,
      (start maxPacketLen).pushAll emit chunks = .ok first ∧
      (start maxPacketLen).pushAll emit others = .ok second ∧
      first.packer = second.packer ∧ first.emitted = second.emitted ∧
      first.Sound ∧ second.Sound := by
  -- Both runs let the same scan settle, and it settles in one state only.
  obtain ⟨first, pushed, settled, sound⟩ := pushAll_spec emit maxPacketLen chunks
  obtain ⟨second, pushed', settled', sound'⟩ := pushAll_spec emit maxPacketLen others
  rw [same] at settled
  have agree : first.scan = second.scan := settled.unique settled'
  exact ⟨first, second, pushed, pushed', congrArg PackerScan.packer agree,
    congrArg PackerScan.emitted agree, sound, sound'⟩

/-- A frame behind the start of one too long to be packed is found wherever the stream is cut,
also when its packet is refused. -/
theorem resyncedFrame_chunking :
    ∃ first second,
      (start 11).pushAll (fun _ => false)
        [[0x00, 0xfe, 0xff], [], [0x22, 0xfe, 3, 5, 1, 250, 181, 5], [6, 7, 0xaa, 0x55, 0xfe]] =
          .ok first ∧
      (start 11).pushAll (fun _ => false)
        [[0x00, 0xfe, 0xff, 0x22, 0xfe, 3, 5, 1, 250, 181, 5, 6, 7, 0xaa, 0x55, 0xfe]] =
          .ok second ∧
      first.packer = second.packer ∧ first.emitted = second.emitted ∧
      first.Sound ∧ second.Sound :=
  pushAll_chunking (fun _ => false) 11 (by decide)

end Packing

end Veloxity
