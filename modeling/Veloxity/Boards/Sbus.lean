import Mathlib.Data.List.Induction
import Veloxity.Core.FlightFloat
import Veloxity.Core.Packets
import Veloxity.Library.ByteImage
import Veloxity.Library.Run

/-! The task that decodes the radio receiver's SBUS frames on an STM32 board. -/

namespace Veloxity

open Library

variable {F : Type} [FlightFloat F]

/-- The bytes of an SBUS frame. -/
def sbusFrameBytes : Nat := 25

/-- The proportional channels of a frame. -/
def sbus11BitChannels : Nat := 16

/-- The proportional and the binary channels of a frame. -/
def sbusChannels : Nat := 18

/-- How long, in microseconds, the task waits for a frame before it reports the loss of the link. -/
def sbusTimeoutUs : Nat := 1000000

/-- Result of a read that stores bytes at the front of the task's buffer, where a failed read may
have stored some as well. -/
inductive SbusRead where
  | error (stored : List UInt8) (fits : stored.length ≤ sbusFrameBytes)
  | ok (stored : List UInt8) (fits : stored.length ≤ sbusFrameBytes)

/-- The bytes a read stored. -/
def SbusRead.stored : SbusRead → List UInt8
  | .error stored _ | .ok stored _ => stored

/-- What one turn of the loop learns: the result of its read, and the clock at the five places
where it is looked at, in microseconds. -/
structure SbusTurn where
  read : SbusRead
  receivedAt : Nat
  stampedAt : Nat
  checkedAt : Nat
  expiredAt : Nat
  reportedAt : Nat

/-- Extract an 11-bit channel bit by bit. -/
def extractChan (bytes : ByteImage sbusFrameBytes) (bitOffset : Nat) : F :=
  let byteOffset := bitOffset / 8
  let bitStart := bitOffset % 8
  let value := (List.range 11).foldl (fun (value : UInt16) i =>
    let byteIndex := byteOffset + (bitStart + i) / 8
    let bitIndex := (bitStart + i) % 8
    let bit := (bytes.byteAt byteIndex >>> UInt8.ofNat bitIndex) &&& 1
    value ||| (bit.toUInt16 <<< UInt16.ofNat i)) 0
  FlightFloat.lit value.toNat

/-- Bring a raw channel value to the range from zero to one. -/
def sbusScaled (raw : F) : F := (raw - FlightFloat.lit 172) / FlightFloat.lit 1639

/-- A frame starts with this byte. -/
def validHeader (buffer : ByteImage sbusFrameBytes) : Bool := buffer.byteAt 0 = 0x0F

/-- A frame ends with one of these bytes. -/
def validFooter (buffer : ByteImage sbusFrameBytes) : Bool :=
  buffer.byteAt 24 = 0x00 || buffer.byteAt 24 = 0x04 || buffer.byteAt 24 = 0x14 ||
    buffer.byteAt 24 = 0x24 || buffer.byteAt 24 = 0x34

/-- The channels of a frame, proportional ones first. -/
def sbusChan (buffer : ByteImage sbusFrameBytes) (channel : Nat) : F :=
  let dig := (buffer.byteAt 23).toUInt16
  if channel < sbus11BitChannels then sbusScaled (extractChan buffer (8 + channel * 11))
  else if channel = sbus11BitChannels then
    sbusScaled (FlightFloat.lit (dig &&& 0x01).toNat)
  else sbusScaled (FlightFloat.lit ((dig >>> 1) &&& 0x01).toNat)

/-- The packet decoded from a frame. -/
def sbusPacket (buffer : ByteImage sbusFrameBytes) (timestamp : Nat) : RcPacket F :=
  let dig := (buffer.byteAt 23).toUInt16
  { header := { timestamp, status := dig.toNat }
    nChan := 24
    chan := fun channel =>
      if channel.val < min sbusChannels rcPacketChannels then sbusChan buffer channel.val
      else FlightFloat.lit 0
    lol := dig &&& 0x0C ≠ 0 }

/-- What the task keeps between reads. -/
structure SbusRC (F : Type) where
  buffer : ByteImage sbusFrameBytes
  timeout : Nat
  rcChan : Fin rcPacketChannels → F

/-- What one turn publishes: a decoded frame, and a report of the loss of the link. -/
structure SbusPublished (F : Type) where
  frame : Option (RcPacket F)
  lost : Option (RcPacket F)

namespace SbusRC

/-- A task that has read nothing, started at the given time. -/
def new (startedAt : Nat) : SbusRC F where
  buffer := .filled 0
  timeout := startedAt + sbusTimeoutUs
  rcChan _ := FlightFloat.lit 0

/-- Decode what the buffer holds after a read that succeeded, whatever its length. -/
def decode (sbus : SbusRC F) (turn : SbusTurn) : SbusRC F × Option (RcPacket F) :=
  let sbus := { sbus with timeout := turn.receivedAt + sbusTimeoutUs }
  if validHeader sbus.buffer && validFooter sbus.buffer then
    let packet := sbusPacket sbus.buffer turn.stampedAt
    ({ sbus with rcChan := packet.chan }, some packet)
  else (sbus, none)

/-- Report the loss of the link with the last known channels if no read succeeded for too long. -/
def reportLoss (sbus : SbusRC F) (turn : SbusTurn) : SbusRC F × Option (RcPacket F) :=
  if sbus.timeout < turn.checkedAt then
    ({ sbus with timeout := turn.expiredAt + sbusTimeoutUs },
      some { header := { timestamp := turn.reportedAt, status := 0x1C }, nChan := 24,
             chan := sbus.rcChan, lol := true })
  else (sbus, none)

/-- One turn of the task's loop. -/
def turn (sbus : SbusRC F) (turn : SbusTurn) : SbusRC F × SbusPublished F :=
  let sbus := { sbus with buffer := sbus.buffer.copyFromSlice 0 turn.read.stored }
  let (sbus, frame) := match turn.read with
    | .ok _ _ => sbus.decode turn
    | .error _ _ => (sbus, none)
  let (sbus, lost) := sbus.reportLoss turn
  (sbus, { frame, lost })

/-- The task after one turn of its loop. -/
def step (sbus : SbusRC F) (turn : SbusTurn) : SbusRC F := (sbus.turn turn).1

/-- A frame the turn publishes was decoded from the bytes of its own read, which were a whole
frame from its header to its footer. -/
def PublishesGenuine (sbus : SbusRC F) (turn : SbusTurn) : Prop :=
  ∀ packet, (sbus.turn turn).2.frame = some packet → ∃ stored fits,
    turn.read = .ok stored fits ∧ stored.length = sbusFrameBytes ∧
      validHeader (ByteImage.copyFromSlice (.filled 0) 0 stored) ∧
      validFooter (ByteImage.copyFromSlice (.filled 0) 0 stored) ∧
      packet = sbusPacket (ByteImage.copyFromSlice (.filled 0) 0 stored) turn.stampedAt

/-- The byte left at an index by the reads so far: that of the latest read to reach it. -/
def leftAt (index : Nat) (turns : List SbusTurn) : UInt8 :=
  turns.foldl (fun byte turn => turn.read.stored.getD index byte) 0

/-- A short read leaves, with what earlier reads left, the marks of a frame in the buffer. -/
def CompletesStale (before : List SbusTurn) (turn : SbusTurn) : Prop :=
  ∃ stored fits, turn.read = .ok stored fits ∧ stored.length < sbusFrameBytes ∧
    leftAt 0 (before ++ [turn]) = 0x0F ∧
    leftAt 24 (before ++ [turn]) ∈ [0x00, 0x04, 0x14, 0x24, (0x34 : UInt8)]

/-- A turn stores the bytes of its read and leaves the others. -/
theorem buffer_step (sbus : SbusRC F) (turn : SbusTurn) :
    (sbus.step turn).buffer = sbus.buffer.copyFromSlice 0 turn.read.stored := by
  -- Decoding and reporting only look at the buffer.
  have reported : ∀ sbus : SbusRC F, (sbus.reportLoss turn).1.buffer = sbus.buffer := by
    intro sbus
    unfold reportLoss
    split <;> rfl
  have decoded : ∀ sbus : SbusRC F, (sbus.decode turn).1.buffer = sbus.buffer := by
    intro sbus
    unfold decode
    dsimp only
    split <;> rfl
  unfold step SbusRC.turn
  dsimp only
  split
  · rw [reported, decoded]
  · rw [reported]

/-- A copy to the front shows wherever it reaches. -/
theorem byteAt_stored (buffer : ByteImage sbusFrameBytes) (stored : List UInt8) {index : Nat}
    (inside : index < sbusFrameBytes) :
    (buffer.copyFromSlice 0 stored).byteAt index = stored.getD index (buffer.byteAt index) := by
  -- Behind the copy the buffer keeps its bytes.
  rw [ByteImage.byteAt_copyFromSlice _ _ _ inside, Nat.zero_add, Nat.sub_zero]
  split
  · rename_i reached
    rw [List.getD_eq_getElem _ _ reached.2, List.getD_eq_getElem _ _ reached.2]
  · rename_i beyond
    have short : stored.length ≤ index := by omega
    rw [List.getD_eq_default _ _ short]

/-- The buffer holds at each index what the reads have left there. -/
theorem byteAt_run (startedAt : Nat) (turns : List SbusTurn) {index : Nat}
    (inside : index < sbusFrameBytes) :
    (run step (new startedAt : SbusRC F) turns).buffer.byteAt index = leftAt index turns := by
  -- The induction adds the latest turn behind the others.
  induction turns using List.reverseRecOn with
  | nil => exact ByteImage.byteAt_filled inside
  | append_singleton before turn ih =>
    rw [run_concat, buffer_step, byteAt_stored _ _ inside, ih, leftAt, leftAt, List.foldl_append]
    rfl

/-- A successful read has a frame published exactly when its marks are in the buffer. -/
theorem frame_turn_of_ok (sbus : SbusRC F) {turn : SbusTurn} {stored : List UInt8}
    {fits : stored.length ≤ sbusFrameBytes} (read : turn.read = .ok stored fits) :
    (sbus.turn turn).2.frame =
      if validHeader (sbus.buffer.copyFromSlice 0 stored) &&
          validFooter (sbus.buffer.copyFromSlice 0 stored) then
        some (sbusPacket (sbus.buffer.copyFromSlice 0 stored) turn.stampedAt)
      else none := by
  unfold SbusRC.turn decode
  simp only [read, SbusRead.stored]
  split <;> rfl

/-- A read of a whole frame leaves nothing of earlier reads. -/
theorem copyFromSlice_whole (buffer : ByteImage sbusFrameBytes) {stored : List UInt8}
    (whole : stored.length = sbusFrameBytes) :
    buffer.copyFromSlice 0 stored = ByteImage.copyFromSlice (.filled 0) 0 stored := by
  -- Every place is written over.
  unfold ByteImage.copyFromSlice
  congr 2
  funext index
  have reached : 0 ≤ index.val ∧ index.val < 0 + stored.length := by
    have inside := index.isLt
    omega
  rw [if_pos reached, if_pos reached]

/-- After given turns, a turn publishes a genuine frame or none, exactly unless its read is short
and completes a stale one. -/
theorem publishesGenuine_iff (startedAt : Nat) (before : List SbusTurn) (turn : SbusTurn) :
    (run step (new startedAt : SbusRC F) before).PublishesGenuine turn ↔
      ¬ CompletesStale before turn := by
  cases read : turn.read with
  | error stored fits =>
    -- A failed read publishes no frame and is not short.
    constructor
    · rintro _ ⟨_, _, other, _⟩
      rw [read] at other
      exact nomatch other
    · intro _ packet published
      unfold SbusRC.turn at published
      simp only [read] at published
      exact nomatch published
  | ok stored fits =>
    set sbus := run step (new startedAt : SbusRC F) before
    have published := frame_turn_of_ok sbus read
    rcases Nat.lt_or_eq_of_le fits with short | whole
    · -- What a short read has published is never genuine.
      have marks : ∀ index, index < sbusFrameBytes →
          (sbus.buffer.copyFromSlice 0 stored).byteAt index =
            leftAt index (before ++ [turn]) := by
        intro index inside
        rw [byteAt_stored _ _ inside, byteAt_run startedAt before inside, leftAt, leftAt,
          List.foldl_append, List.foldl_cons, List.foldl_nil, read]
        rfl
      have front := marks 0 (by decide)
      have back := marks 24 (by decide)
      rw [validHeader, validFooter, front, back] at published
      constructor
      · rintro genuine ⟨_, _, _, _, header, footer⟩
        simp only [List.mem_cons, List.not_mem_nil, or_false] at footer
        rw [if_pos (by simpa [header, or_assoc] using footer)] at published
        obtain ⟨other, _, again, long, _⟩ := genuine _ published
        rw [read] at again
        cases again
        omega
      · intro fresh packet some
        rw [published] at some
        split at some
        · rename_i complete
          refine absurd ⟨stored, fits, read, short, ?_⟩ fresh
          simpa [or_assoc] using complete
        · exact nomatch some
    · -- What a whole read has published was all in that read.
      rw [copyFromSlice_whole _ whole] at published
      constructor
      · rintro _ ⟨_, _, again, short, _⟩
        rw [read] at again
        cases again
        omega
      · intro _ packet some
        rw [published] at some
        split at some
        · rename_i complete
          obtain ⟨header, footer⟩ := Bool.and_eq_true_iff.mp complete
          cases some
          exact ⟨stored, fits, read, whole, header, footer, rfl⟩
        · exact nomatch some

/-- Every frame a task publishes is genuine exactly when no short read of it completes a stale
one. -/
theorem publishesGenuine_along_iff (startedAt : Nat) (turns : List SbusTurn) :
    Along PublishesGenuine step (new startedAt : SbusRC F) turns ↔
      ∀ before turn after, turns = before ++ turn :: after → ¬ CompletesStale before turn := by
  rw [along_iff_split]
  -- Turn by turn, the two sides say the same.
  constructor
  · intro genuine before turn after split
    exact (publishesGenuine_iff startedAt before turn).mp (genuine before turn after split)
  · intro fresh before turn after split
    exact (publishesGenuine_iff startedAt before turn).mpr (fresh before turn after split)

/-- A turn whose read ends with the given result within a millisecond. -/
def quickTurn (read : SbusRead) : SbusTurn := ⟨read, 1000, 1000, 1000, 1000, 1000⟩

/-- A whole frame. -/
def wholeFrameTurn : SbusTurn :=
  quickTurn (.ok (0x0F :: List.replicate 22 0 ++ [0x0C, 0x00]) (by decide))

/-- The first three bytes of the next frame. -/
def interruptedTurn : SbusTurn := quickTurn (.ok [0x0F, 0xE0, 0x03] (by decide))

/-- Three bytes have a frame published that mixes them with the rest of the one before. -/
theorem interruptedFrame_not_genuine :
    ¬ Along PublishesGenuine step (new 0 : SbusRC ℚ) [wholeFrameTurn, interruptedTurn] := by
  intro genuine
  -- The second read is three bytes long, but the buffer has kept header and footer.
  apply (publishesGenuine_iff 0 [wholeFrameTurn] interruptedTurn).mp genuine.2.1
  exact ⟨[0x0F, 0xE0, 0x03], by decide, rfl, by decide, by decide, by decide⟩

end SbusRC

end Veloxity
