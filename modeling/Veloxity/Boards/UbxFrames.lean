import Mathlib.Data.Nat.Bitwise
import Veloxity.Comms.Parser
import Veloxity.Library.ByteImage
import Veloxity.Library.Transducer

/-! UBX frames in a stream of bytes, and how the boards' GNSS receivers take them apart. -/

namespace Veloxity

open Library

/-- The longest payload a receiver stores. -/
def ubxMaxPayloadBytes : Nat := 256

/-- The first byte of every frame. -/
abbrev ubxSync1 : UInt8 := 0xB5

/-- The second byte of every frame. -/
abbrev ubxSync2 : UInt8 := 0x62

/-- Add a byte to the two running sums of a checksum. -/
def checksumByte (sums : UInt8 × UInt8) (byte : UInt8) : UInt8 × UInt8 :=
  (sums.1 + byte, sums.2 + (sums.1 + byte))

/-- The two sums over a frame from its class to the end of its payload. -/
def checksum (bytes : List UInt8) : UInt8 × UInt8 := bytes.foldl checksumByte (0, 0)

/-- One more byte is added to the sums over those before it. -/
theorem checksum_concat (bytes : List UInt8) (byte : UInt8) :
    checksum (bytes ++ [byte]) = checksumByte (checksum bytes) byte := by
  rw [checksum, List.foldl_append]
  rfl

/-- The frame a receiver is filling, whose payload keeps the bytes of earlier frames. -/
structure UbxFrame where
  cls : UInt8
  id : UInt8
  length : Nat
  ckA : UInt8
  ckB : UInt8
  payload : ByteImage ubxMaxPayloadBytes

namespace UbxFrame

/-- A frame of zeros. -/
def new : UbxFrame := ⟨0, 0, 0, 0, 0, .filled 0⟩

/-- Start the running sums afresh. -/
def resetChecksum (frame : UbxFrame) : UbxFrame := { frame with ckA := 0, ckB := 0 }

/-- Add a byte to the running sums. -/
def checksumByte (frame : UbxFrame) (byte : UInt8) : UbxFrame :=
  let sums := Veloxity.checksumByte (frame.ckA, frame.ckB) byte
  { frame with ckA := sums.1, ckB := sums.2 }

/-- Store a payload byte, or panic outside the payload. -/
def storePayload (frame : UbxFrame) (index : Nat) (byte : UInt8) : Checked UbxFrame :=
  if index < ubxMaxPayloadBytes then
    .ok { frame with payload := frame.payload.copyFromSlice index [byte] }
  else .error (.indexOutOfBounds index)

/-- Take a byte at a position of the frame, and tell the next position and whether the byte
completes a frame whose checksum is correct. -/
def receive (frame : UbxFrame) (index : Nat) (byte : UInt8) :
    Checked (UbxFrame × Nat × Bool) := do
  -- The first byte is sometimes duplicated.
  let index := if byte = ubxSync1 ∧ index = 1 then 0 else index
  if index = 0 then return (frame, if byte = ubxSync1 then 1 else 0, false)
  else if index = 1 then
    return (frame, if byte = ubxSync2 then 2 else if byte = ubxSync1 then 1 else 0, false)
  else if index = 2 then
    return ({ frame.resetChecksum with cls := byte }.checksumByte byte, 3, false)
  else if index = 3 then return ({ frame with id := byte }.checksumByte byte, 4, false)
  else if index = 4 then
    return ({ frame with length := byte.toNat }.checksumByte byte, 5, false)
  else if index = 5 then
    let frame := { frame with length := frame.length ||| (byte.toNat <<< 8) }
    if ubxMaxPayloadBytes < frame.length then return (frame, 0, false)
    else return (frame.checksumByte byte, 6, false)
  else if index < frame.length + 6 then
    let frame ← frame.storePayload (← checkedSub index 6) byte
    return (frame.checksumByte byte, index + 1, false)
  else if index = frame.length + 6 then
    return (frame, if frame.ckA = byte then index + 1 else 0, false)
  else return (frame, 0, frame.ckB = byte)

end UbxFrame

/-- What a complete frame carries. -/
structure UbxContent where
  cls : UInt8
  id : UInt8
  payload : List UInt8
  deriving DecidableEq, Repr

/-- How far a stream has come towards its next frame, from the bytes alone. -/
inductive UbxScan where
  | idle
  | started
  | reading (body : List UInt8)
  deriving DecidableEq, Repr

namespace UbxScan

/-- The payload length that the third and the fourth byte of a body announce. -/
def announced (body : List UInt8) : Nat := (body.getD 2 0).toNat + 256 * (body.getD 3 0).toNat

/-- The bytes of a body that its checksum is over. -/
def covered (body : List UInt8) : List UInt8 := body.take (4 + announced body)

/-- The content of a body. -/
def content (body : List UInt8) : UbxContent :=
  ⟨body.getD 0 0, body.getD 1 0, (covered body).drop 4⟩

/-- Take a byte, telling the content of the frame it completes. -/
def step : UbxScan → UInt8 → UbxScan × Option UbxContent
  | .idle, byte => (if byte = ubxSync1 then .started else .idle, none)
  | .started, byte =>
    (if byte = ubxSync2 then .reading [] else if byte = ubxSync1 then .started else .idle, none)
  | .reading body, byte =>
    let longer := body ++ [byte]
    if body.length < 3 then (.reading longer, none)
    else if body.length = 3 then
      (if announced longer ≤ ubxMaxPayloadBytes then .reading longer else .idle, none)
    else if body.length < 4 + announced body then (.reading longer, none)
    else if body.length = 4 + announced body then
      (if (checksum (covered body)).1 = byte then .reading longer else .idle, none)
    else (.idle, if (checksum (covered body)).2 = byte then some (content body) else none)

/-- Bytes ahead of the length's high byte are only taken in. -/
theorem step_header {body : List UInt8} (short : body.length < 3) (byte : UInt8) :
    (reading body).step byte = (.reading (body ++ [byte]), none) := by
  simp only [step, if_pos short]

/-- The length's high byte decides whether the payload would fit. -/
theorem step_high {body : List UInt8} (header : body.length = 3) (byte : UInt8) :
    (reading body).step byte =
      (if announced (body ++ [byte]) ≤ ubxMaxPayloadBytes then .reading (body ++ [byte]) else .idle,
        none) := by
  have past : ¬ body.length < 3 := by omega
  simp only [step, if_neg past, if_pos header]

/-- Payload bytes are only taken in. -/
theorem step_payload {body : List UInt8} (long : 4 ≤ body.length)
    (inside : body.length < 4 + announced body) (byte : UInt8) :
    (reading body).step byte = (.reading (body ++ [byte]), none) := by
  have past : ¬ body.length < 3 := by omega
  have behind : ¬ body.length = 3 := by omega
  simp only [step, if_neg past, if_neg behind, if_pos inside]

/-- The first sum is compared behind the payload. -/
theorem step_first {body : List UInt8} (long : 4 ≤ body.length)
    (whole : body.length = 4 + announced body) (byte : UInt8) :
    (reading body).step byte =
      (if (checksum (covered body)).1 = byte then .reading (body ++ [byte]) else .idle, none) := by
  -- The length tells the byte from those of the header and of the payload.
  have past : ¬ body.length < 3 := by omega
  have behind : ¬ body.length = 3 := by omega
  have outside : ¬ body.length < 4 + announced body := by omega
  simp only [step, if_neg past, if_neg behind, if_neg outside, if_pos whole]

/-- The second sum decides whether the frame is complete. -/
theorem step_second {body : List UInt8} (long : 4 ≤ body.length)
    (summed : 4 + announced body < body.length) (byte : UInt8) :
    (reading body).step byte =
      (.idle, if (checksum (covered body)).2 = byte then some (content body) else none) := by
  -- The length tells the byte from all those before it.
  have past : ¬ body.length < 3 := by omega
  have behind : ¬ body.length = 3 := by omega
  have outside : ¬ body.length < 4 + announced body := by omega
  have beyond : ¬ body.length = 4 + announced body := by omega
  simp only [step, if_neg past, if_neg behind, if_neg outside, if_neg beyond]

end UbxScan

namespace UbxFrame

/-- The frame has taken in the bytes of a body. -/
structure Took (frame : UbxFrame) (body : List UInt8) : Prop where
  cls : 0 < body.length → frame.cls = body.getD 0 0
  id : 1 < body.length → frame.id = body.getD 1 0
  length : 2 < body.length → frame.length = UbxScan.announced body
  fits : 3 < body.length →
    UbxScan.announced body ≤ ubxMaxPayloadBytes ∧ body.length ≤ 5 + UbxScan.announced body
  sums : 0 < body.length → (frame.ckA, frame.ckB) = checksum (UbxScan.covered body)
  payload : ∀ index, 4 + index < body.length → index < UbxScan.announced body →
    frame.payload.byteAt index = body.getD (4 + index) 0

/-- A receiver at a position follows what the bytes alone tell. -/
def Follows (frame : UbxFrame) (index : Nat) : UbxScan → Prop
  | .idle => index = 0
  | .started => index = 1
  | .reading body => index = body.length + 2 ∧ frame.Took body

/-- What a received byte leads to: where the bytes alone lead, with the content of a frame the
byte completes in the receiver's fields. -/
structure Received (frame : UbxFrame) (index : Nat) (complete : Bool)
    (next : UbxScan × Option UbxContent) : Prop where
  follows : frame.Follows index next.1
  complete : complete = next.2.isSome
  content : ∀ content ∈ next.2, frame.cls = content.cls ∧ frame.id = content.id ∧
    frame.length = content.payload.length ∧
    frame.payload.slice 0 content.payload.length = content.payload

/-- A length put together from its two bytes. -/
theorem lowByte_or_highByte (low high : UInt8) :
    low.toNat ||| (high.toNat <<< 8) = low.toNat + 256 * high.toNat := by
  -- The low byte fills exactly the bits that the shift leaves free.
  have small : low.toNat < 2 ^ 8 := low.toNat_lt
  rw [Nat.lor_comm, ← Nat.shiftLeft_add_eq_or_of_lt small, Nat.shiftLeft_eq]
  omega

/-- The class starts the checksum. -/
theorem receive_class (frame : UbxFrame) (byte : UInt8) :
    frame.receive 2 byte =
      .ok (({ frame.resetChecksum with cls := byte } : UbxFrame).checksumByte byte, 3, false) := by
  simp [receive, pure, Except.pure]

/-- The identifier follows the class. -/
theorem receive_id (frame : UbxFrame) (byte : UInt8) :
    frame.receive 3 byte =
      .ok (({ frame with id := byte } : UbxFrame).checksumByte byte, 4, false) := by
  simp [receive, pure, Except.pure]

/-- The low byte of the length follows the identifier. -/
theorem receive_low (frame : UbxFrame) (byte : UInt8) :
    frame.receive 4 byte =
      .ok (({ frame with length := byte.toNat } : UbxFrame).checksumByte byte, 5, false) := by
  simp [receive, pure, Except.pure]

/-- The high byte of a length that fits is part of the checksum. -/
theorem receive_high (frame : UbxFrame) {byte : UInt8}
    (fits : frame.length ||| (byte.toNat <<< 8) ≤ ubxMaxPayloadBytes) :
    frame.receive 5 byte =
      .ok (({ frame with length := frame.length ||| (byte.toNat <<< 8) } : UbxFrame).checksumByte
        byte, 6, false) := by
  simp [receive, pure, Except.pure, Nat.not_lt.mpr fits]

/-- The high byte of a length that is too large ends the frame. -/
theorem receive_tooLong (frame : UbxFrame) {byte : UInt8}
    (long : ubxMaxPayloadBytes < frame.length ||| (byte.toNat <<< 8)) :
    frame.receive 5 byte =
      .ok ({ frame with length := frame.length ||| (byte.toNat <<< 8) }, 0, false) := by
  simp [receive, pure, Except.pure, long]

/-- A payload byte is stored behind those before it. -/
theorem receive_payload (frame : UbxFrame) {index : Nat} (byte : UInt8)
    (fits : frame.length ≤ ubxMaxPayloadBytes) (inside : index < frame.length) :
    frame.receive (index + 6) byte =
      .ok (({ frame with payload := frame.payload.copyFromSlice index [byte] } :
        UbxFrame).checksumByte byte, index + 7, false) := by
  have room : index < ubxMaxPayloadBytes := Nat.lt_of_lt_of_le inside fits
  have sub : checkedSub (index + 6) 6 = .ok index := by simp [checkedSub]
  simp [receive, pure, Except.pure, bind, Except.bind, sub, storePayload, room, inside]

/-- The first sum is expected behind the payload. -/
theorem receive_ckA (frame : UbxFrame) (byte : UInt8) :
    frame.receive (frame.length + 6) byte =
      .ok (frame, if frame.ckA = byte then frame.length + 7 else 0, false) := by
  simp [receive, pure, Except.pure]

/-- The second sum completes the frame. -/
theorem receive_ckB (frame : UbxFrame) (byte : UInt8) :
    frame.receive (frame.length + 7) byte = .ok (frame, 0, frame.ckB = byte) := by
  simp [receive, pure, Except.pure]

/-- Sums over covered bytes and one more. -/
theorem sums_checksumByte (frame : UbxFrame) {bytes : List UInt8}
    (sums : (frame.ckA, frame.ckB) = checksum bytes) (byte : UInt8) :
    ((frame.checksumByte byte).ckA, (frame.checksumByte byte).ckB) =
      checksum (bytes ++ [byte]) := by
  rw [checksum_concat, ← sums]
  rfl

/-- A header is covered as far as it has been read. -/
theorem covered_of_short {body : List UInt8} (short : body.length ≤ 4) :
    UbxScan.covered body = body := by
  apply List.take_of_length_le
  omega

/-- The sums after a header byte are those over the header with the byte. -/
theorem Took.sums_header {frame : UbxFrame} {body : List UInt8} (took : frame.Took body)
    (some : 0 < body.length) (short : body.length < 4) (next : UbxFrame) (byte : UInt8)
    (same : next.ckA = frame.ckA ∧ next.ckB = frame.ckB) :
    ((next.checksumByte byte).ckA, (next.checksumByte byte).ckB) =
      checksum (UbxScan.covered (body ++ [byte])) := by
  -- Every byte of the header is covered.
  have sums := took.sums some
  rw [covered_of_short (by omega), ← same.1, ← same.2] at sums
  have longer : (body ++ [byte]).length ≤ 4 := by
    rw [List.length_append, List.length_singleton]
    omega
  rw [covered_of_short longer]
  exact sums_checksumByte next sums byte

/-- A header byte is taken in at its place. -/
theorem receive_header {frame : UbxFrame} {body : List UInt8} (took : frame.Took body)
    (short : body.length < 4) (byte : UInt8) :
    ∃ next position complete, frame.receive (body.length + 2) byte =
      .ok (next, position, complete) ∧
      Received next position complete ((UbxScan.reading body).step byte) := by
  -- The cases are the four bytes of the header.
  rcases body with _ | ⟨cls, _ | ⟨id, _ | ⟨low, _ | ⟨high, rest⟩⟩⟩⟩
  · refine ⟨_, _, _, receive_class frame byte, ⟨rfl, ?_⟩, rfl, nofun⟩
    exact ⟨fun _ => rfl, nofun, nofun, nofun, fun _ => rfl, nofun⟩
  · have known := took.cls (Nat.succ_pos _)
    have sums := took.sums_header (Nat.succ_pos _) short { frame with id := byte } byte
      ⟨rfl, rfl⟩
    refine ⟨_, _, _, receive_id frame byte, ⟨rfl, ?_⟩, rfl, nofun⟩
    exact ⟨fun _ => known, fun _ => rfl, nofun, nofun, fun _ => sums, nofun⟩
  · have known := took.cls (Nat.succ_pos _)
    have named := took.id (Nat.lt_succ_self _)
    have sums := took.sums_header (Nat.succ_pos _) short { frame with length := byte.toNat } byte
      ⟨rfl, rfl⟩
    refine ⟨_, _, _, receive_low frame byte, ⟨rfl, ?_⟩, rfl, nofun⟩
    refine ⟨fun _ => known, fun _ => named, fun _ => rfl, fun long => ?_, fun _ => sums, ?_⟩
    · exact absurd long (Nat.lt_irrefl 3)
    · intro index inside
      exact absurd (Nat.lt_of_le_of_lt (Nat.le_add_right 4 index) inside) (by simp)
  · have known := took.cls (Nat.succ_pos _)
    have named := took.id (by simp)
    have length : frame.length = low.toNat := took.length (Nat.lt_succ_self _)
    have announced : UbxScan.announced [cls, id, low, byte] = low.toNat + 256 * byte.toNat := rfl
    have total : frame.length ||| (byte.toNat <<< 8) = UbxScan.announced [cls, id, low, byte] := by
      rw [length, lowByte_or_highByte, announced]
    -- The last byte of the header makes the length known, and a frame that is too long is given up.
    by_cases fits : UbxScan.announced [cls, id, low, byte] ≤ ubxMaxPayloadBytes
    · have scanned : (UbxScan.reading [cls, id, low]).step byte =
          (.reading [cls, id, low, byte], none) := by
        simp [UbxScan.step, fits]
      have sums := took.sums_header (Nat.succ_pos _) short
        { frame with length := frame.length ||| (byte.toNat <<< 8) } byte ⟨rfl, rfl⟩
      rw [scanned]
      refine ⟨_, _, _, receive_high frame (by rwa [total]), ⟨rfl, ?_⟩, rfl, nofun⟩
      refine ⟨fun _ => known, fun _ => named, fun _ => total, fun _ => ⟨fits, ?_⟩, fun _ => sums,
        ?_⟩
      · simp only [List.length_cons, List.length_nil]
        omega
      · intro index inside
        simp only [List.length_cons, List.length_nil] at inside
        omega
    · have scanned : (UbxScan.reading [cls, id, low]).step byte = (.idle, none) := by
        simp [UbxScan.step, fits]
      rw [scanned]
      exact ⟨_, _, _, receive_tooLong frame (by rw [total]; omega), rfl, rfl, nofun⟩
  · simp only [List.length_cons] at short
    omega

/-- A byte behind the header does not change what the header announces. -/
theorem announced_concat {body : List UInt8} (long : 4 ≤ body.length) (byte : UInt8) :
    UbxScan.announced (body ++ [byte]) = UbxScan.announced body := by
  rw [UbxScan.announced, UbxScan.announced, List.getD_append _ _ _ _ (by omega),
    List.getD_append _ _ _ _ (by omega)]

/-- A byte behind the header leaves what is known of the header, so that the sums and the payload
decide what the receiver took. -/
theorem Took.concat {frame next : UbxFrame} {body : List UInt8} (took : frame.Took body)
    (long : 4 ≤ body.length) (short : body.length ≤ 4 + UbxScan.announced body) {byte : UInt8}
    (header : next.cls = frame.cls ∧ next.id = frame.id ∧ next.length = frame.length)
    (sums : (next.ckA, next.ckB) = checksum (UbxScan.covered (body ++ [byte])))
    (payload : ∀ index, 4 + index < body.length + 1 → index < UbxScan.announced body →
      next.payload.byteAt index = (body ++ [byte]).getD (4 + index) 0) :
    next.Took (body ++ [byte]) := by
  -- The bytes before it stay at their places.
  have same := announced_concat long byte
  have length : (body ++ [byte]).length = body.length + 1 := List.length_append
  have front : ∀ index, index < body.length → (body ++ [byte]).getD index 0 = body.getD index 0 :=
    fun index reached => List.getD_append _ _ _ _ reached
  refine ⟨?_, ?_, ?_, ?_, fun _ => sums, ?_⟩
  · intro _
    rw [header.1, front 0 (by omega)]
    exact took.cls (by omega)
  · intro _
    rw [header.2.1, front 1 (by omega)]
    exact took.id (by omega)
  · intro _
    rw [header.2.2, same]
    exact took.length (by omega)
  · intro _
    rw [same, length]
    exact ⟨(took.fits (by omega)).1, by omega⟩
  · intro index reached within
    rw [length] at reached
    rw [same] at within
    exact payload index reached within

/-- A payload byte goes behind those before it. -/
theorem Took.payload_byte {frame : UbxFrame} {body : List UInt8} (took : frame.Took body)
    (long : 4 ≤ body.length) (inside : body.length < 4 + UbxScan.announced body) (byte : UInt8) :
    (({ frame with payload := frame.payload.copyFromSlice (body.length - 4) [byte] } :
      UbxFrame).checksumByte byte).Took (body ++ [byte]) := by
  have same := announced_concat long byte
  have fits := (took.fits (by omega)).1
  refine took.concat long (by omega) ⟨rfl, rfl, rfl⟩ ?_ ?_
  · -- The whole body is still covered.
    have sums := took.sums (by omega)
    rw [UbxScan.covered, List.take_of_length_le (by omega)] at sums
    rw [UbxScan.covered, same, List.take_of_length_le (by
      rw [List.length_append, List.length_singleton]
      omega)]
    exact sums_checksumByte
      { frame with payload := frame.payload.copyFromSlice (body.length - 4) [byte] } sums byte
  · intro index reached within
    show (frame.payload.copyFromSlice (body.length - 4) [byte]).byteAt index = _
    rw [ByteImage.byteAt_copyFromSlice _ _ _ (Nat.lt_of_lt_of_le within fits),
      List.length_singleton]
    by_cases last : index = body.length - 4
    · subst last
      rw [if_pos (by omega), Nat.sub_self, show 4 + (body.length - 4) = body.length by omega,
        List.getD_append_right _ _ _ _ (Nat.le_refl _), Nat.sub_self]
    · -- Another byte of the payload was there before.
      rw [if_neg (by omega), List.getD_append _ _ _ _ (by omega)]
      exact took.payload index (by omega) within

/-- The first sum goes behind the payload. -/
theorem Took.first_sum {frame : UbxFrame} {body : List UInt8} (took : frame.Took body)
    (long : 4 ≤ body.length) (whole : body.length = 4 + UbxScan.announced body) (byte : UInt8) :
    frame.Took (body ++ [byte]) := by
  have same := announced_concat long byte
  refine took.concat long whole.le ⟨rfl, rfl, rfl⟩ ?_ ?_
  · -- The first sum is not covered itself.
    rw [UbxScan.covered, same, List.take_append_of_le_length (by omega)]
    exact took.sums (by omega)
  · intro index reached within
    rw [List.getD_append _ _ _ _ (by omega)]
    exact took.payload index (by omega) within

/-- The payload of a whole body is in the receiver's payload. -/
theorem Took.slice_payload {frame : UbxFrame} {body : List UInt8} (took : frame.Took body)
    (whole : 4 + UbxScan.announced body ≤ body.length) :
    (UbxScan.content body).payload.length = UbxScan.announced body ∧
      frame.payload.slice 0 (UbxScan.announced body) = (UbxScan.content body).payload := by
  -- Both hold the same byte at every place.
  have length : (UbxScan.content body).payload.length = UbxScan.announced body := by
    rw [UbxScan.content, UbxScan.covered, List.length_drop, List.length_take]
    omega
  refine ⟨length, List.ext_getElem ?_ ?_⟩
  · rw [ByteImage.length_slice, length]
  · intro index inside other
    rw [ByteImage.length_slice] at inside
    have stored := took.payload index (by omega) inside
    have byte : (UbxScan.content body).payload[index] = body.getD (4 + index) 0 := by
      simp only [UbxScan.content, UbxScan.covered, List.getElem_drop, List.getElem_take]
      rw [List.getD_eq_getElem _ _ (by omega)]
    rw [byte, ← stored]
    simp [ByteImage.slice]

/-- A byte behind the header is taken in at its place, or judged against the checksum. -/
theorem receive_behind {frame : UbxFrame} {body : List UInt8} (took : frame.Took body)
    (long : 4 ≤ body.length) (byte : UInt8) :
    ∃ next position complete, frame.receive (body.length + 2) byte =
      .ok (next, position, complete) ∧
      Received next position complete ((UbxScan.reading body).step byte) := by
  -- The cases are the payload, the first sum and the second one.
  have length := took.length (by omega)
  have sums := took.sums (by omega)
  obtain ⟨fits, bounded⟩ := took.fits (by omega)
  rcases Nat.lt_trichotomy body.length (4 + UbxScan.announced body) with inside | whole | judged
  · -- A payload byte.
    have received := receive_payload frame byte (show frame.length ≤ ubxMaxPayloadBytes by omega)
      (show body.length - 4 < frame.length by omega)
    rw [show body.length - 4 + 6 = body.length + 2 by omega] at received
    refine ⟨_, _, _, received, ?_⟩
    rw [UbxScan.step_payload long inside]
    refine ⟨⟨?_, took.payload_byte long inside byte⟩, rfl, nofun⟩
    rw [List.length_append, List.length_singleton]
    omega
  · -- The first sum.
    have received := receive_ckA frame byte
    rw [length, show UbxScan.announced body + 6 = body.length + 2 by omega] at received
    refine ⟨_, _, _, received, ?_⟩
    have first : frame.ckA = (checksum (UbxScan.covered body)).1 := congrArg Prod.fst sums
    rw [UbxScan.step_first long whole, first]
    split
    · refine ⟨⟨?_, took.first_sum long whole byte⟩, rfl, nofun⟩
      rw [List.length_append, List.length_singleton]
      omega
    · exact ⟨rfl, rfl, nofun⟩
  · -- The second sum.
    have received := receive_ckB frame byte
    rw [length, show UbxScan.announced body + 7 = body.length + 2 by omega] at received
    refine ⟨_, _, _, received, ?_⟩
    have second : frame.ckB = (checksum (UbxScan.covered body)).2 := congrArg Prod.snd sums
    obtain ⟨size, stored⟩ := took.slice_payload (by omega)
    rw [UbxScan.step_second long judged, second]
    by_cases correct : (checksum (UbxScan.covered body)).2 = byte
    · rw [if_pos correct]
      refine ⟨rfl, decide_eq_true correct, ?_⟩
      rintro content ⟨⟩
      refine ⟨took.cls (by omega), took.id (by omega), ?_, ?_⟩
      · rw [size, length]
      · rw [size, stored]
    · rw [if_neg correct]
      exact ⟨rfl, decide_eq_false correct, nofun⟩

/-- A receiver that follows the bytes goes on following them, and never panics. -/
theorem receive_follows {frame : UbxFrame} {index : Nat} {scan : UbxScan}
    (follows : frame.Follows index scan) (byte : UInt8) :
    ∃ next position complete, frame.receive index byte = .ok (next, position, complete) ∧
      Received next position complete (scan.step byte) := by
  -- The cases are the phases of the scan.
  cases scan with
  | idle =>
    obtain rfl : index = 0 := follows
    refine ⟨frame, if byte = ubxSync1 then 1 else 0, false, ?_, ?_, rfl, nofun⟩
    · simp [receive, pure, Except.pure]
    · rw [UbxScan.step]
      split <;> rfl
  | started =>
    obtain rfl : index = 1 := follows
    by_cases again : byte = ubxSync1
    · -- A repeated first byte starts the frame again.
      subst again
      refine ⟨frame, 1, false, ?_, rfl, rfl, nofun⟩
      simp [receive, pure, Except.pure]
    · refine ⟨frame, if byte = ubxSync2 then 2 else 0, false, ?_, ?_, rfl, nofun⟩
      · simp [receive, pure, Except.pure, again]
      · simp only [UbxScan.step, if_neg again]
        split
        · exact ⟨rfl, nofun, nofun, nofun, nofun, nofun, nofun⟩
        · rfl
  | reading body =>
    obtain ⟨rfl, took⟩ := follows
    rcases Nat.lt_or_ge body.length 4 with short | long
    · exact receive_header took short byte
    · exact receive_behind took long byte

end UbxFrame

end Veloxity
