import Mathlib.Data.List.GetD
import Veloxity.Library.Transducer
import Veloxity.Comms.Candidate

/-! What a candidate does with the bytes of one frame, and with the bytes between frames. -/

namespace Veloxity

open Library

/-- The bytes begin a frame without completing it. -/
def Unfinished (held : List UInt8) : Prop := held.length < 8 + payloadLength held

/-- The bytes are one whole frame with its own length and checksum. -/
structure IsFrame (bytes : List UInt8) : Prop where
  start : bytes.head? = some startByte
  length : bytes.length = 8 + payloadLength bytes
  checksum : ChecksumMatches bytes

/-- A body followed by its checksum, low byte first. -/
def sealBody (body : List UInt8) : List UInt8 :=
  body ++ [(candidateCrc body).toUInt8, (candidateCrc body >>> 8).toUInt8]

section Bytes

/-- Later bytes leave the announced payload length as it was. -/
theorem payloadLength_append_list {held : List UInt8} (long : 2 ≤ held.length)
    (more : List UInt8) : payloadLength (held ++ more) = payloadLength held := by
  -- The length byte sits at index one.
  unfold payloadLength
  rw [List.getD_eq_getElem?_getD, List.getD_eq_getElem?_getD,
    List.getElem?_append_left (by omega)]

/-- The bytes of an unfinished frame were unfinished before the last of them came. -/
theorem Unfinished.of_append {held more : List UInt8} (unfinished : Unfinished (held ++ more)) :
    Unfinished held := by
  unfold Unfinished at *
  rw [List.length_append] at unfinished
  -- The announced length is read from the second byte, once it is there.
  by_cases long : 2 ≤ held.length
  · rw [payloadLength_append_list long] at unfinished
    omega
  · omega

/-- The checksum does not depend on what follows the payload. -/
theorem candidateCrc_append {held : List UInt8} (covered : 6 + payloadLength held ≤ held.length)
    (more : List UInt8) : candidateCrc (held ++ more) = candidateCrc held := by
  -- Every byte the checksum reads lies among the held ones.
  unfold candidateCrc
  rw [payloadLength_append_list (by omega), List.drop_append_of_le_length (by omega),
    List.take_append_of_le_length (by rw [List.length_drop]; omega),
    List.getD_append _ _ _ _ (by omega)]

/-- A checksum is put together again from its low and high bytes. -/
theorem crc_of_bytes (crc : UInt16) :
    ((crc >>> 8).toUInt8.toUInt16 <<< 8) ||| crc.toUInt8.toUInt16 = crc := by
  -- Each of the sixteen bits comes from exactly one of the two bytes.
  apply UInt16.toBitVec_inj.mp
  ext index bounded
  simp only [UInt16.toBitVec_or, UInt16.toBitVec_shiftLeft, UInt8.toBitVec_toUInt16,
    UInt16.toBitVec_toUInt8, UInt16.toBitVec_shiftRight]
  by_cases low : index < 8
  · simp [low, BitVec.getLsbD_eq_getElem bounded]
  · have high : index - 8 < 8 := by omega
    have back : 8 + (index - 8) = index := by omega
    simp [low, high, back, BitVec.getLsbD_eq_getElem bounded]

/-- The last two bytes are the received checksum. -/
theorem receivedCrc_append_pair (body : List UInt8) (low high : UInt8) :
    receivedCrc (body ++ [low, high]) = (high.toUInt16 <<< 8) ||| low.toUInt16 := by
  -- They sit just behind the body.
  simp [receivedCrc, List.getD_eq_getElem?_getD]

/-- A sealed body carries its own checksum. -/
theorem checksumMatches_sealBody {body : List UInt8}
    (covered : 6 + payloadLength body ≤ body.length) : ChecksumMatches (sealBody body) := by
  rw [ChecksumMatches, sealBody, receivedCrc_append_pair, candidateCrc_append covered,
    crc_of_bytes]

end Bytes

namespace Candidate

/-- The phase of a candidate whose bytes all belong to the frame it has begun. -/
def phaseOf (held : List UInt8) : ParseState :=
  if held.length = 0 then .waitingForStart
  else if held.length < 6 then .readingHeader
  else if held.length < 6 + payloadLength held then .readingPayload (payloadLength held)
  else .readingChecksum (8 + payloadLength held - held.length)

/-- The candidate that has read the given bytes of a frame. -/
def reading (held : List UInt8) : Candidate := { held, phase := phaseOf held }

/-- Nothing read is the idle candidate. -/
theorem reading_nil : reading [] = idle := rfl

/-- A start byte begins a frame. -/
theorem step_idle_start : idle.step startByte = (reading [startByte], none) := rfl

/-- Fewer than six bytes are part of a header. -/
theorem phaseOf_header {held : List UInt8} (begun : 0 < held.length) (short : held.length < 6) :
    phaseOf held = .readingHeader := by
  rw [phaseOf, if_neg (by omega), if_pos short]

/-- Behind the header stands the payload. -/
theorem phaseOf_payload {held : List UInt8} (header : 6 ≤ held.length)
    (short : held.length < 6 + payloadLength held) :
    phaseOf held = .readingPayload (payloadLength held) := by
  rw [phaseOf, if_neg (by omega), if_neg (by omega), if_pos short]

/-- Behind the payload stands the checksum. -/
theorem phaseOf_checksum {held : List UInt8} (full : 6 + payloadLength held ≤ held.length) :
    phaseOf held = .readingChecksum (8 + payloadLength held - held.length) := by
  rw [phaseOf, if_neg (by omega), if_neg (by omega), if_neg (by omega)]

/-- A completed header goes on to the payload, or to the checksum where there is none. -/
theorem phaseOf_afterHeader {held : List UInt8} (header : held.length = 6) :
    phaseOf held = afterHeader held := by
  -- The six bytes leave the whole payload to be read.
  unfold afterHeader
  split
  · rename_i empty
    rw [phaseOf_checksum (by omega), empty, header]
  · rw [phaseOf_payload (by omega) (by omega)]

/-- A byte that is not the frame's last is read without a verdict. -/
theorem step_reading {held : List UInt8} (begun : held ≠ []) {byte : UInt8}
    (unfinished : Unfinished (held ++ [byte])) :
    (reading held).step byte = (reading (held ++ [byte]), none) := by
  -- The length held decides the phase on both sides.
  have positive : 0 < held.length := List.length_pos_of_ne_nil begun
  have longer : (held ++ [byte]).length = held.length + 1 := by simp
  unfold Unfinished at unfinished
  unfold reading step
  by_cases header : held.length < 6
  · simp only [phaseOf_header positive header]
    split
    · rw [phaseOf_afterHeader (by omega)]
    · rw [phaseOf_header (by omega) (by omega)]
  · have kept := payloadLength_append (show 2 ≤ held.length by omega) byte
    by_cases payload : held.length < 6 + payloadLength held
    · simp only [phaseOf_payload (by omega) payload]
      split
      · rw [phaseOf_checksum (by omega), kept, longer]
        congr 3
        omega
      · rw [phaseOf_payload (by omega) (by omega), kept]
    · simp only [phaseOf_checksum (by omega : 6 + payloadLength held ≤ held.length)]
      rw [if_neg (by omega), phaseOf_checksum (by omega), kept, longer, Nat.sub_add_eq]

/-- A frame's last byte brings the verdict on it. -/
theorem step_reading_last {held : List UInt8} {byte : UInt8}
    (last : held.length + 1 = 8 + payloadLength held) :
    (reading held).step byte =
      if ChecksumMatches (held ++ [byte]) then (idle, some (held ++ [byte]))
      else (restart (held ++ [byte]), none) := by
  -- One checksum byte is still to come.
  have one : 8 + payloadLength held - held.length = 1 := by omega
  unfold reading step
  simp only [phaseOf_checksum (by omega : 6 + payloadLength held ≤ held.length), one, if_true]

/-- Reading goes on for as long as the frame is unfinished. -/
theorem transduce_reading {held : List UInt8} (begun : held ≠ []) (more : List UInt8)
    (unfinished : Unfinished (held ++ more)) :
    transduce step (reading held) more = (reading (held ++ more), []) := by
  -- The bytes are taken off one at a time from the front.
  induction more generalizing held with
  | nil => simp
  | cons byte rest ih =>
    rw [List.append_cons] at unfinished
    rw [transduce_cons_silent rest (step_reading begun unfinished.of_append),
      ih (by simp) unfinished, ← List.append_cons]

/-- From idle, the bytes of an unfinished frame are read from its start byte on. -/
theorem transduce_idle {bytes : List UInt8} (start : bytes.head? = some startByte)
    (unfinished : Unfinished bytes) : transduce step idle bytes = (reading bytes, []) := by
  -- The start byte begins the frame and the others continue it.
  obtain ⟨rest, rfl⟩ := List.head?_eq_some_iff.mp start
  rw [transduce_cons_silent rest step_idle_start]
  exact transduce_reading (by simp) rest unfinished

/-- A whole frame's bytes up to its last one are unfinished. -/
theorem unfinished_dropLast {bytes : List UInt8} (whole : bytes.length = 8 + payloadLength bytes) :
    ∃ body last, bytes = body ++ [last] ∧ body.length + 1 = 8 + payloadLength body ∧
      Unfinished body := by
  -- The length byte is not the last one.
  obtain ⟨body, last, rfl⟩ : ∃ body last, bytes = body ++ [last] :=
    ⟨bytes.dropLast, bytes.getLast (List.ne_nil_of_length_pos (by omega)),
      (List.dropLast_append_getLast _).symm⟩
  rw [List.length_append, List.length_singleton] at whole
  rw [payloadLength_append (show 2 ≤ body.length by omega)] at whole
  exact ⟨body, last, rfl, whole, by unfold Unfinished; omega⟩

/-- From idle, a whole frame is emitted and leaves the candidate idle. -/
theorem transduce_frame {bytes : List UInt8} (frame : IsFrame bytes) :
    transduce step idle bytes = (idle, [bytes]) := by
  -- Its last byte is judged after the others have been read.
  obtain ⟨start, whole, checksum⟩ := frame
  obtain ⟨body, last, rfl, judged, unfinished⟩ := unfinished_dropLast whole
  have begun : body.head? = some startByte := by
    rwa [List.head?_append_of_ne_nil _ (List.ne_nil_of_length_pos (by omega))] at start
  rw [transduce_concat, transduce_idle begun unfinished, step_reading_last judged,
    if_pos checksum]
  rfl

section Lengths

/-- A restart holds no more than what was kept, one byte less than the candidate at least. -/
theorem length_restart_lt {held : List UInt8} (begun : held ≠ []) :
    (restart held).held.length < held.length := by
  -- The first byte is never kept.
  have kept : (restart held).held = retained held := by
    unfold restart
    split
    · rename_i empty
      rw [empty]
      rfl
    · rename_i first rest same
      rw [same]
  have suffix := (List.dropWhile_sublist (l := held.tail) (· != startByte)).length_le
  have positive := List.length_pos_of_ne_nil begun
  rw [kept, retained]
  rw [List.length_tail] at suffix
  omega

/-- A step holds one byte more at most, and what it emits has exactly one byte more. -/
theorem step_length_le (candidate : Candidate) (byte : UInt8) :
    (candidate.step byte).1.held.length ≤ candidate.held.length + 1 ∧
      ∀ frame, (candidate.step byte).2 = some frame →
        frame.length = candidate.held.length + 1 := by
  -- Each branch keeps the bytes, adds one, or starts anew.
  obtain ⟨held, phase⟩ := candidate
  cases phase with
  | waitingForStart =>
    simp only [step]
    split
    · simp
    · simp
  | readingHeader =>
    simp only [step]
    split
    · simp
    · simp
  | readingPayload expectedLen =>
    simp only [step]
    split
    · simp
    · simp
  | readingChecksum bytesRemaining =>
    simp only [step]
    split
    · split
      · simp [idle]
      · have shorter := length_restart_lt (show held ++ [byte] ≠ [] by simp)
        rw [List.length_append, List.length_singleton] at shorter
        exact ⟨by simp only; omega, by simp⟩
    · simp

/-- Feeding bytes holds and emits no more than the bytes held and fed. -/
theorem transduce_length_le (candidate : Candidate) (bytes : List UInt8) :
    (transduce step candidate bytes).1.held.length ≤ candidate.held.length + bytes.length ∧
      ∀ frame ∈ (transduce step candidate bytes).2,
        frame.length ≤ candidate.held.length + bytes.length := by
  -- Each step adds one byte to the bound.
  induction bytes generalizing candidate with
  | nil => simp
  | cons byte rest ih =>
    obtain ⟨longer, first⟩ := step_length_le candidate byte
    obtain ⟨last, others⟩ := ih (candidate.step byte).1
    rw [transduce_cons, List.length_cons]
    refine ⟨by simp only; omega, fun frame member => ?_⟩
    rcases List.mem_append.mp member with now | later
    · have exact_length := first frame (Option.mem_toList.mp now)
      omega
    · have bound := others frame later
      omega

/-- Once a frame's announced length has been read, what is held or emitted afterwards is
shorter than all the bytes read. -/
theorem transduce_past_verdict {bytes : List UInt8} (start : bytes.head? = some startByte)
    (past : 8 + payloadLength bytes ≤ bytes.length) :
    (transduce step idle bytes).1.held.length < bytes.length ∧
      (8 + payloadLength bytes < bytes.length →
        ∀ frame ∈ (transduce step idle bytes).2, frame.length < bytes.length) := by
  -- The verdict on the first bytes drops at least one of them.
  obtain ⟨first, rest, rfl, whole⟩ : ∃ first rest, bytes = first ++ rest ∧
      first.length = 8 + payloadLength first := by
    refine ⟨bytes.take (8 + payloadLength bytes), bytes.drop (8 + payloadLength bytes),
      (List.take_append_drop _ _).symm, ?_⟩
    have width : (bytes.take (8 + payloadLength bytes)).length = 8 + payloadLength bytes := by
      rw [List.length_take]
      omega
    have long : 2 ≤ (bytes.take (8 + payloadLength bytes)).length := by omega
    have same := payloadLength_append_list long (bytes.drop (8 + payloadLength bytes))
    rw [List.take_append_drop] at same
    omega
  rw [payloadLength_append_list (by omega)] at past ⊢
  rw [List.head?_append_of_ne_nil _ (List.ne_nil_of_length_pos (by omega))] at start
  obtain ⟨body, last, rfl, judged, unfinished⟩ := unfinished_dropLast whole
  have begun : body.head? = some startByte := by
    rwa [List.head?_append_of_ne_nil _ (List.ne_nil_of_length_pos (by omega))] at start
  have verdict : (transduce step idle (body ++ [last])).1.held.length < body.length + 1 ∧
      ∀ frame ∈ (transduce step idle (body ++ [last])).2, frame.length = body.length + 1 := by
    rw [transduce_concat, transduce_idle begun unfinished, step_reading_last judged]
    split
    · simp [idle]
    · have shorter := length_restart_lt (show body ++ [last] ≠ [] by simp)
      rw [List.length_append, List.length_singleton] at shorter
      exact ⟨shorter, by simp⟩
  -- The bytes behind the verdict add no more than themselves to what is held or emitted.
  obtain ⟨longer, emitted⟩ :=
    transduce_length_le (transduce step idle (body ++ [last])).1 rest
  rw [transduce_append]
  simp only [List.length_append, List.length_singleton] at past whole ⊢
  refine ⟨by omega, fun strictly frame member => ?_⟩
  rcases List.mem_append.mp member with now | later
  · have exactly := verdict.2 frame now
    omega
  · have bound := emitted frame later
    omega

end Lengths

end Candidate

end Veloxity
