import Mathlib.Data.List.GetD
import Veloxity.Comms.Reading

/-! Where a candidate restarted from a failed one reads on as a fresh one would. -/

namespace Veloxity

open Library

/-- The kept bytes are short of a header, or of two payload bytes and more. -/
def Resumable (kept : List UInt8) : Prop :=
  kept.length ≤ 5 ∨ kept.length + 2 ≤ 6 + payloadLength kept

instance (kept : List UInt8) : Decidable (Resumable kept) :=
  inferInstanceAs (Decidable (_ ∨ _))

/-- The bytes a restart that cannot resume takes for one frame. -/
def lateFrame (kept : List UInt8) : List UInt8 :=
  -- A byte completes the header once more, and another one a payload that is there already.
  sealBody (kept ++ if payloadLength kept = 0 then [0] else [0, 0])

/-- What is kept begins with a start byte and ends the failed candidate. -/
theorem retained_suffix (held : List UInt8) : retained held <:+ held :=
  (List.dropWhile_suffix _).trans (List.tail_suffix held)

/-- What is kept begins with a start byte. -/
theorem head_retained {held : List UInt8} (kept : retained held ≠ []) :
    (retained held).head? = some startByte := by
  -- The bytes dropped are those that are not start bytes.
  unfold retained at kept ⊢
  have first := List.head_dropWhile_not (· != startByte) kept
  rw [List.head?_eq_some_head kept]
  exact congrArg some (by simpa using first)

namespace Candidate

/-- The candidate that takes the kept bytes for part of a header. -/
def restarted (kept : List UInt8) : Candidate := { held := kept, phase := .readingHeader }

/-- A restart with something kept takes it for part of a header. -/
theorem restart_of_kept {held : List UInt8} (kept : retained held ≠ []) :
    restart held = restarted (retained held) := by
  unfold restart restarted
  -- Something is kept, so the restart is no idle one.
  split
  · contradiction
  · rename_i first rest same
    rw [same]

/-- A restart with less than a header kept reads on from what was kept. -/
theorem restart_of_short {held : List UInt8} (short : (retained held).length ≤ 5) :
    restart held = reading (retained held) := by
  -- With nothing kept the parser waits for a start byte again.
  by_cases kept : retained held = []
  · unfold restart
    simp only [kept]
    exact reading_nil.symm
  · have positive := List.length_pos_of_ne_nil kept
    rw [restart_of_kept kept, restarted, reading, phaseOf_header positive (by omega)]

/-- With a header kept, a resumable restart is back in step after one byte. -/
theorem step_restarted {kept : List UInt8} (long : 6 ≤ kept.length) (resumable : Resumable kept)
    (byte : UInt8) : (restarted kept).step byte = (reading (kept ++ [byte]), none) := by
  -- One byte later the payload is still short of another one.
  have same := payloadLength_append (show 2 ≤ kept.length by omega) byte
  have longer : (kept ++ [byte]).length = kept.length + 1 := by simp
  have short := resumable.resolve_left (by omega)
  show (if 6 ≤ (kept ++ [byte]).length then _ else _) = _
  rw [if_pos (by omega), reading, phaseOf_payload (by omega) (by omega)]
  show (Candidate.mk (kept ++ [byte]) (afterHeader (kept ++ [byte])), _) = _
  rw [afterHeader, if_neg (by omega)]

/-- With a header kept, a fresh candidate that read the same takes the byte likewise. -/
theorem step_reading_of_resumable {kept : List UInt8} (long : 6 ≤ kept.length)
    (resumable : Resumable kept) (byte : UInt8) :
    (reading kept).step byte = (reading (kept ++ [byte]), none) := by
  -- The frame is still unfinished.
  have short := resumable.resolve_left (by omega)
  refine step_reading (List.ne_nil_of_length_pos (by omega)) ?_
  unfold Unfinished
  rw [payloadLength_append (by omega), List.length_append, List.length_singleton]
  omega

/-- A body waiting for its checksum is emitted with it. -/
theorem transduce_checksum {body : List UInt8}
    (covered : 6 + payloadLength body ≤ body.length) :
    transduce step { held := body, phase := .readingChecksum 2 }
        [(candidateCrc body).toUInt8, (candidateCrc body >>> 8).toUInt8] =
      (idle, [sealBody body]) := by
  -- The second checksum byte brings the verdict.
  have matching := checksumMatches_sealBody covered
  rw [sealBody, List.append_cons] at matching
  have verdict : Candidate.step
      { held := body ++ [(candidateCrc body).toUInt8], phase := .readingChecksum 1 }
      (candidateCrc body >>> 8).toUInt8 = (idle, some (sealBody body)) := by
    show (if ChecksumMatches _ then _ else _) = _
    rw [if_pos matching, sealBody, ← List.append_cons]
  have counted : Candidate.step { held := body, phase := .readingChecksum 2 }
      (candidateCrc body).toUInt8 =
      ({ held := body ++ [(candidateCrc body).toUInt8], phase := .readingChecksum 1 }, none) := rfl
  rw [transduce_cons_silent _ counted, transduce_cons, verdict]
  rfl

/-- A restart that cannot resume emits a frame longer than its bytes announce. -/
theorem transduce_late {kept : List UInt8} (late : ¬ Resumable kept) :
    ∃ more, lateFrame kept = kept ++ more ∧
      transduce step (restarted kept) more = (idle, [lateFrame kept]) := by
  rw [Resumable, not_or] at late
  have header : ∀ byte, (restarted kept).step byte =
      ({ held := kept ++ [byte], phase := afterHeader (kept ++ [byte]) }, none) := by
    intro byte
    show (if 6 ≤ (kept ++ [byte]).length then _ else _) = _
    rw [if_pos (by rw [List.length_append, List.length_singleton]; omega)]
    rfl
  have same := payloadLength_append (show 2 ≤ kept.length by omega) 0
  by_cases empty : payloadLength kept = 0
  · -- One byte completes the header a second time, and the checksum follows.
    have covered : 6 + payloadLength (kept ++ [0]) ≤ (kept ++ [0]).length := by
      rw [List.length_append, List.length_singleton]
      omega
    refine ⟨[0, (candidateCrc (kept ++ [0])).toUInt8, (candidateCrc (kept ++ [0]) >>> 8).toUInt8],
      ?_, ?_⟩
    · rw [lateFrame, if_pos empty, sealBody, ← List.append_cons]
    · rw [transduce_cons_silent _ (header 0), afterHeader, if_pos (by omega),
        transduce_checksum covered, lateFrame, if_pos empty]
  · -- Another byte makes the payload, which is complete already, one byte too long.
    have body : kept ++ [0, 0] = kept ++ [0] ++ [0] := by simp
    have covered : 6 + payloadLength (kept ++ [0, 0]) ≤ (kept ++ [0, 0]).length := by
      rw [payloadLength_append_list (by omega), List.length_append, List.length_cons,
        List.length_singleton]
      omega
    have payload : Candidate.step
        { held := kept ++ [0], phase := .readingPayload (payloadLength (kept ++ [0])) } 0 =
        ({ held := kept ++ [0, 0], phase := .readingChecksum 2 }, none) := by
      show (if payloadLength (kept ++ [0]) ≤ (kept ++ [0] ++ [0]).length - 6 then _ else _) = _
      rw [← body,
        if_pos (by rw [List.length_append, List.length_cons, List.length_singleton]; omega)]
    refine ⟨[0, 0, (candidateCrc (kept ++ [0, 0])).toUInt8,
      (candidateCrc (kept ++ [0, 0]) >>> 8).toUInt8], ?_, ?_⟩
    · rw [lateFrame, if_neg empty, sealBody]
      simp
    · rw [transduce_cons_silent _ (header 0), afterHeader, if_neg (by omega),
        transduce_cons_silent _ payload, transduce_checksum covered, lateFrame, if_neg empty]

/-- The frame of a restart that cannot resume is longer than its bytes announce. -/
theorem length_lateFrame {kept : List UInt8} (late : ¬ Resumable kept) :
    payloadLength (lateFrame kept) = payloadLength kept ∧
      8 + payloadLength kept < (lateFrame kept).length := by
  -- A restart that cannot resume holds more bytes than its header announces.
  rw [Resumable, not_or] at late
  unfold lateFrame sealBody
  rw [List.append_assoc]
  refine ⟨payloadLength_append_list (by omega) _, ?_⟩
  split
  · simp only [List.length_append, List.length_cons, List.length_nil]
    omega
  · simp only [List.length_append, List.length_cons, List.length_nil]
    omega

end Candidate

end Veloxity
