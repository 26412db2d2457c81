import Mathlib.Data.List.Basic
import Veloxity.Comms.Parser

/-! The frame parser without its buffer: a candidate is the list of bytes held so far. -/

namespace Veloxity

/-- A candidate frame is its held bytes together with the parser's progress through it. -/
structure Candidate where
  held : List UInt8
  phase : ParseState
  deriving DecidableEq, Repr

/-- The payload length a candidate announces in its second byte. -/
def payloadLength (held : List UInt8) : Nat := (held.getD 1 0).toNat

/-- Accumulate a list of bytes into a checksum. -/
def crcOfBytes (bytes : List UInt8) (crc : UInt16) : UInt16 :=
  bytes.foldl (fun crc byte => crcAccumulate byte crc) crc

/-- The checksum computed from a candidate's header and payload bytes. -/
def candidateCrc (held : List UInt8) : UInt16 :=
  -- The payload length comes from the candidate and not from where its bytes end.
  let crc := crcOfBytes ((held.drop 1).take (5 + payloadLength held)) 0xFFFF
  let extra := crcExtra (held.getD 5 0)
  if extra ≠ 0 then crcAccumulate extra crc else crc

/-- The checksum carried by a candidate's last two bytes, low byte first. -/
def receivedCrc (held : List UInt8) : UInt16 :=
  ((held.getD (held.length - 1) 0).toUInt16 <<< 8) ||| (held.getD (held.length - 2) 0).toUInt16

/-- A candidate carries the checksum computed from its bytes. -/
def ChecksumMatches (held : List UInt8) : Prop := receivedCrc held = candidateCrc held

instance (held : List UInt8) : Decidable (ChecksumMatches held) :=
  inferInstanceAs (Decidable (receivedCrc held = candidateCrc held))

/-- What a failed candidate leaves behind, from its next start byte on. -/
def retained (held : List UInt8) : List UInt8 := held.tail.dropWhile (· != startByte)

namespace Candidate

/-- No bytes held and no frame begun. -/
def idle : Candidate := { held := [], phase := .waitingForStart }

/-- The candidate that continues from a failed one. -/
def restart (held : List UInt8) : Candidate :=
  match retained held with
  | [] => idle
  | first :: rest => { held := first :: rest, phase := .readingHeader }

/-- The phase entered once a candidate's header is complete. -/
def afterHeader (held : List UInt8) : ParseState :=
  if payloadLength held = 0 then .readingChecksum 2 else .readingPayload (payloadLength held)

/-- Advance a candidate by one byte, emitting the bytes of a frame that checks out. -/
def step (candidate : Candidate) (byte : UInt8) : Candidate × Option (List UInt8) :=
  match candidate.phase with
  | .waitingForStart =>
    if byte = startByte then ({ held := [byte], phase := .readingHeader }, none)
    else (candidate, none)
  | .readingHeader =>
    let held := candidate.held ++ [byte]
    if 6 ≤ held.length then ({ held, phase := afterHeader held }, none)
    else ({ held, phase := .readingHeader }, none)
  | .readingPayload expectedLen =>
    let held := candidate.held ++ [byte]
    if expectedLen ≤ held.length - 6 then ({ held, phase := .readingChecksum 2 }, none)
    else ({ held, phase := .readingPayload expectedLen }, none)
  | .readingChecksum bytesRemaining =>
    let held := candidate.held ++ [byte]
    if bytesRemaining = 1 then
      if ChecksumMatches held then (idle, some held) else (restart held, none)
    else ({ held, phase := .readingChecksum (bytesRemaining - 1) }, none)

/-- The bytes a candidate holds are enough for what its phase will read back. -/
def WellFormed (candidate : Candidate) : Prop :=
  match candidate.phase with
  | .waitingForStart => candidate.held = []
  | .readingHeader => candidate.held ≠ []
  | .readingPayload expectedLen =>
    6 ≤ candidate.held.length ∧ expectedLen = payloadLength candidate.held
  | .readingChecksum bytesRemaining =>
    (bytesRemaining = 1 ∨ bytesRemaining = 2) ∧
      8 + payloadLength candidate.held ≤ candidate.held.length + bytesRemaining

/-- The buffer has room for everything the candidate still has to store. -/
def Fits (candidate : Candidate) : Prop :=
  match candidate.phase with
  | .waitingForStart => True
  | .readingHeader =>
    candidate.held.length + 4 ≤ maxFrameSizeBytes ∨
      (candidate.held.length + 3 ≤ maxFrameSizeBytes ∧ payloadLength candidate.held = 0)
  | .readingPayload _ => candidate.held.length + 3 ≤ maxFrameSizeBytes
  | .readingChecksum bytesRemaining => candidate.held.length + bytesRemaining ≤ maxFrameSizeBytes

/-- Continuing after a checksum failure leaves room for the next candidate's shortest form. -/
def RestartFits (candidate : Candidate) (byte : UInt8) : Prop :=
  candidate.phase = .readingChecksum 1 → ¬ ChecksumMatches (candidate.held ++ [byte]) →
    (retained (candidate.held ++ [byte])).length + 4 ≤ maxFrameSizeBytes ∨
      ((retained (candidate.held ++ [byte])).length + 3 ≤ maxFrameSizeBytes ∧
        payloadLength (retained (candidate.held ++ [byte])) = 0)

instance (candidate : Candidate) (byte : UInt8) : Decidable (candidate.RestartFits byte) :=
  inferInstanceAs (Decidable (_ → _ → _))

/-- A byte is stored past the start, so the announced payload length stays as it was. -/
theorem payloadLength_append {held : List UInt8} (long : 2 ≤ held.length) (byte : UInt8) :
    payloadLength (held ++ [byte]) = payloadLength held := by
  -- The length byte sits at index one, before the appended byte.
  unfold payloadLength
  rw [List.getD_eq_getElem?_getD, List.getD_eq_getElem?_getD,
    List.getElem?_append_left (by omega)]

/-- A payload length is a byte value. -/
theorem payloadLength_le (held : List UInt8) : payloadLength held ≤ 255 := by
  -- Bytes are below 256.
  have bounded := (held.getD 1 0).toNat_lt
  unfold payloadLength
  omega

/-- A failed candidate restarts in a well-formed phase. -/
theorem restart_wellFormed (held : List UInt8) : (restart held).WellFormed := by
  -- Either nothing is kept and the parser is idle, or a nonempty suffix begins a header.
  unfold restart
  split
  · simp [idle, WellFormed]
  · simp [WellFormed]

/-- Every byte keeps a well-formed candidate well formed. -/
theorem step_wellFormed {candidate : Candidate} (formed : candidate.WellFormed) (byte : UInt8) :
    (candidate.step byte).1.WellFormed := by
  -- Each phase hands its counters to the next one.
  obtain ⟨held, phase⟩ := candidate
  cases phase with
  | waitingForStart =>
    simp only [step]
    split
    · simp [WellFormed]
    · exact formed
  | readingHeader =>
    simp only [step]
    split
    · rename_i complete
      unfold afterHeader
      split
      · rename_i empty
        exact ⟨Or.inr rfl, by simp only [empty]; omega⟩
      · exact ⟨complete, rfl⟩
    · simp [WellFormed]
  | readingPayload expectedLen =>
    obtain ⟨long, same⟩ := formed
    simp only at long same
    -- A payload byte does not change the length that the header announces.
    have kept := payloadLength_append (show 2 ≤ held.length by omega) byte
    simp only [step]
    split
    · rename_i reached
      simp only [List.length_append, List.length_singleton] at reached
      exact ⟨Or.inr rfl, by simp only [kept, List.length_append, List.length_singleton]; omega⟩
    · exact ⟨by simp only [List.length_append]; omega, by rw [kept, same]⟩
  | readingChecksum bytesRemaining =>
    obtain ⟨counter, enough⟩ := formed
    simp only at enough
    simp only [step]
    split
    · split
      · simp [idle, WellFormed]
      · -- Only a failed checksum restarts, and what it restarts from is well formed.
        exact restart_wellFormed _
    · rename_i unfinished
      have two : bytesRemaining = 2 := by omega
      have kept := payloadLength_append (show 2 ≤ held.length by omega) byte
      exact ⟨Or.inl (by omega), by
        simp only [kept, List.length_append, List.length_singleton]; omega⟩

/-- A candidate that fits and holds bytes has room for the next one. -/
theorem Fits.room {candidate : Candidate} (fits : candidate.Fits) (formed : candidate.WellFormed) :
    candidate.phase = .waitingForStart ∨ candidate.held.length < maxFrameSizeBytes := by
  -- Every busy phase still has at least one byte to store.
  obtain ⟨held, phase⟩ := candidate
  cases phase with
  | waitingForStart => exact Or.inl rfl
  | readingHeader => right; simp only [Fits] at fits ⊢; omega
  | readingPayload expectedLen => right; simp only [Fits] at fits ⊢; omega
  | readingChecksum bytesRemaining =>
    right
    obtain ⟨counter, -⟩ := formed
    simp only [Fits] at fits ⊢
    omega

/-- Room is kept by every byte whose checksum failure, if it causes one, restarts with room. -/
theorem step_fits {candidate : Candidate} (fits : candidate.Fits) (formed : candidate.WellFormed)
    {byte : UInt8} (roomy : candidate.RestartFits byte) : (candidate.step byte).1.Fits := by
  -- Only a restart can move the candidate's end closer to the end of the buffer.
  obtain ⟨held, phase⟩ := candidate
  cases phase with
  | waitingForStart =>
    simp only [step]
    split
    · left; simp [maxFrameSizeBytes]
    · trivial
  | readingHeader =>
    simp only [step]
    simp only [Fits] at fits
    have nonempty : 0 < held.length := List.length_pos_of_ne_nil formed
    split
    · rename_i complete
      simp only [List.length_append, List.length_singleton] at complete
      have kept := payloadLength_append (show 2 ≤ held.length by omega) byte
      unfold afterHeader
      split
      · simp only [Fits, List.length_append, List.length_singleton]; omega
      · rename_i payload
        -- With a payload announced, room was left for it behind the header.
        have room : held.length + 4 ≤ maxFrameSizeBytes := by
          rcases fits with room | ⟨-, empty⟩
          · exact room
          · exact absurd (kept.trans empty) payload
        simp only [Fits, List.length_append, List.length_singleton]; omega
    · rename_i short
      simp only [List.length_append, List.length_singleton] at short
      left
      simp only [List.length_append, List.length_singleton, maxFrameSizeBytes]; omega
  | readingPayload expectedLen =>
    simp only [Fits] at fits
    obtain ⟨-, same⟩ := formed
    have bounded := payloadLength_le held
    simp only at same
    simp only [step]
    split
    · simp only [Fits, List.length_append, List.length_singleton]; omega
    · rename_i short
      simp only [List.length_append, List.length_singleton] at short
      simp only [Fits, List.length_append, List.length_singleton, maxFrameSizeBytes]; omega
  | readingChecksum bytesRemaining =>
    simp only [step]
    split
    · rename_i last
      split
      · trivial
      · rename_i mismatch
        -- A failed checksum restarts from what is kept, which has room by assumption.
        have room := roomy (by rw [last]) mismatch
        unfold restart
        simp only at room
        split
        · trivial
        · rename_i first rest kept
          rw [kept] at room
          exact room
    · rename_i unfinished
      obtain ⟨counter, -⟩ := formed
      simp only [Fits] at fits
      simp only [Fits, List.length_append, List.length_singleton]
      omega

/-- A restart that breaks the room condition leaves a header that cannot fit. -/
theorem not_fits_of_not_restartFits {candidate : Candidate} {byte : UInt8}
    (cramped : ¬ candidate.RestartFits byte) :
    ¬ (candidate.step byte).1.Fits ∧
      maxFrameSizeBytes < (candidate.step byte).1.held.length + 4 := by
  -- The condition speaks only about the branch in which the checksum fails.
  obtain ⟨held, phase⟩ := candidate
  simp only [RestartFits, Classical.not_imp] at cramped
  obtain ⟨rfl, mismatch, tight⟩ := cramped
  simp only [step, if_pos, if_neg mismatch]
  unfold restart
  split
  · rename_i empty
    rw [empty] at tight
    exact absurd (Or.inl (by decide)) tight
  · rename_i first rest kept
    rw [kept] at tight
    refine ⟨tight, ?_⟩
    simp only
    by_contra room
    exact tight (Or.inl (by omega))

/-- A candidate that does not fit keeps storing without ever being judged. -/
theorem step_of_not_fits {candidate : Candidate} (tight : ¬ candidate.Fits)
    (late : maxFrameSizeBytes < candidate.held.length + 4)
    (room : candidate.held.length < maxFrameSizeBytes) (byte : UInt8) :
    ¬ (candidate.step byte).1.Fits ∧
      (candidate.step byte).1.held.length = candidate.held.length + 1 := by
  -- The last checksum byte of such a candidate would lie beyond the buffer.
  obtain ⟨held, phase⟩ := candidate
  simp only [maxFrameSizeBytes] at late room
  cases phase with
  | waitingForStart => exact absurd trivial tight
  | readingHeader =>
    have kept := payloadLength_append (show 2 ≤ held.length by omega) byte
    simp only [Fits, not_or, not_and] at tight
    simp only [step]
    rw [if_pos (by simp only [List.length_append, List.length_singleton]; omega)]
    refine ⟨?_, by simp⟩
    unfold afterHeader
    split
    · -- An empty payload leads straight to a checksum that lies beyond the buffer.
      rename_i empty
      simp only [Fits, List.length_append, List.length_singleton]
      rw [kept] at empty
      have beyond := tight.2
      simp only [maxFrameSizeBytes] at beyond ⊢
      omega
    · simp only [Fits, List.length_append, List.length_singleton]; omega
  | readingPayload expectedLen =>
    simp only [Fits] at tight
    simp only [step]
    split
    · exact ⟨by simp only [Fits, List.length_append, List.length_singleton]; omega, by simp⟩
    · exact ⟨by simp only [Fits, List.length_append, List.length_singleton]; omega, by simp⟩
  | readingChecksum bytesRemaining =>
    simp only [Fits] at tight
    simp only [step]
    rw [if_neg (by simp only [maxFrameSizeBytes] at tight; omega)]
    exact ⟨by simp only [Fits, List.length_append, List.length_singleton]; omega, by simp⟩

end Candidate

end Veloxity
