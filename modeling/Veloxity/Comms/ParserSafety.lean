import Mathlib.Data.List.Basic
import Veloxity.Library.Run
import Veloxity.Comms.ParserRefinement

/-! The parser panics exactly after a resynchronisation that leaves too little room. -/

namespace Veloxity

open Library

namespace MavlinkParser

/-- Every checksum failure met while feeding a stream leaves room for the next candidate. -/
def RestartsFit (parser : MavlinkParser) (bytes : List UInt8) : Prop :=
  AlongFallible (fun parser byte => parser.candidate.RestartFits byte) feedByte parser bytes

/-- The parser holds a well-formed candidate that its buffer can finish. -/
def Roomy (parser : MavlinkParser) : Prop :=
  ∃ target, parser.Represents target ∧ target.WellFormed ∧ target.Fits

/-- The parser holds a candidate that its buffer cannot finish. -/
def Cramped (parser : MavlinkParser) : Prop :=
  ∃ target, parser.Represents target ∧ target.WellFormed ∧ ¬ target.Fits ∧
    maxFrameSizeBytes < target.held.length + 4

/-- A new parser has room. -/
theorem new_roomy : new.Roomy := by
  -- No candidate has begun.
  exact ⟨Candidate.idle, new_represents, rfl, trivial⟩

/-- A parser with room takes any byte, and stays roomy when a restart at that byte fits. -/
theorem feedByte_roomy {parser : MavlinkParser} (roomy : parser.Roomy) (byte : UInt8) :
    ∃ next output, parser.feedByte byte = .ok (next, output) ∧
      (parser.candidate.RestartFits byte → next.Roomy) ∧
      (¬ parser.candidate.RestartFits byte → next.Cramped) := by
  -- The candidate has room for the byte, so the parser follows it.
  obtain ⟨target, represents, formed, fits⟩ := roomy
  obtain ⟨next, output, fed, follows, -⟩ :=
    feedByte_follows represents formed (fits.room formed) byte
  have kept := Candidate.step_wellFormed formed byte
  rw [represents.candidate_eq]
  refine ⟨next, output, fed, fun restart => ?_, fun cramped => ?_⟩
  · exact ⟨_, follows, kept, Candidate.step_fits fits formed restart⟩
  · obtain ⟨tight, late⟩ := Candidate.not_fits_of_not_restartFits cramped
    exact ⟨_, follows, kept, tight, late⟩

/-- A cramped parser panics within as many bytes as its buffer has left, plus one. -/
theorem feedBytes_cramped {bytes : List UInt8} :
    ∀ {parser : MavlinkParser} {target : Candidate}, parser.Represents target →
      target.WellFormed → ¬ target.Fits → maxFrameSizeBytes < target.held.length + 4 →
      maxFrameSizeBytes < target.held.length + bytes.length →
      parser.feedBytes bytes = .error (.indexOutOfBounds maxFrameSizeBytes) := by
  -- The candidate is stored byte by byte until the buffer is full, and never judged.
  induction bytes with
  | nil =>
    intro parser target represents _ _ _ enough
    have capacity := represents.front.length_le
    rw [Vector.length_toList] at capacity
    simp only [List.length_nil] at enough
    omega
  | cons byte rest ih =>
    intro parser target represents formed tight late enough
    have capacity := represents.front.length_le
    rw [Vector.length_toList] at capacity
    have busy : target.phase ≠ .waitingForStart := by
      intro waiting
      simp only [Candidate.Fits, waiting, not_true_eq_false] at tight
    by_cases full : target.held.length = maxFrameSizeBytes
    · refine feedAll_cons_error rest (feedByte_panics ?_ ?_ byte)
      · rw [represents.phase]; exact busy
      · rw [represents.position, full]
    · have room : target.held.length < maxFrameSizeBytes := by omega
      obtain ⟨next, output, fed, follows, -⟩ :=
        feedByte_follows represents formed (Or.inr room) byte
      obtain ⟨still, longer⟩ := Candidate.step_of_not_fits tight late room byte
      have failed := ih follows (Candidate.step_wellFormed formed byte) still (by omega)
        (by simp only [List.length_cons] at enough; omega)
      rw [feedBytes] at failed
      rw [feedBytes, feedAll_cons_ok rest fed, failed]
      rfl

/-- Where a roomy parser first breaks the restart condition, any four more bytes panic. -/
theorem feedBytes_after_break {parser : MavlinkParser} (roomy : parser.Roomy) {byte : UInt8}
    (cramped : ¬ parser.candidate.RestartFits byte) {more : List UInt8} (four : 4 ≤ more.length) :
    parser.feedBytes (byte :: more) = .error (.indexOutOfBounds maxFrameSizeBytes) := by
  -- The byte itself is taken, and leaves at most three bytes of buffer.
  obtain ⟨next, output, fed, -, broken⟩ := feedByte_roomy roomy byte
  obtain ⟨target, represents, formed, tight, late⟩ := broken cramped
  have failed : next.feedBytes more = .error (.indexOutOfBounds maxFrameSizeBytes) :=
    feedBytes_cramped represents formed tight late (by omega)
  rw [feedBytes] at failed
  rw [feedBytes, feedAll_cons_ok more fed, failed]
  rfl

/-- The steps of a roomy parser meet the restart condition exactly as its candidate's do. -/
theorem restartsFit_iff_along {bytes : List UInt8} :
    ∀ {parser : MavlinkParser} {target : Candidate}, parser.Represents target →
      target.WellFormed → target.Fits →
      (parser.RestartsFit bytes ↔
        Along Candidate.RestartFits (fun target byte => (target.step byte).1) target bytes) := by
  -- While the condition holds, the candidate fits and the parser follows it.
  induction bytes with
  | nil => intro parser target _ _ _; exact Iff.rfl
  | cons byte rest ih =>
    intro parser target represents formed fits
    obtain ⟨next, output, fed, follows, -⟩ :=
      feedByte_follows represents formed (fits.room formed) byte
    have kept := Candidate.step_wellFormed formed byte
    simp only [RestartsFit, AlongFallible, Along, represents.candidate_eq]
    refine and_congr_right fun restart => ?_
    have later := ih follows kept (Candidate.step_fits fits formed restart)
    rw [← later]
    constructor
    · intro all
      exact all next output fed
    · intro rest other emitted same
      rw [fed] at same
      cases same
      exact rest

/-- A stream whose restarts all fit is fed to its end and leaves the parser roomy. -/
theorem feedBytes_roomy {bytes : List UInt8} (fits : new.RestartsFit bytes) :
    ∃ result, new.feedBytes bytes = .ok result ∧ result.1.Roomy := by
  -- Room is the invariant that each fitting restart preserves.
  refine feedAll_succeeds (fun parser byte roomy restart => ?_) new_roomy fits
  obtain ⟨next, output, fed, stays, -⟩ := feedByte_roomy roomy byte
  exact ⟨next, output, fed, stays restart⟩

/-- A stream with a restart that does not fit panics once four more bytes arrive. -/
theorem feedBytes_broken {bytes more : List UInt8} (broken : ¬ new.RestartsFit bytes)
    (four : 4 ≤ more.length) :
    new.feedBytes (bytes ++ more) = .error (.indexOutOfBounds maxFrameSizeBytes) := by
  -- The parser is still roomy where the first bad restart happens.
  obtain ⟨before, byte, after, rfl, lawful, result, reached, cramped⟩ := exists_first_break broken
  obtain ⟨same, finished, roomy⟩ := feedBytes_roomy lawful
  rw [feedBytes, reached] at finished
  cases finished
  have enough : 4 ≤ (after ++ more).length := by simp only [List.length_append]; omega
  have failed := feedBytes_after_break roomy cramped enough
  rw [feedBytes] at failed
  rw [feedBytes, List.append_assoc, List.cons_append, feedAll_append_of_ok reached, failed]
  rfl

/-- The parser survives a stream whose checksum failures all leave room for the next
candidate, and a failure that leaves too little room makes any four further bytes panic. -/
theorem feedBytes_decided_by_restartsFit (bytes : List UInt8) :
    (new.RestartsFit bytes → ∃ result, new.feedBytes bytes = .ok result) ∧
      (¬ new.RestartsFit bytes → ∀ more : List UInt8, more.length = 4 →
        new.feedBytes (bytes ++ more) = .error (.indexOutOfBounds maxFrameSizeBytes)) := by
  -- The two halves are the roomy run and the run past its first loss of room.
  constructor
  · intro fits
    obtain ⟨result, finished, -⟩ := feedBytes_roomy fits
    exact ⟨result, finished⟩
  · intro broken more four
    exact feedBytes_broken broken (by omega)

/-- Start bytes alone make every candidate fail, until a retained suffix leaves no room. -/
theorem startBytes_break_restartsFit : ¬ new.RestartsFit (List.replicate 286 startByte) := by
  -- Each failed candidate drops one byte and its successor stores four.
  rw [restartsFit_iff_along new_represents rfl trivial]
  decide +kernel

/-- One byte short of the first restart without room, the parser is still alive. -/
theorem feedBytes_startBytes_survives :
    ∃ result, new.feedBytes (List.replicate 285 startByte) = .ok result := by
  -- Every earlier restart in this stream keeps at most 276 bytes.
  refine (feedBytes_decided_by_restartsFit (List.replicate 285 startByte)).1 ?_
  rw [restartsFit_iff_along new_represents rfl trivial]
  decide +kernel

/-- A stream of start bytes makes a new parser index past its buffer. -/
theorem feedBytes_startBytes_panics :
    new.feedBytes (List.replicate 290 startByte) =
      .error (.indexOutOfBounds maxFrameSizeBytes) := by
  -- The last restart leaves one byte of buffer and the next candidate needs four.
  rw [show 290 = 286 + 4 from rfl, ← List.replicate_append_replicate]
  exact feedBytes_broken startBytes_break_restartsFit (by decide)

end MavlinkParser

end Veloxity
