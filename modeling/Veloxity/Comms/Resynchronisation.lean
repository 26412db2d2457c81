import Mathlib.Data.List.GetD
import Veloxity.Comms.Restarts
import Veloxity.Comms.ParserSafety
import Veloxity.Comms.ParserStream

/-! A parser that failed a candidate goes on as a fresh one would exactly after resumable
restarts. -/

namespace Veloxity

open Library

namespace MavlinkParser

/-- What a parser keeps of its candidate when the byte that completes it fails the checksum. -/
def keptAfter (parser : MavlinkParser) (byte : UInt8) : List UInt8 :=
  retained (parser.held ++ [byte])

/-- The byte completes a candidate of a parser fed from new, and its checksum fails. -/
structure FailsChecksum (history : List UInt8) (parser : MavlinkParser) (byte : UInt8)
    (next : MavlinkParser) : Prop where
  reached : ∃ outputs, new.feedBytes history = .ok (parser, outputs)
  judged : parser.state = .readingChecksum 1
  failed : parser.feedByte byte = .ok (next, none)

section Failure

variable {history : List UInt8} {parser next : MavlinkParser} {byte : UInt8}

/-- The parser that failed a candidate tracks its restart. -/
theorem FailsChecksum.restarts (fails : FailsChecksum history parser byte next) :
    next.Tracks ∧ next.candidate = Candidate.restart (parser.held ++ [byte]) := by
  obtain ⟨⟨outputs, reached⟩, judged, failed⟩ := fails
  have tracks : parser.Tracks := tracks_of_reached reached
  obtain ⟨onward, moved, shown⟩ := tracks.feedByte failed
  refine ⟨onward, ?_⟩
  -- A matching checksum would have emitted the candidate.
  have phase : parser.candidate.phase = .readingChecksum 1 := judged
  unfold Candidate.step at moved shown
  simp only [phase, if_true] at moved shown
  by_cases agrees : ChecksumMatches (parser.candidate.held ++ [byte])
  · rw [if_pos agrees] at shown
    cases shown
  · rw [if_neg agrees] at moved
    exact moved

/-- What is kept is shorter than the buffer. -/
theorem FailsChecksum.length_kept_lt (fails : FailsChecksum history parser byte next) :
    (parser.keptAfter byte).length < maxFrameSizeBytes := by
  -- The candidate fitted into the buffer, and its first byte is dropped.
  obtain ⟨⟨outputs, reached⟩, judged, failed⟩ := fails
  have tracks : parser.Tracks := tracks_of_reached reached
  have room := tracks.room failed
  have phase : parser.candidate.phase = .readingChecksum 1 := judged
  rw [phase] at room
  have held : parser.held.length < maxFrameSizeBytes := room.resolve_left (by simp)
  have shorter : (parser.keptAfter byte).length ≤ (parser.held ++ [byte]).tail.length :=
    (List.dropWhile_suffix _).length_le
  rw [List.length_tail, List.length_append, List.length_singleton] at shorter
  omega

/-- A new parser fed what is kept of a resumable restart has read just that. -/
theorem feedBytes_kept {kept : List UInt8} (start : kept.head? = some startByte)
    (unfinished : Unfinished kept) (short : kept.length ≤ maxFrameSizeBytes) :
    ∃ fresh, new.feedBytes kept = .ok (fresh, []) ∧ fresh.Tracks ∧
      fresh.candidate = Candidate.reading kept := by
  have idle := new_represents.candidate_eq
  have fit : new.candidate.held.length + kept.length ≤ maxFrameSizeBytes := by
    rw [idle]
    simpa [Candidate.idle] using short
  -- The kept bytes fit the buffer, so the parser does as its candidate, which is still unfinished.
  obtain ⟨fresh, outputs, fed, tracks, moved, shown⟩ :=
    new_tracks.feedBytes_of_fit fit
  rw [idle, Candidate.transduce_idle start unfinished] at moved shown
  rw [List.map_eq_nil_iff.mp shown] at fed
  exact ⟨fresh, fed, tracks, moved⟩

/-- Bytes fed without an output leave all outputs to the bytes that follow. -/
theorem outputs_append_of_silent {start reached : MavlinkParser} {first : List UInt8}
    (silent : start.feedBytes first = .ok (reached, [])) (second : List UInt8) :
    (start.feedBytes (first ++ second)).map Prod.snd =
      (reached.feedBytes second).map Prod.snd := by
  rw [feedBytes] at silent
  rw [feedBytes, feedBytes, feedAll_append_of_ok silent]
  -- The parser that was reached is fed the rest, whether it panics or not.
  cases feedAll feedByte reached second with
  | error failure => rfl
  | ok last => rfl

/-- Parsers that one byte brings to the same candidate have the same outputs. -/
theorem outputs_eq_of_step {first second : MavlinkParser} (tracks : first.Tracks)
    (alike : second.Tracks) (room : first.candidate.held.length < maxFrameSizeBytes)
    (space : second.candidate.held.length < maxFrameSizeBytes) {target : UInt8 → Candidate}
    (stepped : ∀ byte, first.candidate.step byte = (target byte, none))
    (likewise : ∀ byte, second.candidate.step byte = (target byte, none)) (future : List UInt8) :
    (first.feedBytes future).map Prod.snd = (second.feedBytes future).map Prod.snd := by
  cases future with
  | nil => rfl
  | cons byte rest =>
    -- Behind the first byte the candidates are the same.
    obtain ⟨next, outputs, fed, onward, moved, shown⟩ :=
      tracks.feedBytes_of_fit (show _ + [byte].length ≤ _ from room)
    obtain ⟨next', outputs', fed', onward', moved', shown'⟩ :=
      alike.feedBytes_of_fit (show _ + [byte].length ≤ _ from space)
    rw [transduce_cons_silent [] (stepped byte)] at moved shown
    rw [transduce_cons_silent [] (likewise byte)] at moved' shown'
    rw [List.map_eq_nil_iff.mp shown] at fed
    rw [List.map_eq_nil_iff.mp shown'] at fed'
    have together := outputs_eq_of_candidate onward onward' (moved.trans moved'.symm) rest
    have left := outputs_append_of_silent fed rest
    have right := outputs_append_of_silent fed' rest
    exact left.trans (together.trans right.symm)

/-- A resumable restart has the outputs of a fresh parser fed what is kept. -/
theorem FailsChecksum.outputs_eq_of_resumable (fails : FailsChecksum history parser byte next)
    (resumable : Resumable (parser.keptAfter byte)) (future : List UInt8) :
    (next.feedBytes future).map Prod.snd =
      (new.feedBytes (parser.keptAfter byte ++ future)).map Prod.snd := by
  obtain ⟨tracks, restarted⟩ := fails.restarts
  have room := fails.length_kept_lt
  have renamed : parser.keptAfter byte = retained (parser.held ++ [byte]) := rfl
  by_cases nothing : parser.keptAfter byte = []
  · -- With nothing kept both parsers are idle.
    rw [nothing, List.nil_append]
    refine outputs_eq_of_candidate tracks new_tracks ?_ future
    rw [restarted, new_represents.candidate_eq]
    unfold Candidate.restart
    rw [show retained (parser.held ++ [byte]) = [] from nothing]
  · have unfinished : Unfinished (parser.keptAfter byte) := by
      rcases resumable with short | short
      · unfold Unfinished
        omega
      · unfold Unfinished
        omega
    have start : (parser.keptAfter byte).head? = some startByte := head_retained nothing
    obtain ⟨fresh, fed, alike, reading⟩ := feedBytes_kept start unfinished (Nat.le_of_lt room)
    rw [outputs_append_of_silent fed future]
    by_cases short : (parser.keptAfter byte).length ≤ 5
    · -- Less than a header is read on from alike.
      exact outputs_eq_of_candidate tracks alike
        (by rw [restarted, reading]; exact Candidate.restart_of_short short) future
    · have long : 6 ≤ (parser.keptAfter byte).length := by omega
      rw [Candidate.restart_of_kept nothing, ← renamed] at restarted
      refine outputs_eq_of_step tracks alike ?_ ?_
        (restarted ▸ Candidate.step_restarted long resumable)
        (reading ▸ Candidate.step_reading_of_resumable long resumable) future
      · rw [restarted]
        exact room
      · rw [reading]
        exact room

/-- A new parser takes one byte more than its buffer holds when they begin with a start byte. -/
theorem feedBytes_full {bytes : List UInt8} (start : bytes.head? = some startByte)
    (most : bytes.length ≤ maxFrameSizeBytes + 1) :
    ∃ result, new.feedBytes bytes = .ok result := by
  -- The verdict on the first frame has dropped a byte before the last one comes.
  have idle := new_represents.candidate_eq
  have room : ∀ before byte after, bytes = before ++ byte :: after →
      (transduce Candidate.step new.candidate before).1.held.length < maxFrameSizeBytes := by
    rintro before byte after rfl
    rw [List.length_append, List.length_cons] at most
    rw [idle]
    by_cases early : before.length < maxFrameSizeBytes
    · have held := (Candidate.transduce_length_le Candidate.idle before).1
      simp only [Candidate.idle, List.length_nil] at held ⊢
      omega
    · have announced := Candidate.payloadLength_le before
      simp only [maxFrameSizeBytes] at early most ⊢
      rw [List.head?_append_of_ne_nil _ (List.ne_nil_of_length_pos (by omega))] at start
      have dropped := (Candidate.transduce_past_verdict start (by omega)).1
      omega
  obtain ⟨last, outputs, fed, -⟩ := new_tracks.feedBytes room
  exact ⟨_, fed⟩

section Late

variable {kept : List UInt8}

/-- A late restart with room emits a frame made of what was kept and of further bytes. -/
theorem feedBytes_late (tracks : next.Tracks) (restarted : next.candidate = .restarted kept)
    (late : ¬ Resumable kept) (room : (lateFrame kept).length ≤ maxFrameSizeBytes) :
    ∃ more last emitted, lateFrame kept = kept ++ more ∧
      next.feedBytes more = .ok (last, [emitted]) ∧ emitted.bytes = lateFrame kept := by
  obtain ⟨more, split, emits⟩ := Candidate.transduce_late late
  rw [split, List.length_append] at room
  obtain ⟨last, outputs, fed, -, -, shown⟩ := tracks.feedBytes_of_fit
    (show next.candidate.held.length + more.length ≤ _ by rw [restarted]; exact room)
  rw [restarted, emits] at shown
  -- One frame is emitted, with the bytes of the late one.
  obtain ⟨emitted, rfl⟩ : ∃ emitted, outputs = [emitted] :=
    List.length_eq_one_iff.mp (by simpa using congrArg List.length shown)
  exact ⟨more, last, emitted, split, fed, by simpa using shown⟩

/-- A late restart without room panics at the end of its buffer. -/
theorem feedBytes_late_cramped (tracks : next.Tracks)
    (restarted : next.candidate = .restarted kept)
    (cramped : maxFrameSizeBytes < (lateFrame kept).length)
    {more : List UInt8} (past : maxFrameSizeBytes < kept.length + more.length) :
    next.feedBytes more = .error (.indexOutOfBounds maxFrameSizeBytes) := by
  have tight : ¬ (Candidate.restarted kept).Fits ∧ maxFrameSizeBytes < kept.length + 4 := by
    unfold lateFrame sealBody at cramped
    split at cramped
    · rename_i empty
      simp only [List.length_append, List.length_cons, List.length_nil] at cramped
      exact ⟨by simp only [Candidate.Fits, Candidate.restarted]; omega, by omega⟩
    · rename_i payload
      simp only [List.length_append, List.length_cons, List.length_nil] at cramped
      exact ⟨by simp only [Candidate.Fits, Candidate.restarted]; omega, by omega⟩
  -- The candidate cannot be finished inside the buffer.
  rw [← restarted] at tight
  refine feedBytes_cramped tracks.represents tracks.formed tight.1 ?_ ?_
  · rw [restarted]
    exact tight.2
  · rw [restarted]
    exact past

/-- A late restart differs from a fresh parser on some future. -/
theorem exists_outputs_ne (tracks : next.Tracks) (restarted : next.candidate = .restarted kept)
    (late : ¬ Resumable kept) (start : kept.head? = some startByte)
    (space : kept.length < maxFrameSizeBytes) :
    ∃ future, (next.feedBytes future).map Prod.snd ≠
      (new.feedBytes (kept ++ future)).map Prod.snd := by
  have begun : ∀ more, (kept ++ more).head? = some startByte := by
    intro more
    rw [List.head?_append, start, Option.some_or]
  by_cases room : (lateFrame kept).length ≤ maxFrameSizeBytes
  · -- The frame the restart emits has all bytes, and a fresh parser's frames have fewer.
    obtain ⟨announced, longer⟩ := Candidate.length_lateFrame late
    obtain ⟨more, last, emitted, split, fed, bytes⟩ := feedBytes_late tracks restarted late room
    rw [split] at announced longer room
    have fit : new.candidate.held.length + (kept ++ more).length ≤ maxFrameSizeBytes := by
      rw [new_represents.candidate_eq]
      simpa [Candidate.idle] using room
    obtain ⟨last', outputs, fed', -, -, shown⟩ := new_tracks.feedBytes_of_fit fit
    rw [new_represents.candidate_eq] at shown
    refine ⟨more, fun same => ?_⟩
    rw [fed, fed'] at same
    have equal : [emitted] = outputs := Except.ok.inj same
    have shorter := (Candidate.transduce_past_verdict (begun more) (by omega)).2 (by omega)
    rw [← shown, ← equal, List.map_singleton, bytes, split] at shorter
    exact absurd (shorter _ List.mem_cons_self) (Nat.lt_irrefl _)
  · -- The restart panics at the end of its buffer, which a fresh parser has not filled.
    have total : kept.length + (List.replicate (281 - kept.length) (0 : UInt8)).length = 281 := by
      rw [List.length_replicate]
      simp only [maxFrameSizeBytes] at space
      omega
    have most : (kept ++ List.replicate (281 - kept.length) (0 : UInt8)).length
        ≤ maxFrameSizeBytes + 1 := by
      simp only [List.length_append, total, maxFrameSizeBytes]
      omega
    obtain ⟨result, fed⟩ := feedBytes_full (begun (List.replicate (281 - kept.length) 0)) most
    refine ⟨List.replicate (281 - kept.length) 0, ?_⟩
    rw [fed, feedBytes_late_cramped tracks restarted (by omega)
      (by rw [total]; decide)]
    intro same
    cases same

end Late

/-- After a failed checksum the parser's outputs on every future are those of a new parser fed
what is kept and then the future, exactly when what is kept is short of a header or of two payload
bytes. -/
theorem outputs_eq_fresh_iff_resumable (fails : FailsChecksum history parser byte next) :
    (∀ future, (next.feedBytes future).map Prod.snd =
        (new.feedBytes (parser.keptAfter byte ++ future)).map Prod.snd) ↔
      Resumable (parser.keptAfter byte) := by
  constructor
  · -- A restart that comes too late takes a frame that a new parser does not.
    intro same
    by_contra late
    obtain ⟨tracks, restarted⟩ := fails.restarts
    have nonempty : retained (parser.held ++ [byte]) ≠ [] := by
      intro nothing
      exact late (Or.inl (by rw [keptAfter, nothing]; decide))
    rw [Candidate.restart_of_kept nonempty] at restarted
    obtain ⟨future, differs⟩ := exists_outputs_ne tracks restarted late (head_retained nonempty)
      fails.length_kept_lt
    exact differs (same future)
  · exact fun resumable future => fails.outputs_eq_of_resumable resumable future

end Failure

section Inputs

/-- A short history whose candidate fails at its next byte is a failed checksum of the parser. -/
theorem exists_failsChecksum (history : List UInt8) (byte : UInt8)
    (fit : history.length < maxFrameSizeBytes)
    (judged : (transduce Candidate.step Candidate.idle history).1.phase = .readingChecksum 1)
    (mismatch : ¬ ChecksumMatches
      ((transduce Candidate.step Candidate.idle history).1.held ++ [byte])) :
    ∃ parser next, FailsChecksum history parser byte next ∧
      parser.held = (transduce Candidate.step Candidate.idle history).1.held := by
  -- The parser follows its candidate up to the failure and over it.
  have idle := new_represents.candidate_eq
  have room : new.candidate.held.length + history.length ≤ maxFrameSizeBytes := by
    rw [idle]
    simp only [Candidate.idle, List.length_nil]
    omega
  obtain ⟨parser, outputs, fed, tracks, moved, -⟩ := new_tracks.feedBytes_of_fit room
  rw [idle] at moved
  have short := (Candidate.transduce_length_le Candidate.idle history).1
  have space : parser.candidate.held.length < maxFrameSizeBytes := by
    have nothing : Candidate.idle.held.length = 0 := rfl
    rw [moved]
    omega
  obtain ⟨next, output, taken, -, shown⟩ :=
    feedByte_follows tracks.represents tracks.formed (Or.inr space) byte
  have phase : parser.candidate.phase = .readingChecksum 1 := by rw [moved, judged]
  unfold Candidate.step at shown
  rw [← moved] at mismatch
  simp only [phase, if_true, if_neg mismatch] at shown
  cases output with
  | none => exact ⟨parser, next, ⟨⟨outputs, fed⟩, phase, taken⟩, congrArg Candidate.held moved⟩
  | some frame => cases shown

/-- After a failed empty frame with a start byte in its checksum, reading goes on from there. -/
theorem outputs_eq_fresh_after_startByte :
    ∃ parser next, FailsChecksum [0xFE, 0, 0, 0, 0, 0, 0xFE] parser 1 next ∧
      ∀ future, (next.feedBytes future).map Prod.snd =
        (new.feedBytes (parser.keptAfter 1 ++ future)).map Prod.snd := by
  -- Only the start byte is kept, which is short of a header.
  obtain ⟨parser, next, fails, held⟩ := exists_failsChecksum [0xFE, 0, 0, 0, 0, 0, 0xFE] 1
    (by decide) (by decide) (by decide)
  refine ⟨parser, next, fails, (outputs_eq_fresh_iff_resumable fails).mpr ?_⟩
  rw [keptAfter, held]
  decide

/-- A valid frame, preceded by the header of a corrupted one that swallows it. -/
def shadowedHistory : List UInt8 := [0xFE, 6, 0, 1, 1, 0, 0xFE, 0, 7, 1, 1, 0, 90]

/-- The valid frame that a corrupted one swallows is delivered by a fresh parser alone. -/
theorem shadowedHistory_loses_frame :
    ∃ parser next, FailsChecksum shadowedHistory parser 108 next ∧
      ¬ ∀ future, (next.feedBytes future).map Prod.snd =
        (new.feedBytes (parser.keptAfter 108 ++ future)).map Prod.snd := by
  obtain ⟨parser, next, fails, held⟩ := exists_failsChecksum shadowedHistory 108
    (by decide) (by decide) (by decide)
  have kept : parser.keptAfter 108 = [0xFE, 0, 7, 1, 1, 0, 90, 108] := by
    rw [keptAfter, held]
    decide
  refine ⟨parser, next, fails, fun same => ?_⟩
  -- Already without further bytes the fresh parser has emitted the frame.
  have fit : new.candidate.held.length + (parser.keptAfter 108).length ≤ maxFrameSizeBytes := by
    rw [kept]
    decide
  obtain ⟨last, outputs, fed, -, -, shown⟩ := new_tracks.feedBytes_of_fit fit
  have silent := same []
  rw [List.append_nil, fed] at silent
  have none_emitted : [] = outputs := Except.ok.inj silent
  rw [← none_emitted, kept] at shown
  revert shown
  decide

end Inputs

end MavlinkParser

end Veloxity
