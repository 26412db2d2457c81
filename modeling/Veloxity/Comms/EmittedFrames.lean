import Mathlib.Data.List.GetD
import Veloxity.Comms.Resynchronisation

/-! Every emitted frame is a block of the stream with its own length and checksum, for as long
as every restart can resume. -/

namespace Veloxity

open Library

/-- The frame is a block at the end of the stream, with the length and checksum it announces. -/
structure CompleteFrame.Genuine (frame : CompleteFrame) (stream : List UInt8) : Prop where
  start : frame.data[0] = startByte
  length : frame.len = frame.data[1].toNat + 8
  block : frame.bytes <:+ stream
  checksum : receivedCrc frame.bytes = candidateCrc frame.bytes

/-- A genuine frame announces its length in its bytes. -/
theorem CompleteFrame.Genuine.length_bytes {frame : CompleteFrame} {stream : List UInt8}
    (genuine : frame.Genuine stream) (padded : frame.Padded) :
    frame.bytes.length = 8 + payloadLength frame.bytes := by
  -- The length byte is the second one.
  have length := genuine.length
  have second : frame.bytes[1]? = some frame.data[1] := by
    simp [CompleteFrame.bytes, show 1 < frame.len by omega]
  rw [padded.length_bytes, payloadLength, List.getD_eq_getElem?_getD, second, Option.getD_some]
  omega

/-- A padded frame whose bytes are a whole frame at the end of the stream is genuine. -/
theorem IsFrame.genuine {frame : CompleteFrame} (padded : frame.Padded) {stream : List UInt8}
    (whole : IsFrame frame.bytes) (block : frame.bytes <:+ stream) : frame.Genuine stream := by
  obtain ⟨start, length, checksum⟩ := whole
  rw [padded.length_bytes] at length
  -- The bytes of the frame are the first ones of its buffer.
  have bytes : ∀ index (inside : index < frame.len) (within : index < maxFrameSizeBytes),
      frame.bytes[index]? = some (frame.data[index]) := by
    intro index inside within
    simp [CompleteFrame.bytes, inside, within]
  refine ⟨?_, ?_, block, checksum⟩
  · have first := bytes 0 (by omega) (by decide)
    rw [← List.head?_eq_getElem?, start] at first
    exact (Option.some.inj first).symm
  · have second := bytes 1 (by omega) (by decide)
    rw [length, payloadLength, List.getD_eq_getElem?_getD, second, Option.getD_some]
    omega

namespace Candidate

/-- Continuing after a checksum failure reads on as a fresh candidate would. -/
def RestartResumes (candidate : Candidate) (byte : UInt8) : Prop :=
  candidate.phase = .readingChecksum 1 → ¬ ChecksumMatches (candidate.held ++ [byte]) →
    Resumable (retained (candidate.held ++ [byte]))

instance (candidate : Candidate) (byte : UInt8) : Decidable (candidate.RestartResumes byte) :=
  inferInstanceAs (Decidable (_ → _ → _))

/-- The candidate reads one frame, or has just been restarted with a header kept. -/
def Aligned (candidate : Candidate) : Prop :=
  (candidate = reading candidate.held ∧ Unfinished candidate.held) ∨
    (candidate = restarted candidate.held ∧ 6 ≤ candidate.held.length ∧ Resumable candidate.held)

/-- The held bytes end the stream and begin with a start byte, and are read as one frame. -/
structure Origin (stream : List UInt8) (candidate : Candidate) : Prop where
  block : candidate.held <:+ stream
  start : candidate.held ≠ [] → candidate.held.head? = some startByte
  aligned : candidate.Aligned

/-- Nothing held is an idle candidate of every stream. -/
theorem origin_idle (stream : List UInt8) : Origin stream idle :=
  ⟨List.nil_suffix, fun begun => absurd rfl begun, Or.inl ⟨rfl, by show 0 < 8 + _; omega⟩⟩

/-- A held byte more ends the stream that has this byte more. -/
theorem suffix_concat {held stream : List UInt8} (block : held <:+ stream) (byte : UInt8) :
    held ++ [byte] <:+ stream ++ [byte] := by
  obtain ⟨before, rfl⟩ := block
  exact ⟨before, by rw [List.append_assoc]⟩

/-- Reading on within a frame keeps the origin. -/
theorem origin_reading {held stream : List UInt8} (block : held <:+ stream)
    (start : held.head? = some startByte) {byte : UInt8}
    (unfinished : Unfinished (held ++ [byte])) :
    Origin (stream ++ [byte]) (reading (held ++ [byte])) := by
  refine ⟨suffix_concat block byte, fun _ => ?_, Or.inl ⟨rfl, unfinished⟩⟩
  show (held ++ [byte]).head? = some startByte
  rw [List.head?_append, start, Option.some_or]

/-- A resumable restart keeps the origin. -/
theorem origin_restart {held stream : List UInt8} (block : held <:+ stream)
    (resumable : Resumable (retained held)) : Origin stream (restart held) := by
  -- A few kept bytes leave the header unread, and more of them have read it and some payload.
  by_cases short : (retained held).length ≤ 5
  · rw [restart_of_short short]
    refine ⟨(retained_suffix held).trans block, head_retained, Or.inl ⟨rfl, ?_⟩⟩
    show (retained held).length < 8 + payloadLength (retained held)
    omega
  · have kept : retained held ≠ [] := List.ne_nil_of_length_pos (by omega)
    rw [restart_of_kept kept]
    exact ⟨(retained_suffix held).trans block, head_retained,
      Or.inr ⟨rfl, by show 6 ≤ (retained held).length; omega, resumable⟩⟩

/-- A byte keeps the origin when the restart it may cause resumes, and the frame it may emit is
a whole frame at the end of the stream. -/
theorem origin_step {stream : List UInt8} {candidate : Candidate} (origin : Origin stream candidate)
    (byte : UInt8) :
    (candidate.RestartResumes byte → Origin (stream ++ [byte]) (candidate.step byte).1) ∧
      ∀ frame, (candidate.step byte).2 = some frame →
        IsFrame frame ∧ frame <:+ stream ++ [byte] := by
  obtain ⟨block, start, aligned⟩ := origin
  rcases aligned with ⟨same, unfinished⟩ | ⟨same, long, resumable⟩
  · by_cases begun : candidate.held = []
    · -- An idle candidate begins a frame at a start byte alone.
      rw [begun] at same
      subst same
      show (_ → Origin _ (if byte = startByte then _ else _ : Candidate × _).1) ∧
        ∀ frame, (if byte = startByte then _ else _ : Candidate × _).2 = some frame → _
      split
      · rename_i first
        subst first
        exact ⟨fun _ => ⟨suffix_concat List.nil_suffix _, fun _ => rfl,
          Or.inl ⟨rfl, by show 1 < 8 + _; omega⟩⟩, fun _ silent => nomatch silent⟩
      · exact ⟨fun _ => origin_idle _, fun _ silent => nomatch silent⟩
    · have first := start begun
      by_cases more : Unfinished (candidate.held ++ [byte])
      · -- Within the frame nothing is judged.
        rw [same]
        rw [step_reading begun more]
        exact ⟨fun _ => origin_reading block first more, fun _ silent => nomatch silent⟩
      · -- The last byte completes a frame of the announced length.
        unfold Unfinished at more unfinished
        rw [List.length_append, List.length_singleton] at more
        have long : 2 ≤ candidate.held.length := by omega
        rw [payloadLength_append long] at more
        have judged : candidate.held.length + 1 = 8 + payloadLength candidate.held := by omega
        have one : 8 + payloadLength candidate.held - candidate.held.length = 1 := by omega
        have phase : candidate.phase = .readingChecksum 1 := by
          rw [same]
          show phaseOf candidate.held = _
          rw [phaseOf_checksum (by omega), one]
        have verdict : candidate.step byte =
            if ChecksumMatches (candidate.held ++ [byte])
            then (idle, some (candidate.held ++ [byte]))
            else (restart (candidate.held ++ [byte]), none) :=
          (congrArg (·.step byte) same).trans (step_reading_last judged)
        rw [verdict]
        by_cases agrees : ChecksumMatches (candidate.held ++ [byte])
        · rw [if_pos agrees]
          refine ⟨fun _ => origin_idle _, fun frame emitted => ?_⟩
          cases emitted
          refine ⟨⟨?_, ?_, agrees⟩, suffix_concat block byte⟩
          · rw [List.head?_append, first, Option.some_or]
          · rw [List.length_append, List.length_singleton, payloadLength_append long, judged]
        · rw [if_neg agrees]
          exact ⟨fun resumes => origin_restart (suffix_concat block byte) (resumes phase agrees),
            fun _ silent => nomatch silent⟩
  · -- One byte after the restart the candidate reads one frame again.
    rw [same]
    rw [step_restarted long resumable]
    refine ⟨fun _ => origin_reading block ?_ ?_, fun _ silent => nomatch silent⟩
    · exact start (List.ne_nil_of_length_pos (by omega))
    · have short := resumable.resolve_left (by omega)
      unfold Unfinished
      rw [payloadLength_append (by omega), List.length_append, List.length_singleton]
      omega

end Candidate

namespace MavlinkParser

/-- Every checksum failure met while feeding a stream leaves a restart that can resume. -/
def RestartsResume (stream : List UInt8) : Prop :=
  AlongFallible (fun parser byte => parser.candidate.RestartResumes byte) feedByte new stream

/-- Every frame emitted along the stream is genuine at the byte that completes it. -/
def EmitsGenuine (stream : List UInt8) : Prop :=
  ∀ before byte after, stream = before ++ byte :: after →
    ∀ parser outputs next frame, new.feedBytes before = .ok (parser, outputs) →
      parser.feedByte byte = .ok (next, some frame) → frame.Genuine (before ++ [byte])

/-- The parser tracks a candidate read from the end of the stream. -/
structure TracksOrigin (stream : List UInt8) (parser : MavlinkParser) : Prop where
  tracks : parser.Tracks
  origin : Candidate.Origin stream parser.candidate

/-- A parser fed from new through resumable restarts tracks a candidate read from the stream. -/
theorem tracksOrigin_of_reached {stream : List UInt8} {result : MavlinkParser × List CompleteFrame}
    (resumes : RestartsResume stream) (reached : new.feedBytes stream = .ok result) :
    TracksOrigin stream result.1 := by
  -- Each byte that is taken keeps both.
  have initial : TracksOrigin [] new :=
    ⟨new_tracks, new_represents.candidate_eq ▸ Candidate.origin_idle []⟩
  refine feedAll_history TracksOrigin [] ?_ initial resumes reached
  rintro past parser byte next output ⟨tracks, origin⟩ lawful fed
  obtain ⟨onward, moved, -⟩ := tracks.feedByte fed
  exact ⟨onward, moved ▸ (Candidate.origin_step origin byte).1 lawful⟩

/-- A stream whose restarts all resume emits only genuine frames. -/
theorem emitsGenuine_of_restartsResume {stream : List UInt8} (resumes : RestartsResume stream) :
    EmitsGenuine stream := by
  rintro before byte after rfl parser outputs next frame reached fed
  have earlier := ((alongFallible_append before (byte :: after)).mp resumes).1
  obtain ⟨tracks, origin⟩ := tracksOrigin_of_reached earlier reached
  obtain ⟨-, -, shown⟩ := tracks.feedByte fed
  -- The candidate emits the frame's bytes.
  obtain ⟨whole, block⟩ := (Candidate.origin_step origin byte).2 frame.bytes shown.symm
  exact whole.genuine (feedByte_padded fed) block

/-- A frame whose length is not the one it announces is not genuine wherever it is emitted. -/
theorem not_emitsGenuine_of_output {stream : List UInt8} {last : MavlinkParser}
    {outputs : List CompleteFrame} (fed : new.feedBytes stream = .ok (last, outputs))
    {frame : CompleteFrame} (member : frame ∈ outputs)
    (odd : frame.bytes.length ≠ 8 + payloadLength frame.bytes) : ¬ EmitsGenuine stream := by
  intro genuine
  -- The frame left at some byte, where it would have to be genuine.
  obtain ⟨before, byte, after, split, ⟨parser, earlier⟩, next, reached, emission⟩ :=
    exists_step_of_output fed member
  have emitted := genuine before byte after split parser earlier next frame reached emission
  exact odd (emitted.length_bytes (feedByte_padded emission))

/-- A restart that cannot resume has a continuation that panics or emits a frame that is not
genuine. -/
theorem exists_spurious_of_late {stream : List UInt8} (late : ¬ RestartsResume stream) :
    ∃ early more, early <+: stream ∧
      ((∃ panic, new.feedBytes (early ++ more) = .error panic) ∨
        ¬ EmitsGenuine (early ++ more)) := by
  obtain ⟨before, byte, after, rfl, -, ⟨parser, outputs⟩, reached, unable⟩ :=
    exists_first_break late
  simp only [Candidate.RestartResumes, Classical.not_imp] at unable
  obtain ⟨judged, mismatch, unable⟩ := unable
  have late : ¬ Resumable (retained (parser.held ++ [byte])) := unable
  have early : before ++ [byte] <+: before ++ byte :: after := ⟨after, by simp⟩
  have tracks : parser.Tracks := tracks_of_reached reached
  cases fed : parser.feedByte byte with
  | error panic =>
    -- The failing byte itself finds no room.
    refine ⟨before ++ [byte], [], early, Or.inl ⟨panic, ?_⟩⟩
    rw [List.append_nil, feedBytes, feedAll_append_of_ok reached, feedAll_cons_error [] fed]
    rfl
  | ok pair =>
    obtain ⟨next, output⟩ := pair
    obtain rfl : output = none := by
      have shown := (tracks.feedByte fed).2.2
      unfold Candidate.step at shown
      simp only [judged, if_true, if_neg mismatch] at shown
      exact Option.map_eq_none_iff.mp shown
    have fails : FailsChecksum before parser byte next := ⟨⟨outputs, reached⟩, judged, fed⟩
    obtain ⟨onward, restarted⟩ := fails.restarts
    have nonempty : retained (parser.held ++ [byte]) ≠ [] := by
      intro nothing
      refine late (Or.inl ?_)
      show (retained (parser.held ++ [byte])).length ≤ 5
      rw [nothing]
      decide
    rw [Candidate.restart_of_kept nonempty] at restarted
    have through : new.feedBytes (before ++ [byte]) = .ok (next, outputs) := by
      rw [feedBytes, feedAll_append_of_ok reached, feedAll_cons_ok [] fed]
      simp [Except.map]
    by_cases room : (lateFrame (retained (parser.held ++ [byte]))).length ≤ maxFrameSizeBytes
    · -- The late frame is longer than it announces.
      obtain ⟨more, last, emitted, split, emits, bytes⟩ := feedBytes_late onward restarted late room
      refine ⟨before ++ [byte], more, early, Or.inr ?_⟩
      have whole : new.feedBytes (before ++ [byte] ++ more) = .ok (last, outputs ++ [emitted]) := by
        rw [feedBytes] at emits through ⊢
        rw [feedAll_append_of_ok through, emits]
        rfl
      obtain ⟨same, longer⟩ := Candidate.length_lateFrame late
      refine not_emitsGenuine_of_output whole (List.mem_append_right _ List.mem_cons_self) ?_
      rw [bytes]
      omega
    · -- The parser panics within the bytes that its buffer has left.
      refine ⟨before ++ [byte], List.replicate (maxFrameSizeBytes + 1) 0, early,
        Or.inl ⟨.indexOutOfBounds maxFrameSizeBytes, ?_⟩⟩
      have panics : feedAll feedByte next (List.replicate (maxFrameSizeBytes + 1) 0) = _ :=
        feedBytes_late_cramped onward restarted (by omega)
          (by rw [List.length_replicate]; omega)
      rw [feedBytes, feedAll_append_of_ok through, panics]
      rfl

/-- Where every restart along a stream can resume, the stream emits only genuine frames, and where
one cannot, some continuation from there panics or emits a frame that is not genuine. -/
theorem emitsGenuine_along (stream : List UInt8) :
    (RestartsResume stream → EmitsGenuine stream) ∧
      (¬ RestartsResume stream → ∃ early more, early <+: stream ∧
        ((∃ panic, new.feedBytes (early ++ more) = .error panic) ∨
          ¬ EmitsGenuine (early ++ more))) :=
  ⟨emitsGenuine_of_restartsResume, exists_spurious_of_late⟩

/-- A law of the candidate along a stream is one of the parser that tracks it. -/
theorem alongFallible_of_along {law : Candidate → UInt8 → Prop} {parser : MavlinkParser}
    (tracks : parser.Tracks) {bytes : List UInt8}
    (lawful : Along law (fun candidate byte => (candidate.step byte).1) parser.candidate bytes) :
    AlongFallible (fun parser byte => law parser.candidate byte) feedByte parser bytes := by
  -- Every byte that is taken moves both alike.
  induction bytes generalizing parser with
  | nil => trivial
  | cons byte rest ih =>
    refine ⟨lawful.1, fun next output fed => ?_⟩
    obtain ⟨onward, moved, -⟩ := tracks.feedByte fed
    exact ih onward (moved ▸ lawful.2)

/-- A failed empty frame whose last byte begins a heartbeat is a stream of genuine frames. -/
theorem emitsGenuine_after_startByte :
    EmitsGenuine [0xFE, 0, 0, 0, 0, 0, 0, 0xFE, 0, 7, 1, 1, 0, 90, 108] :=
  (emitsGenuine_along _).1 (alongFallible_of_along new_tracks
    (new_represents.candidate_eq ▸ by decide))

/-- A frame of eight bytes, swallowed by a corrupted one, is emitted with eleven. -/
theorem shadowedHistory_emits_spurious :
    ¬ EmitsGenuine (shadowedHistory ++ [108, 0, 90, 108]) := by
  -- The stream fits the buffer, so its outputs are those of the candidate.
  have fit : new.candidate.held.length + (shadowedHistory ++ [108, 0, 90, 108]).length ≤
      maxFrameSizeBytes := by
    rw [new_represents.candidate_eq]
    decide
  obtain ⟨last, outputs, fed, -, -, shown⟩ := new_tracks.feedBytes_of_fit fit
  have emitted : outputs.map CompleteFrame.bytes =
      [[0xFE, 0, 7, 1, 1, 0, 90, 108, 0, 90, 108]] := by
    rw [shown, new_represents.candidate_eq]
    decide
  obtain ⟨frame, member, bytes⟩ := List.mem_map.mp (emitted ▸ List.mem_cons_self)
  refine not_emitsGenuine_of_output fed member ?_
  rw [bytes]
  decide

end MavlinkParser

end Veloxity
