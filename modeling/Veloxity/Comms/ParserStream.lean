import Mathlib.Data.List.GetD
import Veloxity.Comms.Reading
import Veloxity.Comms.ParserRefinement

/-! Whatever the buffered parser has been fed, its outputs are those of its candidate. -/

namespace Veloxity

open Library

/-- The buffer of an emitted frame is zero behind the frame's bytes. -/
structure CompleteFrame.Padded (frame : CompleteFrame) : Prop where
  bounded : frame.len ≤ maxFrameSizeBytes
  zero : ∀ index, frame.len ≤ index → index < maxFrameSizeBytes →
    frame.data.toList[index]? = some 0

/-- An emitted frame has as many bytes as it says. -/
theorem CompleteFrame.Padded.length_bytes {frame : CompleteFrame} (padded : frame.Padded) :
    frame.bytes.length = frame.len := by
  rw [CompleteFrame.bytes, List.length_take, Vector.length_toList]
  exact Nat.min_eq_left padded.bounded

/-- Emitted frames with the same bytes are the same. -/
theorem CompleteFrame.Padded.ext {frame other : CompleteFrame} (padded : frame.Padded)
    (alike : other.Padded) (same : frame.bytes = other.bytes) : frame = other := by
  -- The lengths agree, and so do the buffers before and behind them.
  have lengths : frame.len = other.len := by
    rw [← padded.length_bytes, same, alike.length_bytes]
  obtain ⟨data, len⟩ := frame
  obtain ⟨data', len'⟩ := other
  cases lengths
  have buffers : data.toList = data'.toList := by
    refine List.ext_getElem? fun index => ?_
    by_cases inside : index < len
    · have here := congrArg (·[index]?) same
      simpa [CompleteFrame.bytes, List.getElem?_take, inside] using here
    · by_cases within : index < maxFrameSizeBytes
      · rw [padded.zero index (by simp only; omega) within,
          alike.zero index (by simp only; omega) within]
      · rw [List.getElem?_eq_none (by rw [Vector.length_toList]; omega),
          List.getElem?_eq_none (by rw [Vector.length_toList]; omega)]
  rw [Vector.toList_inj.mp buffers]

section Emission

/-- A bound computation succeeds with what its continuation yields on its value. -/
theorem checked_bind_ok {α β : Type} {first : Checked α} {next : α → Checked β} {result : β} :
    first >>= next = .ok result ↔ ∃ value, first = .ok value ∧ next value = .ok result := by
  -- A failure would have been passed on.
  cases first with
  | error failure => simp [Bind.bind, Except.bind]
  | ok value => simp [Bind.bind, Except.bind]

/-- Copying leaves alone the indices behind those it copies. -/
theorem copyBytes_behind {source : FrameBuffer} (count : Nat) :
    ∀ copied (target result : FrameBuffer),
      copyBytes source target (List.range' copied count) = .ok result →
      ∀ index, copied + count ≤ index → result.toList[index]? = target.toList[index]? := by
  -- Each step writes at an index below the bound.
  induction count with
  | zero =>
    intro copied target result done index _
    cases done
    rfl
  | succ count ih =>
    intro copied target result done index behind
    rw [List.range'_succ, copyBytes] at done
    obtain ⟨byte, -, done⟩ := checked_bind_ok.mp done
    obtain ⟨next, stored, done⟩ := checked_bind_ok.mp done
    rw [ih (copied + 1) next result done index (by omega)]
    unfold FrameBuffer.store at stored
    split at stored
    · cases stored
      rw [Vector.toList_set, List.getElem?_set, if_neg (by omega)]
    · cases stored

/-- Only bytes inside the buffer are loaded. -/
theorem lt_of_load {buf : FrameBuffer} {index : Nat} {byte : UInt8}
    (loaded : buf.load index = .ok byte) : index < maxFrameSizeBytes := by
  unfold FrameBuffer.load at loaded
  split at loaded
  · assumption
  · exact nomatch loaded

/-- A counter is never lowered below zero. -/
theorem checkedSub_ok {left right difference : Nat}
    (done : checkedSub left right = .ok difference) :
    right ≤ left ∧ difference = left - right := by
  unfold checkedSub at done
  -- A difference below zero would have panicked.
  split at done
  · cases done
    exact ⟨by assumption, rfl⟩
  · exact nomatch done

namespace MavlinkParser

/-- A frame emitted by the verdict on a candidate is padded. -/
theorem finishFrame_padded {parser next : MavlinkParser} {frame : CompleteFrame}
    (finished : parser.finishFrame = .ok (next, some frame)) : frame.Padded := by
  -- The frame is copied into a zero buffer.
  obtain ⟨payloadLen, -, finished⟩ := checked_bind_ok.mp finished
  obtain ⟨lowIndex, -, finished⟩ := checked_bind_ok.mp finished
  obtain ⟨low, -, finished⟩ := checked_bind_ok.mp finished
  obtain ⟨highIndex, lowered, finished⟩ := checked_bind_ok.mp finished
  obtain ⟨high, loaded, finished⟩ := checked_bind_ok.mp finished
  obtain ⟨crc, -, finished⟩ := checked_bind_ok.mp finished
  have inside := lt_of_load loaded
  obtain ⟨positive, position⟩ := checkedSub_ok lowered
  split at finished
  · obtain ⟨data, copied, finished⟩ := checked_bind_ok.mp finished
    cases finished
    refine ⟨by simp only; omega, fun index behind within => ?_⟩
    simp only at behind
    rw [List.range_eq_range'] at copied
    rw [copyBytes_behind _ _ _ _ copied index (by omega)]
    simp [within]
  · obtain ⟨restarted, -, finished⟩ := checked_bind_ok.mp finished
    exact nomatch finished

/-- Every emitted frame is padded. -/
theorem feedByte_padded {parser next : MavlinkParser} {byte : UInt8} {frame : CompleteFrame}
    (fed : parser.feedByte byte = .ok (next, some frame)) : frame.Padded := by
  -- Only the verdict on a candidate emits anything.
  unfold feedByte at fed
  split at fed
  · split at fed
    · obtain ⟨buf, -, fed⟩ := checked_bind_ok.mp fed
      exact nomatch fed
    · exact nomatch fed
  · obtain ⟨stored, -, fed⟩ := checked_bind_ok.mp fed
    split at fed
    · obtain ⟨payloadLen, -, fed⟩ := checked_bind_ok.mp fed
      split at fed
      · exact nomatch fed
      · split at fed
        · exact nomatch fed
        · exact nomatch fed
    · exact nomatch fed
  · obtain ⟨stored, -, fed⟩ := checked_bind_ok.mp fed
    obtain ⟨read, -, fed⟩ := checked_bind_ok.mp fed
    split at fed
    · exact nomatch fed
    · exact nomatch fed
  · obtain ⟨stored, -, fed⟩ := checked_bind_ok.mp fed
    split at fed
    · exact finishFrame_padded fed
    · obtain ⟨remaining, -, fed⟩ := checked_bind_ok.mp fed
      exact nomatch fed

/-- Emitted frames are padded. -/
theorem feedBytes_padded {parser last : MavlinkParser} {bytes : List UInt8}
    {outputs : List CompleteFrame} (fed : parser.feedBytes bytes = .ok (last, outputs)) :
    ∀ frame ∈ outputs, frame.Padded := by
  intro frame member
  obtain ⟨before, byte, after, -, result, next, -, emitted⟩ := exists_step_of_output fed member
  exact feedByte_padded emitted

section Tracking

/-- The parser represents a well-formed candidate, its own. -/
structure Tracks (parser : MavlinkParser) : Prop where
  represents : parser.Represents parser.candidate
  formed : parser.candidate.WellFormed

/-- A parser that represents a well-formed candidate tracks it. -/
theorem Represents.tracks {parser : MavlinkParser} {target : Candidate}
    (represents : parser.Represents target) (formed : target.WellFormed) : parser.Tracks := by
  have same := represents.candidate_eq
  exact ⟨by rwa [same], by rwa [same]⟩

/-- A new parser tracks the idle candidate. -/
theorem new_tracks : new.Tracks := new_represents.tracks rfl

/-- A busy parser without room panics. -/
theorem Tracks.panics {parser : MavlinkParser} (tracks : parser.Tracks)
    (busy : parser.candidate.phase ≠ .waitingForStart)
    (full : maxFrameSizeBytes ≤ parser.candidate.held.length) (byte : UInt8) :
    parser.feedByte byte = .error (.indexOutOfBounds maxFrameSizeBytes) := by
  -- The buffer holds no more bytes than it has.
  have capacity := tracks.represents.front.length_le
  rw [Vector.length_toList] at capacity
  refine feedByte_panics ?_ ?_ byte
  · rwa [tracks.represents.phase]
  · rw [tracks.represents.position]
    omega

/-- A byte is taken only where the candidate is idle or the buffer has room for it. -/
theorem Tracks.room {parser next : MavlinkParser} (tracks : parser.Tracks) {byte : UInt8}
    {output : Option CompleteFrame} (fed : parser.feedByte byte = .ok (next, output)) :
    parser.candidate.phase = .waitingForStart ∨
      parser.candidate.held.length < maxFrameSizeBytes := by
  -- A busy parser with a full buffer would have panicked.
  by_contra full
  rw [not_or] at full
  have panics := tracks.panics full.1 (by omega) byte
  rw [fed] at panics
  exact nomatch panics

/-- A byte that is taken moves the parser as it moves the candidate. -/
theorem Tracks.feedByte {parser next : MavlinkParser} (tracks : parser.Tracks) {byte : UInt8}
    {output : Option CompleteFrame} (fed : parser.feedByte byte = .ok (next, output)) :
    next.Tracks ∧ next.candidate = (parser.candidate.step byte).1 ∧
      output.map CompleteFrame.bytes = (parser.candidate.step byte).2 := by
  -- The byte has room, so the parser does as its candidate.
  obtain ⟨same, emitted, followed, onward, shown⟩ :=
    feedByte_follows tracks.represents tracks.formed (tracks.room fed) byte
  rw [fed] at followed
  cases followed
  exact ⟨onward.tracks (Candidate.step_wellFormed tracks.formed byte), onward.candidate_eq, shown⟩

/-- A parser fed from new tracks its candidate. -/
theorem tracks_of_reached {history : List UInt8} {result : MavlinkParser × List CompleteFrame}
    (reached : new.feedBytes history = .ok result) : result.1.Tracks := by
  -- Every byte that is taken keeps the parser on track.
  exact feedAll_history (fun _ parser => parser.Tracks) []
    (fun _ _ _ _ _ tracks _ fed => (tracks.feedByte fed).1) new_tracks
    (alongFallible_of_forall (fun _ _ => trivial) history) reached

/-- Emitted frames with the same bytes are the same. -/
theorem outputs_eq_of_bytes {parser other next same : MavlinkParser} {byte : UInt8}
    {output emitted : Option CompleteFrame} (fed : parser.feedByte byte = .ok (next, output))
    (alike : other.feedByte byte = .ok (same, emitted))
    (bytes : output.map CompleteFrame.bytes = emitted.map CompleteFrame.bytes) :
    output = emitted := by
  -- Both frames are padded, so their bytes determine them.
  cases output with
  | none =>
    cases emitted with
    | none => rfl
    | some frame => exact nomatch bytes
  | some frame =>
    cases emitted with
    | none => exact nomatch bytes
    | some frame' =>
      rw [(feedByte_padded fed).ext (feedByte_padded alike) (Option.some.inj bytes)]

/-- Parsers with the same candidate have the same outputs, and panic alike. -/
theorem outputs_eq_of_candidate {parser other : MavlinkParser} (tracks : parser.Tracks)
    (alike : other.Tracks) (same : parser.candidate = other.candidate) (bytes : List UInt8) :
    (parser.feedBytes bytes).map Prod.snd = (other.feedBytes bytes).map Prod.snd := by
  -- One byte finds both without room, or is taken by both and keeps their candidates the same.
  induction bytes generalizing parser other with
  | nil => rfl
  | cons byte rest ih =>
    -- A byte with room is taken by both, and moves both candidates alike.
    by_cases room : parser.candidate.phase = .waitingForStart ∨
        parser.candidate.held.length < maxFrameSizeBytes
    · obtain ⟨next, output, fed, -, -⟩ :=
        feedByte_follows tracks.represents tracks.formed room byte
      obtain ⟨next', output', fed', -, -⟩ :=
        feedByte_follows alike.represents alike.formed (same ▸ room) byte
      obtain ⟨onward, moved, shown⟩ := tracks.feedByte fed
      obtain ⟨onward', moved', shown'⟩ := alike.feedByte fed'
      have emitted : output = output' := outputs_eq_of_bytes fed fed' (by rw [shown, shown', same])
      have later := ih onward onward' (by rw [moved, moved', same])
      rw [feedBytes, feedBytes] at later ⊢
      rw [feedAll_cons_ok rest fed, feedAll_cons_ok rest fed', emitted]
      cases finished : feedAll MavlinkParser.feedByte next rest with
      | error failure =>
        cases finished' : feedAll MavlinkParser.feedByte next' rest with
        | error failure' =>
          rw [finished, finished'] at later
          exact later
        | ok last' => simp [finished, finished', Except.map] at later
      | ok last =>
        cases finished' : feedAll MavlinkParser.feedByte next' rest with
        | error failure' => simp [finished, finished', Except.map] at later
        | ok last' =>
          simp only [finished, finished', Except.map, Except.ok.injEq] at later
          simp only [Except.map, later]
    · -- Without room both panic at the same byte.
      rw [not_or] at room
      have panics := tracks.panics room.1 (by omega) byte
      have panics' := alike.panics (same ▸ room.1) (by rw [← same]; omega) byte
      rw [feedBytes, feedBytes, feedAll_cons_error rest panics, feedAll_cons_error rest panics']

/-- Bytes that always find room are all taken, and move the parser as they move the candidate. -/
theorem Tracks.feedBytes {parser : MavlinkParser} (tracks : parser.Tracks) {bytes : List UInt8}
    (room : ∀ before byte after, bytes = before ++ byte :: after →
      (transduce Candidate.step parser.candidate before).1.held.length < maxFrameSizeBytes) :
    ∃ last outputs, parser.feedBytes bytes = .ok (last, outputs) ∧ last.Tracks ∧
      last.candidate = (transduce Candidate.step parser.candidate bytes).1 ∧
      outputs.map CompleteFrame.bytes = (transduce Candidate.step parser.candidate bytes).2 := by
  -- The parser follows its candidate at every byte.
  have simulates : ∀ (state : MavlinkParser) (target : Candidate) (byte : UInt8),
      state.Represents target ∧ target.WellFormed →
      target.held.length < maxFrameSizeBytes →
      ∃ next output, state.feedByte byte = .ok (next, output) ∧
        (next.Represents (target.step byte).1 ∧ (target.step byte).1.WellFormed) ∧
        output.map CompleteFrame.bytes = (target.step byte).2 := by
    rintro state target byte ⟨represents, formed⟩ within
    obtain ⟨next, output, fed, onward, shown⟩ :=
      feedByte_follows represents formed (Or.inr within) byte
    exact ⟨next, output, fed, ⟨onward, Candidate.step_wellFormed formed byte⟩, shown⟩
  obtain ⟨last, outputs, fed, ⟨represents, formed⟩, shown⟩ :=
    feedAll_follows simulates (And.intro tracks.represents tracks.formed) room
  exact ⟨last, outputs, fed, represents.tracks formed, represents.candidate_eq, shown⟩

/-- Bytes that fit behind the held ones are all taken. -/
theorem Tracks.feedBytes_of_fit {parser : MavlinkParser} (tracks : parser.Tracks)
    {bytes : List UInt8} (fit : parser.candidate.held.length + bytes.length ≤ maxFrameSizeBytes) :
    ∃ last outputs, parser.feedBytes bytes = .ok (last, outputs) ∧ last.Tracks ∧
      last.candidate = (transduce Candidate.step parser.candidate bytes).1 ∧
      outputs.map CompleteFrame.bytes = (transduce Candidate.step parser.candidate bytes).2 := by
  -- Each byte is held at most once.
  refine tracks.feedBytes ?_
  rintro before byte after rfl
  have held := (Candidate.transduce_length_le parser.candidate before).1
  rw [List.length_append, List.length_cons] at fit
  omega

end Tracking

end MavlinkParser

end Emission

end Veloxity
