import Mathlib.Data.List.GetD
import Veloxity.Comms.Candidate

/-! The buffered parser follows its candidate for as long as it stores inside the buffer. -/

namespace Veloxity

open Candidate

section Buffer

variable {buf : FrameBuffer} {bytes : List UInt8}

/-- A byte listed at the front of the buffer is read back without a panic. -/
theorem load_of_front (front : bytes <+: buf.toList) {index : Nat}
    (inside : index < bytes.length) : buf.load index = .ok (bytes.getD index 0) := by
  -- The front can be no longer than the buffer itself.
  have bounded : index < buf.toList.length := Nat.lt_of_lt_of_le inside front.length_le
  have same : buf.toList[index] = bytes[index] := (front.getElem inside).symm
  rw [Vector.length_toList] at bounded
  rw [List.getD_eq_getElem _ _ inside, ← same, Vector.getElem_toList, FrameBuffer.load,
    dif_pos bounded]

/-- Storing just after the front extends it by the stored byte. -/
theorem store_of_front (front : bytes <+: buf.toList) (room : bytes.length < maxFrameSizeBytes)
    (byte : UInt8) :
    ∃ next, buf.store bytes.length byte = .ok next ∧ (bytes ++ [byte]) <+: next.toList := by
  -- Indices below the write position keep their bytes.
  refine ⟨buf.set bytes.length byte room, by rw [FrameBuffer.store, dif_pos room], ?_⟩
  rw [Vector.toList_set, List.prefix_iff_getElem?]
  intro index inside
  simp only [List.length_append, List.length_singleton] at inside
  rw [List.getElem?_set]
  by_cases last : bytes.length = index
  · subst last
    simp [room]
  · have earlier : index < bytes.length := by omega
    rw [if_neg last, List.getElem_append_left earlier]
    exact List.prefix_iff_getElem?.mp front index earlier

/-- Storing past the end of the buffer panics. -/
theorem store_past_end (byte : UInt8) :
    buf.store maxFrameSizeBytes byte = .error (.indexOutOfBounds maxFrameSizeBytes) := by
  -- The index equals the capacity.
  rw [FrameBuffer.store, dif_neg (by omega)]

/-- Accumulating buffer indices accumulates the listed bytes. -/
theorem crcOver_of_front (front : bytes <+: buf.toList) (count : Nat) :
    ∀ first crc, first + count ≤ bytes.length →
      crcOver buf (List.range' first count) crc =
        .ok (crcOfBytes ((bytes.drop first).take count) crc) := by
  -- The induction consumes one index and one byte at a time.
  induction count with
  | zero => intro first crc _; simp [crcOver, crcOfBytes]
  | succ count ih =>
    intro first crc bounded
    have inside : first < bytes.length := by omega
    simp only [List.range'_succ, crcOver, load_of_front front inside, Bind.bind, Except.bind]
    rw [ih (first + 1) _ (by omega), List.drop_eq_getElem_cons inside, List.take_succ_cons,
      List.getD_eq_getElem _ _ inside]
    rfl

/-- The buffer's checksum is the candidate's when the buffer holds all it covers. -/
theorem calculateCrc_of_front (front : bytes <+: buf.toList)
    (covered : 6 + payloadLength bytes ≤ bytes.length) :
    calculateCrc buf (payloadLength bytes) = .ok (candidateCrc bytes) := by
  -- The checksum stops two bytes before the frame's end.
  unfold calculateCrc candidateCrc
  rw [crcOver_of_front front _ _ _ (by omega)]
  simp only [Bind.bind, Except.bind, load_of_front front (show 5 < bytes.length by omega)]
  split <;> rfl

/-- Searching the listed indices finds where the bytes after the non-start ones begin. -/
theorem findStart_of_front (front : bytes <+: buf.toList) (count : Nat) :
    ∀ first, first + count = bytes.length →
      (findStart buf (List.range' first count) = .ok none ∧
        (bytes.drop first).dropWhile (· != startByte) = []) ∨
      ∃ start, findStart buf (List.range' first count) = .ok (some start) ∧
        first ≤ start ∧ start < bytes.length ∧
        (bytes.drop first).dropWhile (· != startByte) = bytes.drop start := by
  -- Either the head is a start byte, or it is dropped and the search goes on behind it.
  induction count with
  | zero =>
    intro first bounded
    left
    rw [List.drop_eq_nil_of_le (by omega)]
    exact ⟨rfl, rfl⟩
  | succ count ih =>
    intro first bounded
    have inside : first < bytes.length := by omega
    simp only [List.range'_succ, findStart, load_of_front front inside, Bind.bind, Except.bind,
      List.getD_eq_getElem _ _ inside]
    rw [List.drop_eq_getElem_cons inside]
    by_cases found : bytes[first] = startByte
    · right
      refine ⟨first, by rw [if_pos found]; rfl, Nat.le_refl _, inside, ?_⟩
      rw [List.dropWhile_cons_of_neg (by simp [found]), List.drop_eq_getElem_cons inside]
    · rw [if_neg found, List.dropWhile_cons_of_pos (by simp [found])]
      rcases ih (first + 1) (by omega) with absent | ⟨start, located, after, within, dropped⟩
      · exact Or.inl absent
      · exact Or.inr ⟨start, located, by omega, within, dropped⟩

/-- Copying indices in order fills the target's front with the source's bytes. -/
theorem copyBytes_of_front (front : bytes <+: buf.toList) (count : Nat) :
    ∀ copied (target : FrameBuffer), copied + count = bytes.length →
      bytes.take copied <+: target.toList →
      ∃ result, copyBytes buf target (List.range' copied count) = .ok result ∧
        bytes <+: result.toList := by
  -- Each step extends the copied front by one byte.
  have capacity : bytes.length ≤ maxFrameSizeBytes := by
    have bounded := front.length_le
    rwa [Vector.length_toList] at bounded
  induction count with
  | zero =>
    intro copied target bounded started
    rw [List.take_of_length_le (by omega)] at started
    exact ⟨target, rfl, started⟩
  | succ count ih =>
    intro copied target bounded started
    have inside : copied < bytes.length := by omega
    have width : (bytes.take copied).length = copied := by
      rw [List.length_take]; omega
    obtain ⟨next, stored, extended⟩ := store_of_front started (by omega) (bytes.getD copied 0)
    rw [width] at stored
    rw [List.getD_eq_getElem _ _ inside, List.take_append_getElem] at extended
    obtain ⟨result, finished, full⟩ := ih (copied + 1) next (by omega) extended
    refine ⟨result, ?_, full⟩
    simp only [List.range'_succ, copyBytes, load_of_front front inside, Bind.bind, Except.bind,
      stored, finished]

/-- Shifting in place reads only bytes that earlier writes of the loop have not reached. -/
theorem shiftDown_moves (original : FrameBuffer) {start : Nat} (positive : 0 < start)
    (count : Nat) :
    ∀ moved (buf : FrameBuffer), start + moved + count ≤ maxFrameSizeBytes →
      (∀ index, index < moved → buf.toList[index]? = original.toList[start + index]?) →
      (∀ index, moved ≤ index → buf.toList[index]? = original.toList[index]?) →
      ∃ result, shiftDown start buf (List.range' moved count) = .ok result ∧
        ∀ index, index < moved + count →
          result.toList[index]? = original.toList[start + index]? := by
  -- The loop invariant splits the buffer into moved bytes and untouched bytes.
  induction count with
  | zero => intro moved buf _ done _; exact ⟨buf, rfl, by simpa using done⟩
  | succ count ih =>
    intro moved buf bounded done untouched
    have source : start + moved < maxFrameSizeBytes := by omega
    have target : moved < maxFrameSizeBytes := by omega
    have loaded : buf.load (start + moved) = .ok buf[start + moved] := by
      rw [FrameBuffer.load, dif_pos source]
    have stored : buf.store moved buf[start + moved] =
        .ok (buf.set moved buf[start + moved]) := by
      rw [FrameBuffer.store, dif_pos target]
    -- The byte read lies behind all that was written, so it is still the original one.
    have value : original.toList[start + moved]? = some buf[start + moved] := by
      rw [← untouched (start + moved) (by omega),
        List.getElem?_eq_getElem (by simpa using source), Vector.getElem_toList]
    obtain ⟨result, finished, shifted⟩ :=
      ih (moved + 1) (buf.set moved buf[start + moved]) (by omega)
      (by
        intro index earlier
        rw [Vector.toList_set, List.getElem?_set]
        by_cases last : moved = index
        · subst last
          simp [target, value]
        · rw [if_neg last]
          exact done index (by omega))
      (by
        intro index later
        rw [Vector.toList_set, List.getElem?_set, if_neg (by omega)]
        exact untouched index (by omega))
    refine ⟨result, ?_, fun index within => shifted index (by omega)⟩
    simp only [List.range'_succ, shiftDown, loaded, stored, Bind.bind, Except.bind, finished]

/-- Shifting a whole suffix down puts it at the buffer's front. -/
theorem shiftDown_of_front (front : bytes <+: buf.toList) {start : Nat} (positive : 0 < start)
    (within : start < bytes.length) :
    ∃ result, shiftDown start buf (List.range (bytes.length - start)) = .ok result ∧
      bytes.drop start <+: result.toList := by
  -- The general loop lemma is used from an empty moved part.
  have capacity : bytes.length ≤ maxFrameSizeBytes := by
    have bounded := front.length_le
    rwa [Vector.length_toList] at bounded
  obtain ⟨result, finished, shifted⟩ := shiftDown_moves buf positive
    (bytes.length - start) 0 buf (by omega) (by simp) (by simp)
  rw [List.range_eq_range']
  refine ⟨result, finished, List.prefix_iff_getElem?.mpr ?_⟩
  intro index inside
  rw [List.length_drop] at inside
  rw [shifted index (by omega), List.getElem_drop]
  exact List.prefix_iff_getElem?.mp front (start + index) (by omega)

end Buffer

/-- The bytes of an emitted frame. -/
def CompleteFrame.bytes (frame : CompleteFrame) : List UInt8 := frame.data.toList.take frame.len

namespace MavlinkParser

/-- The bytes a parser holds for its current candidate. -/
def held (parser : MavlinkParser) : List UInt8 := parser.frameBuf.toList.take parser.framePos

/-- A parser seen as the candidate it is building. -/
def candidate (parser : MavlinkParser) : Candidate :=
  { held := parser.held, phase := parser.state }

/-- A parser represents a candidate when its buffer starts with the candidate's bytes. -/
structure Represents (parser : MavlinkParser) (target : Candidate) : Prop where
  front : target.held <+: parser.frameBuf.toList
  position : parser.framePos = target.held.length
  phase : parser.state = target.phase

/-- A represented candidate is the parser's own view of itself. -/
theorem Represents.candidate_eq {parser : MavlinkParser} {target : Candidate}
    (represents : parser.Represents target) : parser.candidate = target := by
  -- Taking the position's bytes off the buffer's front recovers the held bytes.
  obtain ⟨held, phase⟩ := target
  simp only [candidate, MavlinkParser.held, represents.position, represents.phase,
    Candidate.mk.injEq, and_true]
  exact (List.prefix_iff_eq_take.mp represents.front).symm

/-- A new parser represents the idle candidate. -/
theorem new_represents : new.Represents Candidate.idle := by
  -- No bytes are held.
  exact ⟨List.nil_prefix, rfl, rfl⟩

section Simulation

variable {parser : MavlinkParser} {target : Candidate}

/-- Discarding a candidate represents the idle one. -/
theorem reset_represents (parser : MavlinkParser) : parser.reset.Represents Candidate.idle := by
  -- The buffer's bytes stay, but none of them is held.
  exact ⟨List.nil_prefix, rfl, rfl⟩

/-- Storing a byte extends the represented bytes by it. -/
theorem storeNext_represents (represents : parser.Represents target)
    (room : target.held.length < maxFrameSizeBytes) (byte : UInt8) :
    ∃ next, parser.storeNext byte = .ok next ∧
      next.Represents { target with held := target.held ++ [byte] } := by
  -- The write position is the number of held bytes.
  obtain ⟨buf, stored, extended⟩ := store_of_front represents.front room byte
  refine ⟨{ parser with frameBuf := buf, framePos := parser.framePos + 1 }, ?_, extended, ?_,
    represents.phase⟩
  · simp only [storeNext, represents.position, stored, Bind.bind, Except.bind, Pure.pure,
      Except.pure]
  · simp [represents.position]

/-- A failed candidate's parser represents the candidate restarted from its bytes. -/
theorem resynchronise_represents (represents : parser.Represents target)
    (nonempty : target.held ≠ []) :
    ∃ next, parser.resynchronise = .ok next ∧ next.Represents (Candidate.restart target.held) := by
  -- The search result decides between a shifted suffix and a reset.
  have positive : 0 < target.held.length := List.length_pos_of_ne_nil nonempty
  have position := represents.position
  rcases findStart_of_front represents.front (target.held.length - 1) 1 (by omega) with
    ⟨absent, dropped⟩ | ⟨start, located, after, within, dropped⟩
  · have nothing : retained target.held = [] := by
      rw [retained, ← List.drop_one]; exact dropped
    refine ⟨parser.reset, ?_, ?_⟩
    · simp only [resynchronise, position, absent, Bind.bind, Except.bind, Pure.pure, Except.pure]
    · rw [Candidate.restart, nothing]
      exact reset_represents parser
  · have suffix : retained target.held = target.held.drop start := by
      rw [retained, ← List.drop_one]; exact dropped
    obtain ⟨buf, shifted, front⟩ := shiftDown_of_front represents.front (by omega) within
    refine ⟨{ frameBuf := buf, framePos := target.held.length - start, state := .readingHeader },
      ?_, ?_⟩
    · simp only [resynchronise, position, located, checkedSub, if_pos (Nat.le_of_lt within),
        shifted, Bind.bind, Except.bind, Pure.pure, Except.pure]
    · rw [Candidate.restart, suffix]
      cases kept : target.held.drop start with
      | nil =>
        have short := congrArg List.length kept
        simp only [List.length_drop, List.length_nil] at short
        omega
      | cons first rest =>
        rw [kept] at front
        refine ⟨front, ?_, rfl⟩
        simp only
        rw [← kept, List.length_drop]

/-- Judging a complete candidate emits its bytes or restarts from what it leaves. -/
theorem finishFrame_represents (represents : parser.Represents target)
    (complete : 8 + payloadLength target.held ≤ target.held.length) :
    ∃ next output, parser.finishFrame = .ok (next, output) ∧
      if ChecksumMatches target.held
      then next.Represents Candidate.idle ∧ output.map CompleteFrame.bytes = some target.held
      else next.Represents (Candidate.restart target.held) ∧ output = none := by
  -- The loads of the source are in range, so both sides compare the same checksums.
  have position := represents.position
  have front := represents.front
  have low := load_of_front front (show target.held.length - 2 < target.held.length by omega)
  have high := load_of_front front (show target.held.length - 1 < target.held.length by omega)
  have loadedLength := load_of_front front (show 1 < target.held.length by omega)
  have crc := calculateCrc_of_front front (show _ by omega)
  have subTwo : checkedSub target.held.length 2 = .ok (target.held.length - 2) := by
    rw [checkedSub, if_pos (by omega)]
  have subOne : checkedSub target.held.length 1 = .ok (target.held.length - 1) := by
    rw [checkedSub, if_pos (by omega)]
  unfold payloadLength at crc
  by_cases agrees : ChecksumMatches target.held
  · -- A checksum that agrees has the frame copied out and the parser reset.
    obtain ⟨data, copied, full⟩ := copyBytes_of_front front target.held.length 0
      (Vector.replicate maxFrameSizeBytes 0) (by omega) (by simp)
    refine ⟨parser.reset, some { data, len := target.held.length }, ?_, ?_⟩
    · unfold ChecksumMatches receivedCrc at agrees
      simp only [finishFrame, position, loadedLength, low, high, subTwo, subOne, crc, Bind.bind,
        Except.bind, Pure.pure, Except.pure, List.range_eq_range', copied, if_pos agrees]
    · rw [if_pos agrees]
      refine ⟨reset_represents parser, ?_⟩
      simp only [Option.map_some, CompleteFrame.bytes, Option.some.injEq]
      exact (List.prefix_iff_eq_take.mp full).symm
  · -- Any other one has the parser search what it holds for another start.
    obtain ⟨next, moved, restarted⟩ := resynchronise_represents represents
      (by intro empty; rw [empty] at complete; simp at complete)
    refine ⟨next, none, ?_, ?_⟩
    · have differs := agrees
      unfold ChecksumMatches receivedCrc at differs
      simp only [finishFrame, position, loadedLength, low, high, subTwo, subOne, crc, Bind.bind,
        Except.bind, Pure.pure, Except.pure, if_neg differs, moved]
    · rw [if_neg agrees]
      exact ⟨restarted, rfl⟩

/-- Feeding the byte succeeds and moves the parser and its candidate alike. -/
def Follows (parser : MavlinkParser) (target : Candidate) (byte : UInt8) : Prop :=
  ∃ next output, parser.feedByte byte = .ok (next, output) ∧
    next.Represents (target.step byte).1 ∧
    output.map CompleteFrame.bytes = (target.step byte).2

/-- An idle parser follows every byte, starting a candidate only at a start byte. -/
theorem follows_waiting {held : List UInt8}
    (represents : parser.Represents { held, phase := .waitingForStart }) (byte : UInt8) :
    parser.Follows { held, phase := .waitingForStart } byte := by
  -- The start byte is stored at index zero whatever the position was.
  have state := represents.phase
  by_cases start : byte = startByte
  · have fresh : ([] : List UInt8) <+: parser.frameBuf.toList := List.nil_prefix
    obtain ⟨buf, stored, extended⟩ := store_of_front fresh (by decide) byte
    rw [List.length_nil] at stored
    refine ⟨{ frameBuf := buf, framePos := 1, state := .readingHeader }, none, ?_, ?_, ?_⟩
    · simp only [feedByte, state, if_pos start, stored, Bind.bind, Except.bind, Pure.pure,
        Except.pure]
    · simp only [Candidate.step, if_pos start]
      exact ⟨extended, rfl, rfl⟩
    · simp only [Candidate.step, if_pos start, Option.map_none]
  · refine ⟨parser, none, ?_, ?_, ?_⟩
    · simp only [feedByte, state, if_neg start, Pure.pure, Except.pure]
    · simpa only [Candidate.step, if_neg start] using represents
    · simp only [Candidate.step, if_neg start, Option.map_none]

/-- A header byte completes the header once six bytes are held. -/
theorem follows_header {held : List UInt8}
    (represents : parser.Represents { held, phase := .readingHeader })
    (room : held.length < maxFrameSizeBytes) (byte : UInt8) :
    parser.Follows { held, phase := .readingHeader } byte := by
  -- Only a complete header looks at the length byte.
  have state := represents.phase
  obtain ⟨next, stored, extended⟩ := storeNext_represents represents room byte
  have position := extended.position
  simp only at position extended state
  by_cases complete : 6 ≤ (held ++ [byte]).length
  · have loaded := load_of_front extended.front (show 1 < (held ++ [byte]).length by omega)
    have bounded : ¬ 255 < ((held ++ [byte]).getD 1 0).toNat := by
      have below := payloadLength_le (held ++ [byte])
      unfold payloadLength at below
      omega
    refine ⟨{ next with state := Candidate.afterHeader (held ++ [byte]) }, none, ?_, ?_, ?_⟩
    · simp only at loaded
      simp only [feedByte, state, stored, position, if_pos complete, loaded, if_neg bounded,
        Bind.bind, Except.bind, Pure.pure, Except.pure, Candidate.afterHeader, payloadLength]
      by_cases empty : ((held ++ [byte]).getD 1 0).toNat = 0
      · simp only [empty, ↓reduceIte]
      · simp only [empty, ↓reduceIte]
    · simp only [Candidate.step, if_pos complete]
      exact ⟨extended.front, extended.position, rfl⟩
    · simp only [Candidate.step, if_pos complete, Option.map_none]
  · refine ⟨next, none, ?_, ?_, ?_⟩
    · simp only [feedByte, state, stored, position, if_neg complete, Bind.bind, Except.bind,
        Pure.pure, Except.pure]
    · simpa only [Candidate.step, if_neg complete] using extended
    · simp only [Candidate.step, if_neg complete, Option.map_none]

/-- A payload byte moves on to the checksum once the announced length is reached. -/
theorem follows_payload {held : List UInt8} {expectedLen : Nat}
    (represents : parser.Represents { held, phase := .readingPayload expectedLen })
    (room : held.length < maxFrameSizeBytes) (long : 6 ≤ held.length) (byte : UInt8) :
    parser.Follows { held, phase := .readingPayload expectedLen } byte := by
  -- The header is already held, so the payload count does not underflow.
  have state := represents.phase
  obtain ⟨next, stored, extended⟩ := storeNext_represents represents room byte
  have position := extended.position
  simp only at position extended state
  have read : checkedSub (held ++ [byte]).length 6 = .ok ((held ++ [byte]).length - 6) := by
    rw [checkedSub, if_pos (by simp only [List.length_append, List.length_singleton]; omega)]
  by_cases finished : expectedLen ≤ (held ++ [byte]).length - 6
  · refine ⟨{ next with state := .readingChecksum 2 }, none, ?_, ?_, ?_⟩
    · simp only [feedByte, state, stored, position, read, if_pos finished, Bind.bind,
        Except.bind, Pure.pure, Except.pure]
    · simp only [Candidate.step, if_pos finished]
      exact ⟨extended.front, extended.position, rfl⟩
    · simp only [Candidate.step, if_pos finished, Option.map_none]
  · refine ⟨next, none, ?_, ?_, ?_⟩
    · simp only [feedByte, state, stored, position, read, if_neg finished, Bind.bind,
        Except.bind, Pure.pure, Except.pure]
    · simpa only [Candidate.step, if_neg finished] using extended
    · simp only [Candidate.step, if_neg finished, Option.map_none]

/-- The last checksum byte judges the candidate, and the first one only counts down. -/
theorem follows_checksum {held : List UInt8} {bytesRemaining : Nat}
    (represents : parser.Represents { held, phase := .readingChecksum bytesRemaining })
    (formed : Candidate.WellFormed { held, phase := .readingChecksum bytesRemaining })
    (room : held.length < maxFrameSizeBytes) (byte : UInt8) :
    parser.Follows { held, phase := .readingChecksum bytesRemaining } byte := by
  -- Well-formedness makes the judged candidate long enough for its announced payload.
  have state := represents.phase
  obtain ⟨counter, enough⟩ := formed
  simp only at enough state
  obtain ⟨next, stored, extended⟩ := storeNext_represents represents room byte
  by_cases last : bytesRemaining = 1
  · have kept := payloadLength_append (show 2 ≤ held.length by omega) byte
    obtain ⟨judged, output, finished, verdict⟩ := finishFrame_represents extended (by
      simp only [kept, List.length_append, List.length_singleton]; omega)
    refine ⟨judged, output, ?_, ?_⟩
    · simp only [feedByte, state, stored, if_pos last, finished, Bind.bind, Except.bind]
    · simp only [Candidate.step, if_pos last]
      simp only at verdict
      split
      · rename_i agrees
        rwa [if_pos agrees] at verdict
      · rename_i differs
        rw [if_neg differs] at verdict
        exact ⟨verdict.1, by rw [verdict.2, Option.map_none]⟩
  · have lowered : checkedSub bytesRemaining 1 = .ok (bytesRemaining - 1) := by
      rw [checkedSub, if_pos (by omega)]
    refine ⟨{ next with state := .readingChecksum (bytesRemaining - 1) }, none, ?_, ?_, ?_⟩
    · simp only [feedByte, state, stored, if_neg last, lowered, Bind.bind, Except.bind,
        Pure.pure, Except.pure]
    · simp only [Candidate.step, if_neg last]
      exact ⟨extended.front, extended.position, rfl⟩
    · simp only [Candidate.step, if_neg last, Option.map_none]

/-- One byte moves the parser and its candidate alike while the buffer has room. -/
theorem feedByte_follows (represents : parser.Represents target) (formed : target.WellFormed)
    (room : target.phase = .waitingForStart ∨ target.held.length < maxFrameSizeBytes)
    (byte : UInt8) : parser.Follows target byte := by
  -- Each phase is one of the four branch lemmas.
  obtain ⟨held, phase⟩ := target
  cases phase with
  | waitingForStart => exact follows_waiting represents byte
  | readingHeader => exact follows_header represents (room.resolve_left (by simp)) byte
  | readingPayload expectedLen =>
    exact follows_payload represents (room.resolve_left (by simp)) formed.1 byte
  | readingChecksum bytesRemaining =>
    exact follows_checksum represents formed (room.resolve_left (by simp)) byte

/-- A busy parser whose buffer is full panics on the next byte. -/
theorem feedByte_panics (busy : parser.state ≠ .waitingForStart)
    (full : parser.framePos = maxFrameSizeBytes) (byte : UInt8) :
    parser.feedByte byte = .error (.indexOutOfBounds maxFrameSizeBytes) := by
  -- Every busy state stores the byte before it looks at anything else.
  have stored : parser.storeNext byte = .error (.indexOutOfBounds maxFrameSizeBytes) := by
    simp only [storeNext, full, store_past_end, Bind.bind, Except.bind]
  cases state : parser.state with
  | waitingForStart => exact absurd state busy
  | readingHeader => simp only [feedByte, state, stored, Bind.bind, Except.bind]
  | readingPayload expectedLen => simp only [feedByte, state, stored, Bind.bind, Except.bind]
  | readingChecksum bytesRemaining => simp only [feedByte, state, stored, Bind.bind, Except.bind]

end Simulation

end MavlinkParser

end Veloxity
