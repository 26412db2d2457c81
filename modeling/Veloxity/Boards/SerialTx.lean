import Veloxity.Library.BoundedQueue
import Veloxity.Library.Run

/-! The boards' loop that copies an outgoing frame into a byte pipe while a reader drains it. -/

namespace Veloxity

open Library

universe u

/-- The byte pipe between the firmware and the task that drives the wire. -/
class BytePipe (P : Nat → Type u) where
  new : ∀ capacity, P capacity
  contents : ∀ {capacity}, P capacity → List UInt8
  tryWrite : ∀ {capacity}, P capacity → List UInt8 → Option (Nat × P capacity)
  tryRead : ∀ {capacity}, P capacity → Nat → Option (List UInt8 × P capacity)
  new_contents : ∀ capacity, contents (new capacity) = []
  bounded : ∀ {capacity} (pipe : P capacity), (contents pipe).length ≤ capacity
  /-- Writing fails only into a full pipe. -/
  tryWrite_none : ∀ {capacity} (pipe : P capacity) bytes,
    tryWrite pipe bytes = none ↔ (contents pipe).length = capacity
  /-- Writing appends the first bytes, at least one of them, and says how many. -/
  tryWrite_some : ∀ {capacity} {pipe next : P capacity} {bytes wrote},
    tryWrite pipe bytes = some (wrote, next) →
      contents next = contents pipe ++ bytes.take wrote ∧ wrote ≤ bytes.length ∧
        (bytes ≠ [] → 0 < wrote)
  /-- Reading takes the oldest bytes. -/
  tryRead_some : ∀ {capacity} {pipe next : P capacity} {count bytes},
    tryRead pipe count = some (bytes, next) → contents pipe = bytes ++ contents next

/-- What a failed transfer to the wire reports. -/
inductive TelemError where
  | genericTelemError (message : String)
  deriving DecidableEq, Repr

/-- The board and build whose transmit function is meant. -/
inductive TxTransport where
  | pixRacerProVcp
  | pixRacerProTelem
  | nucleoTelem
  deriving DecidableEq, Repr

namespace TxTransport

/-- The size of the transport's pipe in bytes. -/
def txBuffSize : TxTransport → Nat
  | pixRacerProVcp => 2048
  | pixRacerProTelem | nucleoTelem => 4 * 2048

/-- The error of a write that found the pipe full. -/
def writeError : TxTransport → TelemError
  | pixRacerProVcp => .genericTelemError "Error Writing USB VCP Packet!"
  | pixRacerProTelem | nucleoTelem => .genericTelemError "Error Writing Telem Packet!"

/-- The count a finished write reports, from the frame's length and the bytes of its earlier
passes. -/
def reported : TxTransport → Nat → Nat → Nat
  | pixRacerProVcp, len, _ | pixRacerProTelem, len, _ => len
  -- This board returns its running index, which the last pass does not advance.
  | nucleoTelem, _, n => n

end TxTransport

variable {P : Nat → Type u} [BytePipe P]

/-- What one pass of the write loop does. -/
inductive WritePass (P : Type u) where
  | more (n : Nat) (pipe : P)
  | finished (result : Except TelemError Nat) (pipe : P)

/-- One pass of the loop over the bytes of a frame from its running index on. -/
def writePass (transport : TxTransport) (pipe : P transport.txBuffSize) (bytes : List UInt8)
    (n : Nat) : WritePass (P transport.txBuffSize) :=
  match BytePipe.tryWrite pipe (bytes.drop n) with
  | some (wrote, pipe) =>
    if wrote = bytes.length - n then .finished (.ok (transport.reported bytes.length n)) pipe
    else .more (n + wrote) pipe
  | none => .finished (.error transport.writeError) pipe

/-- A frame on its way into the pipe, with the running index of the loop. -/
structure Writing where
  bytes : List UInt8
  n : Nat
  deriving DecidableEq

/-- A transport between passes: its pipe, the write in progress, what earlier writes returned, and
what was read from the pipe. -/
structure TxLine (P : Nat → Type u) (transport : TxTransport) where
  pipe : P transport.txBuffSize
  writing : Option Writing
  results : List (List UInt8 × Except TelemError Nat)
  read : List UInt8

/-- What happens next at a transport: a frame is handed to `serial_tx_write`, its loop makes a
pass, or the reader takes bytes. -/
inductive TxEvent where
  | write (bytes : List UInt8)
  | pass
  | read (count : Nat)

namespace TxLine

variable {transport : TxTransport}

/-- A transport before its first frame. -/
def new (transport : TxTransport) : TxLine P transport :=
  { pipe := BytePipe.new _, writing := none, results := [], read := [] }

/-- Enter `serial_tx_write` with a frame; the only caller waits for a write in progress. -/
def serialTxWrite (line : TxLine P transport) (bytes : List UInt8) : TxLine P transport :=
  match line.writing with
  | some _ => line
  | none => { line with writing := some ⟨bytes, 0⟩ }

/-- Make a pass of the loop if a write is in progress. -/
def pass (line : TxLine P transport) : TxLine P transport :=
  match line.writing with
  | none => line
  | some ⟨bytes, n⟩ =>
    match writePass transport line.pipe bytes n with
    | .more n pipe => { line with pipe, writing := some ⟨bytes, n⟩ }
    | .finished result pipe =>
      { line with pipe, writing := none, results := line.results ++ [(bytes, result)] }

/-- Take bytes out of the pipe. -/
def tryRead (line : TxLine P transport) (count : Nat) : TxLine P transport :=
  match BytePipe.tryRead line.pipe count with
  | none => line
  | some (bytes, pipe) => { line with pipe, read := line.read ++ bytes }

/-- Let one event happen. -/
def step (line : TxLine P transport) : TxEvent → TxLine P transport
  | .write bytes => line.serialTxWrite bytes
  | .pass => line.pass
  | .read count => line.tryRead count

/-- The bytes that have entered the pipe, in order. -/
def entered (line : TxLine P transport) : List UInt8 := line.read ++ BytePipe.contents line.pipe

/-- The bytes a finished write vouches for: its whole frame or nothing. -/
def acceptedBytes : List UInt8 × Except TelemError Nat → List UInt8
  | (bytes, .ok _) => bytes
  | (_, .error _) => []

/-- The bytes of the frames whose write succeeded, in order. -/
def accepted (line : TxLine P transport) : List UInt8 := line.results.flatMap acceptedBytes

/-- The bytes of the write in progress that have been copied. -/
def copied (line : TxLine P transport) : List UInt8 :=
  match line.writing with
  | none => []
  | some ⟨bytes, n⟩ => bytes.take n

/-- Between writes, exactly the accepted frames have entered the pipe. -/
def AllOrNothing (line : TxLine P transport) : Prop :=
  line.writing = none → line.entered = line.accepted

/-- No loop that has copied part of its frame finds the pipe full again. -/
def FindsRoom (line : TxLine P transport) : TxEvent → Prop
  | .pass => ∀ current ∈ line.writing, current.n ≠ 0 →
      (BytePipe.contents line.pipe).length ≠ transport.txBuffSize
  | .write _ | .read _ => True

/-- What has entered the pipe so far, and how far the write in progress has come. -/
structure Accounted (line : TxLine P transport) : Prop where
  entered : line.entered = line.accepted ++ line.copied
  unfinished : ∀ bytes n, line.writing = some ⟨bytes, n⟩ → n = 0 ∨ n < bytes.length

/-- A new transport has nothing to account for. -/
theorem accounted_new : Accounted (new transport : TxLine P transport) where
  entered := by simp [new, TxLine.entered, accepted, copied, BytePipe.new_contents]
  unfinished := by
    intro bytes n writing
    cases writing

/-- Starting a write copies nothing yet. -/
theorem Accounted.serialTxWrite {line : TxLine P transport} (accounted : line.Accounted)
    (bytes : List UInt8) : (line.serialTxWrite bytes).Accounted := by
  unfold TxLine.serialTxWrite
  cases writing : line.writing with
  | some current => exact accounted
  | none =>
    refine ⟨?_, ?_⟩
    -- The prefix copied by an index of zero is as empty as that of no write at all.
    · have entered := accounted.entered
      rw [copied, writing] at entered
      exact entered
    · intro same n started
      cases started
      exact Or.inl rfl

/-- Reading moves bytes from the pipe to the reader without changing what has entered. -/
theorem entered_tryRead (line : TxLine P transport) (count : Nat) :
    (line.tryRead count).entered = line.entered := by
  unfold tryRead
  cases taken : BytePipe.tryRead line.pipe count with
  | none => rfl
  | some result =>
    rcases result with ⟨bytes, next⟩
    -- The oldest bytes leave the front of the pipe for the end of what was read.
    have oldest := BytePipe.tryRead_some taken
    simp only [entered, oldest, List.append_assoc]

/-- Reading leaves the writes alone. -/
theorem Accounted.tryRead {line : TxLine P transport} (accounted : line.Accounted) (count : Nat) :
    (line.tryRead count).Accounted := by
  -- Reading changes the pipe, and neither the write in progress nor the results.
  have writing : (line.tryRead count).writing = line.writing := by
    unfold TxLine.tryRead
    split <;> rfl
  have results : (line.tryRead count).results = line.results := by
    unfold TxLine.tryRead
    split <;> rfl
  refine ⟨?_, ?_⟩
  · rw [entered_tryRead, accepted, results, copied, writing]
    exact accounted.entered
  · rw [writing]
    exact accounted.unfinished

/-- Between writes there is no pass to make. -/
theorem pass_of_idle {line : TxLine P transport} (idle : line.writing = none) :
    line.pass = line := by
  simp only [pass, idle]

/-- What a pass does to the bytes that have entered, by its three ways to end. -/
theorem pass_cases (line : TxLine P transport) {bytes : List UInt8} {n : Nat}
    (writing : line.writing = some ⟨bytes, n⟩) :
    (∃ wrote, wrote < bytes.length - n ∧ 0 < wrote ∧
        line.pass.writing = some ⟨bytes, n + wrote⟩ ∧ line.pass.results = line.results ∧
        line.pass.entered = line.entered ++ (bytes.drop n).take wrote ∧
        (BytePipe.contents line.pipe).length ≠ transport.txBuffSize) ∨
      (line.pass.writing = none ∧
        line.pass.results =
          line.results ++ [(bytes, .ok (transport.reported bytes.length n))] ∧
        line.pass.entered = line.entered ++ bytes.drop n ∧
        (BytePipe.contents line.pipe).length ≠ transport.txBuffSize) ∨
      (line.pass.writing = none ∧
        line.pass.results = line.results ++ [(bytes, .error transport.writeError)] ∧
        line.pass.entered = line.entered ∧
        (BytePipe.contents line.pipe).length = transport.txBuffSize) := by
  simp only [pass, writing, writePass]
  cases written : BytePipe.tryWrite line.pipe (bytes.drop n) with
  | none =>
    -- A pipe that takes nothing is full, and the write ends with an error.
    have full := (BytePipe.tryWrite_none line.pipe (bytes.drop n)).mp written
    exact Or.inr (Or.inr ⟨rfl, rfl, rfl, full⟩)
  | some result =>
    rcases result with ⟨wrote, next⟩
    obtain ⟨appended, within, progress⟩ := BytePipe.tryWrite_some written
    have room : (BytePipe.contents line.pipe).length ≠ transport.txBuffSize := by
      intro full
      rw [(BytePipe.tryWrite_none line.pipe (bytes.drop n)).mpr full] at written
      cases written
    rw [List.length_drop] at within
    by_cases last : wrote = bytes.length - n
    · right
      left
      simp only [last, if_pos]
      refine ⟨trivial, trivial, ?_, room⟩
      -- The last pass takes all that is left of the frame.
      have whole : (bytes.drop n).take wrote = bytes.drop n := by
        apply List.take_of_length_le
        rw [List.length_drop]
        omega
      simp only [entered, appended, whole, List.append_assoc]
    · -- A short write leaves the rest of the frame for the next pass.
      left
      refine ⟨wrote, by omega, ?_, ?_⟩
      · apply progress
        intro nothing
        have short := congrArg List.length nothing
        rw [List.length_drop, List.length_nil] at short
        omega
      · simp only [if_neg last]
        refine ⟨trivial, trivial, ?_, room⟩
        simp only [entered, appended, List.append_assoc]

omit [BytePipe P] in
/-- A finished write adds to the accepted bytes what it vouches for. -/
theorem accepted_append {line next : TxLine P transport}
    {write : List UInt8 × Except TelemError Nat}
    (results : next.results = line.results ++ [write]) :
    next.accepted = line.accepted ++ acceptedBytes write := by
  rw [accepted, results, List.flatMap_append, List.flatMap_singleton, accepted]

omit [BytePipe P] in
/-- Nothing is in progress between writes. -/
theorem copied_of_idle {line : TxLine P transport} (idle : line.writing = none) :
    line.copied = [] := by
  rw [copied, idle]

omit [BytePipe P] in
/-- The running index marks what a write in progress has copied. -/
theorem copied_of_writing {line : TxLine P transport} {bytes : List UInt8} {n : Nat}
    (writing : line.writing = some ⟨bytes, n⟩) : line.copied = bytes.take n := by
  rw [copied, writing]

/-- A pass keeps the account unless it abandons a frame it has begun to copy. -/
theorem Accounted.pass {line : TxLine P transport} (accounted : line.Accounted)
    (room : line.FindsRoom .pass) : line.pass.Accounted := by
  cases writing : line.writing with
  | none =>
    rw [pass_of_idle writing]
    exact accounted
  | some current =>
    rcases current with ⟨bytes, n⟩
    have before := accounted.entered
    rw [copied_of_writing writing] at before
    obtain ⟨wrote, short, progress, going, same, grown, _⟩ | ⟨ended, results, grown, _⟩ |
      ⟨ended, results, same, full⟩ := line.pass_cases writing
    · refine ⟨?_, ?_⟩
      -- The copied prefix grows by what this pass wrote.
      · have unchanged : line.pass.accepted = line.accepted := by
          rw [accepted, same, accepted]
        rw [grown, before, unchanged, copied_of_writing going, List.append_assoc, List.take_add]
      · intro others index next
        rw [going] at next
        cases next
        right
        omega
    · refine ⟨?_, ?_⟩
      -- The prefix and the rest are the whole frame.
      · rw [grown, before, accepted_append results, copied_of_idle ended, List.append_nil,
          List.append_assoc, List.take_append_drop, acceptedBytes]
      · intro others index next
        rw [ended] at next
        cases next
    · have unbegun : n = 0 := by
        by_contra begun
        exact room _ writing begun full
      refine ⟨?_, ?_⟩
      · rw [same, before, accepted_append results, copied_of_idle ended, unbegun, acceptedBytes,
          List.take_zero, List.append_nil, List.append_nil]
      · intro others index next
        rw [ended] at next
        cases next

/-- Every step keeps the account unless it abandons a frame it has begun to copy. -/
theorem Accounted.step {line : TxLine P transport} (accounted : line.Accounted) {event : TxEvent}
    (room : line.FindsRoom event) : (line.step event).Accounted := by
  cases event with
  | write bytes => exact accounted.serialTxWrite bytes
  | pass => exact accounted.pass room
  | read count => exact accounted.tryRead count

/-- An accounted transport between writes has let in exactly the accepted frames. -/
theorem Accounted.allOrNothing {line : TxLine P transport} (accounted : line.Accounted) :
    line.AllOrNothing := by
  intro idle
  have entered := accounted.entered
  -- Between writes no frame is copied in part.
  rw [copied, idle, List.append_nil] at entered
  exact entered

/-- A loop that abandons a frame it has begun to copy leaves the copied part in the pipe. -/
theorem Accounted.findsRoom_of_allOrNothing {line : TxLine P transport}
    (accounted : line.Accounted) {event : TxEvent} (whole : (line.step event).AllOrNothing) :
    line.FindsRoom event := by
  cases event with
  | write bytes => trivial
  | read count => trivial
  | pass =>
    rintro ⟨bytes, n⟩ writing begun full
    have positive : 0 < n := Nat.pos_of_ne_zero begun
    have before := accounted.entered
    rw [copied_of_writing writing] at before
    obtain ⟨_, _, _, _, _, _, room⟩ | ⟨_, _, _, room⟩ | ⟨ended, results, same, _⟩ :=
      line.pass_cases writing
    · exact room full
    · exact room full
    · have exactly := whole ended
      -- The copied part is not empty, yet no accepted frame holds it.
      have lengths := congrArg List.length exactly
      have unfinished := accounted.unfinished bytes n writing
      rw [TxLine.step, same, before, accepted_append results, acceptedBytes, List.append_nil,
        List.length_append, List.length_take] at lengths
      omega

/-- The bytes of the write in progress that are still to be copied. -/
def remaining (line : TxLine P transport) : Nat :=
  match line.writing with
  | none => 0
  | some ⟨bytes, n⟩ => bytes.length - n

/-- A pass ends the write in progress or leaves fewer bytes to copy. -/
theorem pass_progress (line : TxLine P transport) :
    line.pass.writing = none ∨ line.pass.remaining < line.remaining := by
  -- A pass copies some bytes, or ends the write by success or by giving up.
  cases writing : line.writing with
  | none =>
    left
    rw [pass_of_idle writing]
    exact writing
  | some current =>
    rcases current with ⟨bytes, n⟩
    obtain ⟨wrote, short, progress, going, _⟩ | ⟨ended, _⟩ | ⟨ended, _⟩ := line.pass_cases writing
    · right
      simp only [remaining, going, writing]
      omega
    · exact Or.inl ended
    · exact Or.inl ended

/-- A transport between writes ignores further passes. -/
theorem idle_along_passes {line : TxLine P transport} (passes : Nat) (idle : line.writing = none) :
    (run step line (List.replicate passes .pass)).writing = none := by
  -- Each pass finds the transport as idle as the one before it.
  induction passes with
  | zero => exact idle
  | succ passes ih =>
    rw [List.replicate_succ, run_cons, step, pass_of_idle idle]
    exact ih

/-- The loop ends: as many passes as bytes are left, and one more, finish the write. -/
theorem idle_after_passes (line : TxLine P transport) (passes : Nat)
    (enough : line.remaining < passes) :
    (run step line (List.replicate passes .pass)).writing = none := by
  -- Each pass either ends the write or copies a byte, so the bound falls with the passes.
  induction passes generalizing line with
  | zero => omega
  | succ passes ih =>
    rw [List.replicate_succ, run_cons]
    rcases line.pass_progress with ended | fewer
    · exact idle_along_passes passes ended
    · apply ih
      rw [step]
      omega

/-- Along every run of writes, loop passes and reads on either board, exactly the frames whose
write succeeded have entered the pipe whenever no write is in progress, if and only if no loop
finds the pipe full with part of its frame already copied; and every loop ends within one pass more
than it has bytes left to copy. -/
theorem allOrNothing_iff (transport : TxTransport) (events : List TxEvent) :
    (Along (fun line event => (line.step event).AllOrNothing) step
        (new transport : TxLine P transport) events ↔
      Along FindsRoom step (new transport : TxLine P transport) events) ∧
      ∀ passes, (run step (new transport : TxLine P transport) events).remaining < passes →
        (run step (new transport : TxLine P transport)
          (events ++ List.replicate passes .pass)).writing = none := by
  refine ⟨?_, fun passes enough => by rw [run_append]; exact idle_after_passes _ passes enough⟩
  symm
  -- A step that keeps the account leaves an accounted transport for the next one.
  apply along_congr_while Accounted ?_ ?_ accounted_new
  · intro line event accounted room
    exact accounted.step room
  · intro line event accounted
    constructor
    · intro room
      exact (accounted.step room).allOrNothing
    · exact accounted.findsRoom_of_allOrNothing

end TxLine

/-- A pipe that copies as many bytes as fit and fails only when it is full. -/
abbrev CopyingPipe (capacity : Nat) := BoundedQueue capacity UInt8

/-- As many bytes as there is room for leave a pipe within its capacity. -/
theorem length_filled {capacity : Nat} (pipe : CopyingPipe capacity) (bytes : List UInt8) :
    (pipe.items ++ bytes.take (capacity - pipe.items.length)).length ≤ capacity := by
  have bounded := pipe.bounded
  rw [List.length_append, List.length_take]
  omega

/-- Bytes that leave a pipe leave it within its capacity. -/
theorem length_drained {capacity : Nat} (pipe : CopyingPipe capacity) (count : Nat) :
    (pipe.items.drop count).length ≤ capacity := by
  have bounded := pipe.bounded
  rw [List.length_drop]
  omega

/-- Copy as many bytes as fit, or fail. -/
def copyingWrite {capacity : Nat} (pipe : CopyingPipe capacity) (bytes : List UInt8) :
    Option (Nat × CopyingPipe capacity) :=
  if pipe.isFull then none
  else
    let room := capacity - pipe.items.length
    some (min bytes.length room, ⟨pipe.items ++ bytes.take room, length_filled pipe bytes⟩)

/-- Take the oldest bytes, or fail. -/
def copyingRead {capacity : Nat} (pipe : CopyingPipe capacity) (count : Nat) :
    Option (List UInt8 × CopyingPipe capacity) :=
  if pipe.isEmpty then none
  else some (pipe.items.take count, ⟨pipe.items.drop count, length_drained pipe count⟩)

/-- Writing fails only into a full queue. -/
theorem copyingWrite_none {capacity : Nat} (pipe : CopyingPipe capacity) (bytes : List UInt8) :
    copyingWrite pipe bytes = none ↔ pipe.items.length = capacity := by
  simp [copyingWrite, BoundedQueue.isFull]

/-- Writing appends the first bytes, at least one of them, and says how many. -/
theorem copyingWrite_some {capacity : Nat} {pipe next : CopyingPipe capacity}
    {bytes : List UInt8} {wrote : Nat} (written : copyingWrite pipe bytes = some (wrote, next)) :
    next.items = pipe.items ++ bytes.take wrote ∧ wrote ≤ bytes.length ∧
      (bytes ≠ [] → 0 < wrote) := by
  have bounded := pipe.bounded
  simp only [copyingWrite, BoundedQueue.isFull, decide_eq_true_eq] at written
  -- A full pipe takes nothing, and any other as much as fits.
  split at written
  · cases written
  · rename_i room
    cases written
    refine ⟨?_, Nat.min_le_left _ _, ?_⟩
    · have same : bytes.take (capacity - pipe.items.length) =
          bytes.take (min bytes.length (capacity - pipe.items.length)) := by
        apply List.take_eq_take_iff.mpr
        omega
      exact congrArg (pipe.items ++ ·) same
    · intro some
      have positive := List.length_pos_of_ne_nil some
      omega

/-- Reading takes the oldest bytes. -/
theorem copyingRead_some {capacity : Nat} {pipe next : CopyingPipe capacity} {count : Nat}
    {bytes : List UInt8} (taken : copyingRead pipe count = some (bytes, next)) :
    pipe.items = bytes ++ next.items := by
  rw [copyingRead] at taken
  -- An empty pipe gives nothing.
  split at taken
  · cases taken
  · cases taken
    exact (List.take_append_drop count pipe.items).symm

/-- A new queue holds no bytes. -/
theorem items_newPipe (capacity : Nat) :
    (BoundedQueue.empty : CopyingPipe capacity).items = [] := rfl

/-- The laws of a byte pipe hold of the bounded queue of bytes. -/
instance : BytePipe CopyingPipe where
  new _ := BoundedQueue.empty
  contents := BoundedQueue.items
  tryWrite := copyingWrite
  tryRead := copyingRead
  new_contents := items_newPipe
  bounded := BoundedQueue.bounded
  tryWrite_none := copyingWrite_none
  tryWrite_some := copyingWrite_some
  tryRead_some := copyingRead_some

namespace TxLine

/-- Whether exactly the accepted frames have entered is decided by comparing the bytes. -/
instance {transport : TxTransport} (line : TxLine CopyingPipe transport) :
    Decidable line.AllOrNothing :=
  inferInstanceAs (Decidable (line.writing = none → line.entered = line.accepted))

/-- Whether a pass would abandon a frame it has begun is decided by the state before it. -/
instance {transport : TxTransport} (line : TxLine CopyingPipe transport) :
    ∀ event, Decidable (line.FindsRoom event)
  | .pass => inferInstanceAs (Decidable (∀ current ∈ line.writing, current.n ≠ 0 →
      (BytePipe.contents line.pipe).length ≠ transport.txBuffSize))
  | .write _ | .read _ => inferInstanceAs (Decidable True)

/-- A status text on the wire: six header bytes, a payload of fifty-one, two check bytes. -/
def statusTextFrame : List UInt8 :=
  [0xFE, 51, 0, 1, 250, 253] ++ List.replicate 51 0x41 ++ [0x12, 0x34]

/-- A frame whose reader keeps up enters whole before the next one. -/
theorem pacedFrames_enter_whole :
    Along (fun line event => (line.step event).AllOrNothing) step
      (new .nucleoTelem : TxLine CopyingPipe .nucleoTelem)
      [.write statusTextFrame, .pass, .read 64, .write statusTextFrame, .pass] := by
  -- Neither loop makes a second pass.
  apply (allOrNothing_iff .nucleoTelem _).1.mpr
  decide +kernel

/-- The thirty-fifth status text in a row finds room for forty-two of its bytes in the USB pipe,
is reported as failed, and stays there in part. -/
theorem statusTextBurst_truncated :
    ¬ Along (fun line event => (line.step event).AllOrNothing) step
      (new .pixRacerProVcp : TxLine CopyingPipe .pixRacerProVcp)
      ((List.replicate 35 [.write statusTextFrame, .pass]).flatten ++ [.pass]) := by
  intro lawful
  -- The last pass finds the pipe full with the frame begun.
  have last := along_iff_split.mp lawful _ .pass [] rfl
  revert last
  decide +kernel

end TxLine

end Veloxity
