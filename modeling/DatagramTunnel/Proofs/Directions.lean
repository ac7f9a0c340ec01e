import DatagramTunnel.Proofs.Sides
import Mathlib.Control.Monad.Basic

/-!
# The two directions of a stream

`Stream.call` makes any call on a stream: a read, a write, a shutdown or a split. What such calls do
to the read side is what the reads among them do to it alone, as long as no shutdown finds both
directions in one hand (`readSteps_runAll`); and what they do to the write side is what the writes
do to it (`writeSteps_runAll`). `directions_do_not_interfere` puts the two together, and says that a
split may come between any two calls.
-/

namespace DatagramTunnel

/-! ## Calls of all kinds -/

/-- A call on a stream, or on a half of it. -/
inductive StreamCall where
  | read (c : ReadCall)
  /-- A write or a shutdown. -/
  | write (c : WriteCall)
  | split
  deriving DecidableEq

deriving instance DecidableEq for Stream.ReadReply

/-- The reply to a call on a stream. -/
inductive StreamReply where
  | read (reply : Stream.ReadReply)
  | write (answer : Option WriteAnswer)
  | split
  deriving DecidableEq

namespace StreamCall

/-- The read that a call makes, if it is one. -/
def read? : StreamCall → Option ReadCall
  | .read c => some c
  | _ => none

/-- The write or shutdown that a call makes, if it is one. -/
def write? : StreamCall → Option WriteCall
  | .write c => some c
  | _ => none

/-- Whether a call is there to bring a packet over: a read or a write. -/
def transfers : StreamCall → Bool
  | .read _ | .write (.write _ _) => true
  | .write (.shutdown _) | .split => false

/-- Whether a call is a shutdown. -/
def shutsDown : StreamCall → Bool
  | .write (.shutdown _) => true
  | _ => false

/-- A call that brings a packet over shuts nothing down. -/
theorem shutsDown_of_transfers {c : StreamCall} (h : c.transfers = true) : c.shutsDown = false := by
  cases c with
  | read c => rfl
  | write c => cases c <;> first | rfl | simp [transfers] at h
  | split => rfl

end StreamCall

/-- The read of a step, with its reply. -/
def readStep? : StreamCall × StreamReply → Option (ReadCall × Stream.ReadReply)
  | (.read c, .read reply) => some (c, reply)
  | _ => none

/-- The write or shutdown of a step, with its answer. -/
def writeStep? : StreamCall × StreamReply → Option (WriteCall × Option WriteAnswer)
  | (.write c, .write answer) => some (c, answer)
  | _ => none

/-- The reads among some steps. -/
def readSteps (steps : List (StreamCall × StreamReply)) : List (ReadCall × Stream.ReadReply) :=
  steps.filterMap readStep?

/-- The writes and shutdowns among some steps. -/
def writeSteps (steps : List (StreamCall × StreamReply)) :
    List (WriteCall × Option WriteAnswer) :=
  steps.filterMap writeStep?

@[simp] theorem readSteps_append (first second : List (StreamCall × StreamReply)) :
    readSteps (first ++ second) = readSteps first ++ readSteps second := List.filterMap_append

@[simp] theorem writeSteps_append (first second : List (StreamCall × StreamReply)) :
    writeSteps (first ++ second) = writeSteps first ++ writeSteps second := List.filterMap_append

/-- A step that is no read adds nothing to the reads. -/
theorem readSteps_concat {c : StreamCall} (other : c.read? = none)
    (steps : List (StreamCall × StreamReply)) (reply : StreamReply) :
    readSteps (steps ++ [(c, reply)]) = readSteps steps := by
  have nothing : readStep? (c, reply) = none := by
    cases c <;> simp_all [StreamCall.read?, readStep?]
  rw [readSteps_append, readSteps, readSteps, List.filterMap_cons_none nothing, List.filterMap_nil,
    List.append_nil]

/-- A step that is neither a write nor a shutdown adds nothing to these. -/
theorem writeSteps_concat {c : StreamCall} (other : c.write? = none)
    (steps : List (StreamCall × StreamReply)) (reply : StreamReply) :
    writeSteps (steps ++ [(c, reply)]) = writeSteps steps := by
  have nothing : writeStep? (c, reply) = none := by
    cases c <;> simp_all [StreamCall.write?, writeStep?]
  rw [writeSteps_append, writeSteps, writeSteps, List.filterMap_cons_none nothing,
    List.filterMap_nil, List.append_nil]

namespace Stream

/-- Makes a call on a stream. -/
def call (c : StreamCall) (s : Stream) : StreamReply × Stream :=
  match c with
  | .read c =>
    let (reply, s) := s.readCall c
    (.read reply, s)
  | .write c =>
    let (answer, s) := s.writeCall c
    (.write answer, s)
  | .split => (.split, s.split.2)

end Stream

/-! ## What a call leaves alone -/

namespace Ends

/-- Whether the two sides may be in two hands. -/
def isSplit : Ends → Bool
  | halves _ _ => true
  | whole _ _ | dropped => false

@[simp] theorem reader?_setWriter (ends : Ends) (writer : Writer) :
    (ends.setWriter writer).reader? = ends.reader? := by
  cases ends <;> rfl

@[simp] theorem writer?_setReader (ends : Ends) (reader : Reader) :
    (ends.setReader reader).writer? = ends.writer? := by
  cases ends <;> rfl

@[simp] theorem isSplit_setReader (ends : Ends) (reader : Reader) :
    (ends.setReader reader).isSplit = ends.isSplit := by
  cases ends <;> rfl

@[simp] theorem isSplit_setWriter (ends : Ends) (writer : Writer) :
    (ends.setWriter writer).isSplit = ends.isSplit := by
  cases ends <;> rfl

/-- Only of a stream that is not split is the reader closed. -/
theorem closeWhole_of_isSplit {ends : Ends} (split : ends.isSplit = true) :
    ends.closeWhole = ends := by
  cases ends with
  | whole reader writer => simp [isSplit] at split
  | halves reader writer => rfl
  | dropped => rfl

/-- A reader that is closed is not closed again. -/
theorem closeWhole_of_closed {ends : Ends} {reader : Reader}
    (has_reader : ends.reader? = some reader) (closed : reader.closed = true) :
    ends.closeWhole = ends := by
  cases ends with
  | whole reader' writer =>
    obtain rfl : reader' = reader := Option.some.inj has_reader
    rw [closeWhole, ← closed]
  | halves reader writer => rfl
  | dropped => rfl

end Ends

namespace Stream

variable {s : Stream} {t : ReadSide} {u : WriteSide} {announcement : Note}

/-- Splitting is over at once, and changes neither side. -/
theorem split_keeps (s : Stream) : s.split.2.ends.reader? = s.ends.reader? ∧
    s.split.2.ends.writer? = s.ends.writer? ∧ s.split.2.transport = s.transport := by
  unfold split
  split
  · next reader writer whole => simp [whole, Ends.reader?, Ends.writer?]
  · exact ⟨rfl, rfl, rfl⟩

/-- A split leaves the read side alone. -/
theorem HasReadSide.split (side : s.HasReadSide t) : s.split.2.HasReadSide t := by
  obtain ⟨reader, -, transport⟩ := s.split_keeps
  exact ⟨reader.trans side.reader, (congrArg _ transport).trans side.inlet⟩

/-- A split leaves the write side alone, though a shutdown would note down something else. -/
theorem HasWriteSide.split (side : s.HasWriteSide announcement u) :
    s.split.2.HasWriteSide s.split.2.shutdownNote u := by
  obtain ⟨-, writer, transport⟩ := s.split_keeps
  exact ⟨writer.trans side.writer, (congrArg _ transport).trans side.outlet, rfl⟩

/-- Work on the write side leaves the read side alone. -/
theorem HasReadSide.withWriting (side : s.HasReadSide t) (w : Writing) :
    (s.withWriting w).HasReadSide t :=
  ⟨(Ends.reader?_setWriter s.ends w.writer).trans side.reader, side.inlet⟩

/-- A write leaves the read side alone, and so does a shutdown of a write half, or of a stream whose
reader is closed. -/
theorem HasReadSide.writeCall (side : s.HasReadSide t) {c : WriteCall}
    (apart : (StreamCall.write c).shutsDown = true →
      s.ends.isSplit = true ∨ t.reader.closed = true) :
    (s.writeCall c).2.HasReadSide t := by
  cases c with
  | write payload polls =>
    simp only [Stream.writeCall, Stream.write]
    split
    · exact side
    · exact side.withWriting _
  | shutdown polls =>
    -- Of all calls on the write side, only an answered shutdown of a whole stream touches the
    -- reader.
    have unchanged (w : Writing) :
        (s.withWriting w).ends.closeWhole = (s.withWriting w).ends := by
      rcases apart rfl with split | closed
      · exact Ends.closeWhole_of_isSplit ((Ends.isSplit_setWriter s.ends w.writer).trans split)
      · exact Ends.closeWhole_of_closed (side.withWriting w).reader closed
    simp only [Stream.writeCall, Stream.shutdown, unchanged]
    split
    · exact side
    · split <;> exact side.withWriting _

/-- A read leaves the write side alone. -/
theorem HasWriteSide.readCall (side : s.HasWriteSide announcement u) (c : ReadCall) :
    (s.readCall c).2.HasWriteSide announcement u := by
  simp only [Stream.readCall, Stream.read]
  split
  · exact side
  · refine ⟨(Ends.writer?_setReader s.ends _).trans side.writer, side.outlet, ?_⟩
    rw [← side.note]
    simp only [shutdownNote]
    cases s.ends <;> rfl

/-- A call on a split stream leaves it split. -/
theorem isSplit_call (split : s.ends.isSplit = true) (c : StreamCall) :
    (s.call c).2.ends.isSplit = true := by
  cases c with
  | read c =>
    simp only [Stream.call, Stream.readCall, Stream.read]
    split
    · exact split
    · exact (Ends.isSplit_setReader s.ends _).trans split
  | write c =>
    have still (w : Writing) : (s.withWriting w).ends.isSplit = true :=
      (Ends.isSplit_setWriter s.ends w.writer).trans split
    cases c with
    | write payload polls =>
      simp only [Stream.call, Stream.writeCall, Stream.write]
      split
      · exact split
      · exact still _
    | shutdown polls =>
      simp only [Stream.call, Stream.writeCall, Stream.shutdown,
        fun w => Ends.closeWhole_of_isSplit (still w)]
      split
      · exact split
      · split <;> exact still _
  | split =>
    have nothing : s.split.2 = s := by
      unfold Stream.split
      split
      · next reader writer whole => simp [whole, Ends.isSplit] at split
      · rfl
    rw [Stream.call, nothing]
    exact split

/-! ## A run, seen from either side -/

/-- **The read side of a run** is the run of the reads on it, unless a shutdown finds both
directions in one hand. -/
theorem readSteps_runAll {calls : List StreamCall}
    (apart : s.ends.isSplit = true ∨ ∀ c ∈ calls, c.shutsDown = false) (side : s.HasReadSide t) :
    let reads := runAll ReadSide.call (calls.filterMap StreamCall.read?) t
    readSteps (runAll call calls s).1 = reads.1 ∧ (runAll call calls s).2.HasReadSide reads.2 := by
  -- A split stream stays split, so that the case that holds at the start holds all along.
  let R (s : Stream) (t : ReadSide) : Prop :=
    s.HasReadSide t ∧ (s.ends.isSplit = true ∨ ∀ c ∈ calls, c.shutsDown = false)
  have still {s : Stream} {t : ReadSide} (related : R s t) (c : StreamCall) :
      (s.call c).2.ends.isSplit = true ∨ ∀ c ∈ calls, c.shutsDown = false :=
    related.2.imp_left fun split => isSplit_call split c
  have seen : ∀ c ∈ calls, ∀ c', c.read? = some c' → ∀ s t, R s t →
      readStep? (c, (s.call c).1) = some (c', (t.call c').1) ∧ R (s.call c).2 (t.call c').2 := by
    intro c _ c' concerned s t related
    obtain rfl : c = .read c' := by cases c <;> simp_all [StreamCall.read?]
    obtain ⟨reply, side'⟩ := readCall_side c' s t related.1
    exact ⟨congrArg (fun reply => some (c', reply)) reply, side', still related _⟩
  have unseen : ∀ c ∈ calls, c.read? = none → ∀ s t, R s t →
      readStep? (c, (s.call c).1) = none ∧ R (s.call c).2 t := by
    intro c mem unconcerned s t related
    cases c with
    | read c => simp [StreamCall.read?] at unconcerned
    | write c =>
      have allowed (shutsDown : (StreamCall.write c).shutsDown = true) : s.ends.isSplit = true :=
        related.2.resolve_right fun none => by simp [none _ mem] at shutsDown
      exact ⟨rfl, related.1.writeCall fun h => Or.inl (allowed h), still related _⟩
    | split => exact ⟨rfl, related.1.split, still related _⟩
  obtain ⟨replies, side', -⟩ := runAll_side seen unseen ⟨side, apart⟩
  exact ⟨replies, side'⟩

/-- **The write side of a run** without a shutdown is the run of the writes on it. -/
theorem writeSteps_runAll {calls : List StreamCall} (still : ∀ c ∈ calls, c.shutsDown = false)
    (side : s.HasWriteSide announcement u) :
    let writes := runAll (WriteSide.call announcement) (calls.filterMap StreamCall.write?) u
    writeSteps (runAll call calls s).1 = writes.1 ∧
      ∃ note, (runAll call calls s).2.HasWriteSide note writes.2 := by
  -- A split changes what a shutdown would note down.
  let R (s : Stream) (u : WriteSide) : Prop := ∃ note, s.HasWriteSide note u
  have seen : ∀ c ∈ calls, ∀ c', c.write? = some c' → ∀ s u, R s u →
      writeStep? (c, (s.call c).1) = some (c', (u.call announcement c').1) ∧
        R (s.call c).2 (u.call announcement c').2 := by
    rintro c mem c' concerned s u ⟨note, side⟩
    obtain rfl : c = .write c' := by cases c <;> simp_all [StreamCall.write?]
    cases c' with
    | write payload polls =>
      obtain ⟨answer, side'⟩ := writeCall_side note (.write payload polls) s u side
      exact ⟨congrArg (fun answer => some (_, answer)) answer, note, side'⟩
    | shutdown polls => exact absurd (still _ mem) (by simp [StreamCall.shutsDown])
  have unseen : ∀ c ∈ calls, c.write? = none → ∀ s u, R s u →
      writeStep? (c, (s.call c).1) = none ∧ R (s.call c).2 u := by
    rintro c - unconcerned s u ⟨note, side⟩
    cases c with
    | read c => exact ⟨rfl, note, side.readCall c⟩
    | write c => simp [StreamCall.write?] at unconcerned
    | split => exact ⟨rfl, _, side.split⟩
  exact runAll_side seen unseen ⟨_, side⟩

/-- **The induction over the writes of a run**, shutdowns among them: what every call on the write
side keeps, whatever a shutdown would note down, is kept by any calls on the stream. -/
theorem writeSide_runAll {P : List (WriteCall × Option WriteAnswer) → WriteSide → Prop}
    (step : ∀ done u announcement c, P done u →
      P (done ++ [(c, (u.call announcement c).1)]) (u.call announcement c).2)
    (calls : List StreamCall) (side : s.HasWriteSide announcement u) (h : P [] u) :
    ∃ note u', (runAll call calls s).2.HasWriteSide note u' ∧
      P (writeSteps (runAll call calls s).1) u' := by
  refine runAll_induction
    (P := fun done (s : Stream) => ∃ note u, s.HasWriteSide note u ∧ P (writeSteps done) u) ?_ calls
    ⟨_, u, side, h⟩
  rintro done s c ⟨note, u, side, h⟩
  cases c with
  | read c =>
    refine ⟨note, u, side.readCall c, ?_⟩
    rwa [writeSteps_concat rfl]
  | write c =>
    -- The note may have changed since the start, which is why `step` is for every announcement.
    obtain ⟨answer, side'⟩ := writeCall_side note c s u side
    refine ⟨note, _, side', ?_⟩
    have last : writeSteps [(.write c, (s.call (.write c)).1)] = [(c, (s.writeCall c).1)] := rfl
    rw [writeSteps_append, last, answer]
    exact step _ u note c h
  | split =>
    refine ⟨_, u, side.split, ?_⟩
    rwa [writeSteps_concat rfl]

/-! ## Splitting -/

/-- A read or a write may as well come before a split as after it. -/
theorem call_split {c : StreamCall} (transfers : c.transfers = true) (s : Stream) :
    s.split.2.call c = ((s.call c).1, (s.call c).2.split.2) := by
  obtain ⟨target, ends, transport, log⟩ := s
  cases c with
  | read c => rcases ends with ⟨reader, writer⟩ | ⟨_ | reader, writer⟩ | _ <;> rfl
  | write c =>
    cases c with
    | write payload polls => rcases ends with ⟨reader, writer⟩ | ⟨reader, _ | writer⟩ | _ <;> rfl
    | shutdown polls => simp [StreamCall.transfers] at transfers
  | split => simp [StreamCall.transfers] at transfers

/-- Reads and writes may as well come before a split as after it. -/
theorem runAll_split {calls : List StreamCall} (transfers : ∀ c ∈ calls, c.transfers = true)
    (s : Stream) :
    runAll call calls s.split.2 = ((runAll call calls s).1, (runAll call calls s).2.split.2) := by
  -- The split moves one call to the right at each step.
  induction calls generalizing s with
  | nil => rfl
  | cons c calls ih =>
    have first := call_split (transfers c List.mem_cons_self) s
    have later := ih (fun d mem => transfers d (List.mem_cons_of_mem c mem)) (s.call c).2
    simp only [runAll_cons, first, later]

/-- A stream of which somebody reads can be split, or is already. -/
theorem isSplit_split (side : s.HasReadSide t) : s.split.2.ends.isSplit = true := by
  obtain ⟨reader, -⟩ := side
  unfold Stream.split
  split
  · rfl
  · next not_whole =>
    cases ends : s.ends with
    | whole reader writer => exact absurd ends (not_whole reader writer)
    | halves reader writer => rfl
    | dropped => simp [ends, Ends.reader?] at reader

end Stream

/-- **Reading and writing do not interfere.** Take a stream, split or not, whose two directions are
both in use, and any reads and writes on it, in any order, each of which may be dropped after any
number of polls.

The reads have the replies, and leave the reader and the inlet behind, that they would without the
writes; and the writes have the answers, and leave the writer and the outlet behind, that they would
without the reads. So whatever breaks one direction, the other does not notice.

A split may come between any two of these calls: every other call has the same reply, and the
transport is the same in the end. What is called for after a split may also be shutdowns, and the
reads are still what they would be alone. -/
theorem directions_do_not_interfere {s : Stream} {reader : Reader} {writer : Writer}
    (has_reader : s.ends.reader? = some reader) (has_writer : s.ends.writer? = some writer)
    (before after : List StreamCall) (transfers : ∀ c ∈ before ++ after, c.transfers = true) :
    let run := runAll Stream.call (before ++ after) s
    let reads := runAll ReadSide.call ((before ++ after).filterMap StreamCall.read?)
      ⟨reader, s.transport.inlet⟩
    let writes := runAll (WriteSide.call s.shutdownNote)
      ((before ++ after).filterMap StreamCall.write?) ⟨writer, s.transport.outlet⟩
    let splitRun := runAll Stream.call (before ++ .split :: after) s
    (readSteps run.1 = reads.1 ∧ run.2.ends.reader? = some reads.2.reader ∧
      run.2.transport.inlet = reads.2.inlet) ∧
    (writeSteps run.1 = writes.1 ∧ run.2.ends.writer? = some writes.2.writer ∧
      run.2.transport.outlet = writes.2.outlet) ∧
    (splitRun.1.filter (fun step => step.1.transfers) = run.1 ∧ splitRun.2 = run.2.split.2 ∧
      splitRun.2.transport = run.2.transport) ∧
    ∀ later : List StreamCall,
      let halves := runAll Stream.call (before ++ .split :: later) s
      let reads := runAll ReadSide.call ((before ++ later).filterMap StreamCall.read?)
        ⟨reader, s.transport.inlet⟩
      readSteps halves.1 = reads.1 ∧ halves.2.ends.reader? = some reads.2.reader ∧
        halves.2.transport.inlet = reads.2.inlet := by
  intro run reads writes splitRun
  have readSide : s.HasReadSide ⟨reader, s.transport.inlet⟩ := ⟨has_reader, rfl⟩
  have writeSide : s.HasWriteSide s.shutdownNote ⟨writer, s.transport.outlet⟩ :=
    ⟨has_writer, rfl, rfl⟩
  have still : ∀ c ∈ before ++ after, c.shutsDown = false :=
    fun c mem => StreamCall.shutsDown_of_transfers (transfers c mem)
  have before_still : ∀ c ∈ before, c.shutsDown = false :=
    fun c mem => still c (List.mem_append_left after mem)
  have after_transfers : ∀ c ∈ after, c.transfers = true :=
    fun c mem => transfers c (List.mem_append_right before mem)
  obtain ⟨read_replies, read_side⟩ := Stream.readSteps_runAll (Or.inr still) readSide
  obtain ⟨write_answers, _, write_side⟩ := Stream.writeSteps_runAll still writeSide
  have run_eq : run = runAll Stream.call (before ++ after) s := rfl
  have splitRun_eq : splitRun = runAll Stream.call (before ++ .split :: after) s := rfl
  rw [runAll_append] at run_eq
  rw [runAll_append, runAll_cons, Stream.call, Stream.runAll_split after_transfers] at splitRun_eq
  refine ⟨⟨read_replies, read_side.reader, read_side.inlet⟩,
    ⟨write_answers, write_side.writer, write_side.outlet⟩, ⟨?_, ?_, ?_⟩, ?_⟩
  · have kept : ∀ step ∈ run.1, step.1.transfers = true :=
      fun step mem => transfers step.1 (fst_mem_of_mem_runAll mem)
    rw [← List.filter_eq_self.2 kept, splitRun_eq, run_eq]
    simp only [List.filter_append, List.filter_cons, StreamCall.transfers, Bool.false_eq_true,
      if_false]
  · rw [splitRun_eq, run_eq]
  · rw [splitRun_eq, run_eq]
    exact (Stream.split_keeps _).2.2
  · intro later halves reads
    -- A shutdown may follow, so the run is taken in two parts: what comes behind the split is on a
    -- split stream.
    obtain ⟨first_replies, first_side⟩ := Stream.readSteps_runAll (Or.inr before_still) readSide
    obtain ⟨replies, side⟩ := Stream.readSteps_runAll
      (Or.inl (Stream.isSplit_split first_side)) first_side.split
    have halves_eq : halves = runAll Stream.call (before ++ .split :: later) s := rfl
    have reads_eq : reads = runAll ReadSide.call ((before ++ later).filterMap StreamCall.read?)
      ⟨reader, s.transport.inlet⟩ := rfl
    rw [runAll_append, runAll_cons, Stream.call] at halves_eq
    rw [List.filterMap_append, runAll_append] at reads_eq
    rw [halves_eq, reads_eq]
    refine ⟨?_, side.reader, side.inlet⟩
    rw [readSteps_append, first_replies, ← replies]
    rfl

/-- A read is dropped inside a record and a write with three of its four bytes taken. With a split
at this point, the next write brings both records to their end, and the next read, after a shutdown
of the write half, gets its packet. -/
theorem directions_do_not_interfere_mid_record :
    let inlet : Inlet := { arrivals := [.data [0, 2, 7], .pending, .data [8]] }
    let outlet : Outlet :=
      { intakes := [.upTo 3, .pending], flushSignals := [], shutdownSignals := [.pending] }
    let target := Location.ofIpv4 ⟨[127, 0, 0, 1], rfl⟩ 53
    let s := Stream.new {} target ⟨inlet, outlet⟩ (.handshakeSent target)
    let read := StreamCall.read ⟨[3, 4, 5], 1⟩
    let before := [read, .write (.write [7, 8] 1)]
    let after := [.write (.write [9] 1), read]
    let halfway := (runAll Stream.call before s).2
    let whole := (runAll Stream.call (before ++ after) s).2
    let halves := (runAll Stream.call (before ++ .split :: after) s).2
    let closed := runAll Stream.call (before ++ .split :: [.write (.shutdown 1), read]) s
    s.ends = .whole (.new {}) (.new {}) ∧ (∀ c ∈ before ++ after, c.transfers = true) ∧
    (halfway.ends.reader?.any fun r => r.buffered = [0, 2, 7]) ∧
    (halfway.ends.writer?.any fun w => w.sent = [0, 2, 7] && w.unsent = [8]) ∧
    halves.transport = whole.transport ∧ whole.transport.outlet.accepted = [0, 2, 7, 8, 0, 1, 9] ∧
    readSteps closed.1 =
      (runAll ReadSide.call [⟨[3, 4, 5], 1⟩, ⟨[3, 4, 5], 1⟩] ⟨.new {}, inlet⟩).1 := by
  intro inlet outlet target s read before after halfway whole halves closed
  have transfers : ∀ c ∈ before ++ after, c.transfers = true := by decide
  obtain ⟨-, -, ⟨-, -, same⟩, alone⟩ :=
    directions_do_not_interfere (s := s) rfl rfl before
      after transfers
  exact ⟨rfl, transfers, by decide +kernel, by decide +kernel, same, by decide +kernel,
    (alone [.write (.shutdown 1), read]).1⟩

end DatagramTunnel
