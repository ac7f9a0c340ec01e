import DatagramTunnel.Proofs.Directions
import DatagramTunnel.Proofs.Writer.Shutdown
import DatagramTunnel.Proofs.Writer.Wire

/-!
# Closing a stream

Of all shutdowns of a stream only the first that is polled does anything, so everything hangs on how
it ends. `shutdownAnswers` lists how the polled shutdowns of a run have ended, and two main results
read this list. `shutdown_reaches_transport` says when a shutdown that is said to have succeeded has
shut the transport down, and `closed_together_iff` when the two directions are closed together. In
both, what goes wrong is that the first shutdown was dropped: `dropped_shutdown_not_repeated` and
`dropped_shutdown_leaves_reader_open` are such runs.
-/

namespace DatagramTunnel

/-! ## The shutdowns of a run -/

/-- How the shutdowns among some calls have ended that were polled at all, in the order of the
calls; `none` is a shutdown that was dropped. -/
def shutdownAnswers (steps : List (WriteCall × Option WriteAnswer)) : List (Option WriteAnswer) :=
  steps.filterMap fun
    | (.shutdown (_ + 1), answer) => some answer
    | _ => none

@[simp] theorem shutdownAnswers_append (first second : List (WriteCall × Option WriteAnswer)) :
    shutdownAnswers (first ++ second) = shutdownAnswers first ++ shutdownAnswers second :=
  List.filterMap_append

namespace WriteSide

/-- How far the shutdowns have brought a write side that have these answers, when the outlet had
been shut down `count` times before them: the first has done what it could, and all others were told
that it succeeded. -/
def ShutBy (count : Nat) (answers : List (Option WriteAnswer)) (s : WriteSide) : Prop :=
  match answers with
  | [] => s.writer.closed = false ∧ s.outlet.shutdowns = count
  | first :: later => AfterShutdown count first s ∧ ∀ answer ∈ later, answer = some (.ok ())

variable {count : Nat} {answers : List (Option WriteAnswer)} {s : WriteSide}

/-- **One more call.** -/
theorem ShutBy.call (shutBy : s.ShutBy count answers) (announcement : Note) (c : WriteCall) :
    (s.call announcement c).2.ShutBy count
      (answers ++ shutdownAnswers [(c, (s.call announcement c).1)]) := by
  cases answers with
  | nil =>
    -- No shutdown was polled yet: one that is polled now is the first.
    obtain ⟨opened, shutdowns⟩ := shutBy
    match c with
    | .write payload polls =>
      have same := s.call_write_sameClosing announcement payload polls
      exact ⟨same.closed.trans opened, same.shutdowns.trans shutdowns⟩
    | .shutdown 0 => exact ⟨opened, shutdowns⟩
    | .shutdown (polls + 1) =>
      have after := call_shutdown opened announcement polls
      rw [shutdowns] at after
      exact ⟨after, by simp⟩
  | cons first later =>
    -- The writer is closed, so this call changes nothing, and a shutdown is told that it succeeded.
    obtain ⟨after, succeeded⟩ := shutBy
    rw [call_of_closed after.closed]
    refine ⟨after, ?_⟩
    intro answer mem
    rcases List.mem_append.1 mem with earlier | last
    · exact succeeded answer earlier
    · match c, last with
      | .write _ _, last => simp [shutdownAnswers] at last
      | .shutdown 0, last => simp [shutdownAnswers] at last
      | .shutdown (_ + 1), last => exact List.mem_singleton.1 last

/-- The writer is closed exactly if a shutdown was polled. -/
theorem ShutBy.closed_iff (shutBy : s.ShutBy count answers) :
    s.writer.closed = true ↔ answers ≠ [] := by
  cases answers with
  | nil => simp [shutBy.1]
  | cons first later => simp [shutBy.1.closed]

/-- A shutdown has had its answer exactly if the writer is closed, unless the only one that was
polled was dropped. -/
theorem ShutBy.answered_iff (shutBy : s.ShutBy count answers) :
    answers.any Option.isSome = s.writer.closed ↔ answers ≠ [none] := by
  cases answers with
  | nil => simp [shutBy.1]
  | cons first later =>
    obtain ⟨after, succeeded⟩ := shutBy
    rw [after.closed]
    -- A second shutdown always has its answer, so only a first one alone can be without.
    cases later with
    | nil => cases first <;> simp
    | cons second later => simp [succeeded second List.mem_cons_self]

end WriteSide

/-- The write side of a new stream, before any shutdown. -/
theorem shutBy_new (config : Config) (outlet : Outlet) :
    WriteSide.ShutBy outlet.shutdowns [] ⟨.new config, outlet⟩ := ⟨rfl, rfl⟩

/-- **The write side after any calls on a new stream**: what the writes among them have brought to
the outlet, and how far the shutdowns have brought it. -/
theorem Stream.ledger_and_shutBy (config : Config) (target : Location) (transport : Transport)
    (note : Note) (calls : List StreamCall) :
    let run := runAll Stream.call calls (Stream.new config target transport note)
    ∃ note' t, run.2.HasWriteSide note' t ∧
      Ledger transport.outlet (journal (writeSteps run.1)) t ∧
      t.ShutBy transport.outlet.shutdowns (shutdownAnswers (writeSteps run.1)) := by
  refine Stream.writeSide_runAll
    (P := fun steps t => Ledger transport.outlet (journal steps) t ∧
      t.ShutBy transport.outlet.shutdowns (shutdownAnswers steps)) ?_ calls
    (Stream.hasWriteSide_new config target transport note)
    ⟨ledger_new config transport.outlet, shutBy_new config transport.outlet⟩
  rintro steps u announcement c ⟨ledger, shutBy⟩
  rw [journal_append, shutdownAnswers_append]
  exact ⟨ledger.call announcement c, shutBy.call announcement c⟩

/-! ## A shutdown that succeeds -/

/-- **A shutdown that succeeds has shut the transport down**, unless an earlier one was dropped.
Take any calls on a new stream, a split among them or not, of which no shutdown has failed and one
has succeeded.

If no shutdown was dropped after it was polled, the transport has been shut down once; and unless
the writer is broken, nothing is left staged, so that the bytes taken are complete records of some
of the writes, in the order of the calls, among them all that have succeeded. If one was dropped,
the transport has never been shut down. -/
theorem shutdown_reaches_transport (config : Config) (target : Location) (transport : Transport)
    (note : Note) (calls : List StreamCall) :
    let run := runAll Stream.call calls (Stream.new config target transport note)
    let answers := shutdownAnswers (writeSteps run.1)
    (∀ e, some (.error e) ∉ answers) → some (.ok ()) ∈ answers →
    (none ∉ answers → run.2.transport.outlet.shutdowns = transport.outlet.shutdowns + 1 ∧
      ∃ writer, run.2.ends.writer? = some writer ∧ (writer.broken = false → writer.staged = [] ∧
        ∃ whole, Complete (journal (writeSteps run.1)) whole ∧
          run.2.transport.outlet.accepted = transport.outlet.accepted ++ recordsOf whole)) ∧
    (none ∈ answers → run.2.transport.outlet.shutdowns = transport.outlet.shutdowns) := by
  intro run answers no_error success
  obtain ⟨_, t, side, ledger, shutBy⟩ :=
    Stream.ledger_and_shutBy config target transport note calls
  have shutBy : t.ShutBy transport.outlet.shutdowns answers := shutBy
  rw [show run.2.transport.outlet = t.outlet from side.outlet]
  cases h : answers with
  | nil => simp [h] at success
  | cons first later =>
    rw [h] at shutBy no_error
    obtain ⟨after, succeeded⟩ := shutBy
    constructor
    · intro none_dropped
      -- Of no failure and no drop, success is left for the first shutdown, which is the one that
      -- counts.
      have first_ok : first = some (.ok ()) := by
        match first with
        | none => exact absurd List.mem_cons_self none_dropped
        | some (.error e) => exact absurd List.mem_cons_self (no_error e)
        | some (.ok ()) => rfl
      obtain ⟨shutdowns, clean⟩ := after.succeeded first_ok
      refine ⟨shutdowns, t.writer, side.writer, fun unbroken => ⟨clean unbroken, ?_⟩⟩
      obtain ⟨whole, complete, idle⟩ := ledger.idle_of_unstaged unbroken (clean unbroken)
      refine ⟨whole, complete, ?_⟩
      rw [idle.accepted, idle.sent_eq_nil, List.append_nil]
    · intro dropped
      -- Only the first can have been dropped: the later ones had their answer at once.
      rcases List.mem_cons.1 dropped with first_dropped | later_dropped
      · exact after.dropped first_dropped.symm
      · exact absurd (succeeded none later_dropped) (by simp)

/-- A write is dropped with three of its four bytes taken. The shutdown that follows brings its
record to its end. -/
theorem shutdown_reaches_transport_mid_record :
    let outlet : Outlet :=
      { intakes := [.upTo 3, .pending], flushSignals := [], shutdownSignals := [] }
    let target := Location.ofIpv4 ⟨[127, 0, 0, 1], rfl⟩ 53
    let s := Stream.new {} target ⟨{ arrivals := [] }, outlet⟩ (.handshakeSent target)
    let run := runAll Stream.call [.write (.write [7, 8] 1), .write (.shutdown 1)] s
    let answers := shutdownAnswers (writeSteps run.1)
    (∀ e, some (.error e) ∉ answers) ∧ some (.ok ()) ∈ answers ∧ none ∉ answers ∧
    run.2.transport.outlet.shutdowns = 1 ∧ run.2.transport.outlet.accepted = [0, 2, 7, 8] := by
  intro outlet target s run answers
  have answered : answers = [some (.ok ())] := by decide +kernel
  have no_error : ∀ e, some (.error e) ∉ answers := by simp [answered]
  have success : some (.ok ()) ∈ answers := by simp [answered]
  have none_dropped : none ∉ answers := by simp [answered]
  obtain ⟨shut, -⟩ := shutdown_reaches_transport {} target ⟨{ arrivals := [] }, outlet⟩
    (.handshakeSent target) [.write (.write [7, 8] 1), .write (.shutdown 1)] no_error success
  exact ⟨no_error, success, none_dropped, (shut none_dropped).1, by decide +kernel⟩

/-- **A dropped shutdown is not repeated.** A shutdown is dropped while it brings a record to its
end. The next one is said to have succeeded, though the transport has not been shut down, and the
last byte of the record, which the writer has not given up, is not taken. -/
theorem dropped_shutdown_not_repeated :
    let outlet : Outlet :=
      { intakes := [.upTo 3, .pending, .pending], flushSignals := [], shutdownSignals := [] }
    let target := Location.ofIpv4 ⟨[127, 0, 0, 1], rfl⟩ 53
    let s := Stream.new {} target ⟨{ arrivals := [] }, outlet⟩ (.handshakeSent target)
    let run := runAll Stream.call
      [.write (.write [7, 8] 1), .write (.shutdown 1), .write (.shutdown 1)] s
    shutdownAnswers (writeSteps run.1) = [none, some (.ok ())] ∧
    run.2.transport.outlet.shutdowns = 0 ∧ run.2.transport.outlet.accepted = [0, 2, 7] ∧
    run.2.ends.writer?.any fun writer => !writer.broken && writer.unsent == [8] := by
  decide +kernel

/-! ## A closed reader -/

namespace Reading

/-! No read closes the reader, or opens it. -/

theorem closed_refuse (r : Reading) (payload rest : List UInt8) :
    (r.refuse payload rest).2.reader.closed = r.reader.closed := by
  unfold refuse
  cases r.reader.policy <;> rfl

theorem closed_fail (r : Reading) (cause : Failure) :
    (r.fail cause).2.reader.closed = r.reader.closed := by
  unfold fail
  split <;> rfl

theorem closed_finish (r : Reading) : r.finish.2.reader.closed = r.reader.closed := by
  simp only [finish]
  split <;> rfl

/-- The induction is on the reads of the inlet that bring bytes. -/
theorem closed_fetch (r : Reading) : r.fetch.2.reader.closed = r.reader.closed := by
  fun_induction fetch r with
  | case1 r broken => rfl
  | case2 r unbroken payload rest front answer r' handed =>
    split at handed
    · have same := r.closed_refuse payload rest
      rwa [handed] at same
    · obtain ⟨-, rfl⟩ := Prod.mk.inj handed
      rfl
  | case3 r unbroken incomplete ended => rfl
  | case4 r unbroken incomplete going inlet read => rfl
  | case5 r unbroken incomplete going cause inlet read answer r' gave_up =>
    have same := closed_fail { r with inlet } cause
    rwa [gave_up] at same
  | case6 r unbroken incomplete going inlet read answer r' gave_up =>
    have same := closed_finish { r with inlet }
    rwa [gave_up] at same
  | case7 r unbroken incomplete going b bs inlet read _ ih => exact ih

theorem closed_poll (stage : Unit) (r : Reading) :
    (r.poll stage).2.reader.closed = r.reader.closed := by
  unfold poll
  split
  · rfl
  · exact r.closed_fetch

end Reading

/-- The reply to a read of a closed reader: the read is refused, unless it is never polled. -/
def ReadCall.replyWhenClosed (c : ReadCall) : Stream.ReadReply :=
  ⟨if c.polls = 0 then none else some (.error .closed), c.buffer⟩

namespace ReadSide

/-- A call of a read leaves the reader as open or closed as it is. -/
theorem closed_call (c : ReadCall) (s : ReadSide) :
    (s.call c).2.reader.closed = s.reader.closed :=
  drive_keeps (R := fun (r r' : Reading) => r'.reader.closed = r.reader.closed) (fun _ => rfl)
    (fun _ _ _ first second => second.trans first) Reading.closed_poll c.polls ()
    ⟨s.reader, s.inlet, c.buffer, []⟩

/-- **A read of a closed reader** is refused at once, and changes nothing. -/
theorem call_of_closed {s : ReadSide} (closed : s.reader.closed = true) (c : ReadCall) :
    s.call c = (c.replyWhenClosed, s) := by
  have refused : Reading.poll () ⟨s.reader, s.inlet, c.buffer, []⟩ =
      (.ready (.error .closed), ⟨s.reader, s.inlet, c.buffer, []⟩) := by
    rw [Reading.poll, if_pos closed]
  rw [call, drive_of_ready refused]
  rfl

end ReadSide

namespace Stream

variable {s : Stream} {reader : Reader} {writer : Writer}

/-! ## The reader of a stream that is not split -/

/-- A read leaves the writer as it is, and does not close the reader. -/
theorem ends_readCall (whole : s.ends = .whole reader writer) (c : ReadCall) :
    ∃ reader', reader'.closed = reader.closed ∧ (s.readCall c).2.ends = .whole reader' writer := by
  refine ⟨_, ReadSide.closed_call c ⟨reader, s.transport.inlet⟩, ?_⟩
  simp only [readCall, read, whole]
  rfl

/-- A write leaves the reader as it is, and a shutdown closes it if it is not dropped. -/
theorem ends_writeCall (whole : s.ends = .whole reader writer) (c : WriteCall) :
    ∃ writer', (s.writeCall c).2.ends = .whole (if (shutdownAnswers [(c, (s.writeCall c).1)]).any
      Option.isSome then { reader with closed := true } else reader) writer' := by
  have has_writer : s.ends.writer? = some writer := by rw [whole]; rfl
  have worked (w : Writing) : (s.withWriting w).ends = .whole reader w.writer := by
    rw [withWriting, whole]
    rfl
  cases c with
  | write payload polls =>
    simp only [writeCall, write, has_writer]
    exact ⟨_, worked _⟩
  | shutdown polls =>
    cases polls with
    | zero =>
      simp only [writeCall, shutdown, has_writer, drive]
      exact ⟨_, worked _⟩
    | succ polls =>
      simp only [writeCall, shutdown, has_writer]
      -- How the polls went does not matter, only whether they came to an answer.
      generalize drive (Writing.pollShutdown s.shutdownNote) (polls + 1) .starting
        ⟨writer, s.transport.outlet, []⟩ = driven
      obtain ⟨_ | answer, w⟩ := driven
      · exact ⟨w.writer, worked w⟩
      · refine ⟨w.writer, ?_⟩
        simp only [Option.isSome_some, if_true, worked]
        rfl

/-- What holds after any calls on a new stream that is not split: the reader is closed exactly if
some shutdown has had its answer. -/
def ReaderShut (steps : List (StreamCall × StreamReply)) (s : Stream) : Prop :=
  ∃ reader writer, s.ends = .whole reader writer ∧
    reader.closed = (shutdownAnswers (writeSteps steps)).any Option.isSome

/-- **One more call** that does not split the stream. -/
theorem ReaderShut.call {steps : List (StreamCall × StreamReply)} (shut : s.ReaderShut steps)
    {c : StreamCall} (unsplit : c ≠ .split) :
    (s.call c).2.ReaderShut (steps ++ [(c, (s.call c).1)]) := by
  obtain ⟨reader, writer, whole, closed⟩ := shut
  rw [ReaderShut, writeSteps_append, shutdownAnswers_append, List.any_append, ← closed]
  cases c with
  | read c =>
    obtain ⟨reader', same, whole'⟩ := ends_readCall whole c
    refine ⟨reader', writer, whole', ?_⟩
    rw [same]
    exact (Bool.or_false _).symm
  | write c =>
    obtain ⟨writer', whole'⟩ := ends_writeCall whole c
    refine ⟨_, writer', whole', ?_⟩
    show _ = (reader.closed || (shutdownAnswers [(c, (s.writeCall c).1)]).any Option.isSome)
    split
    · next answered => rw [answered, Bool.or_true]
    · next unanswered => rw [Bool.not_eq_true _ |>.mp unanswered, Bool.or_false]
  | split => exact absurd rfl unsplit

/-- The reader after any calls that do not split the stream. -/
theorem readerShut_runAll (config : Config) (target : Location) (transport : Transport)
    (note : Note) {calls : List StreamCall} (unsplit : ∀ c ∈ calls, c ≠ .split) :
    let run := runAll call calls (Stream.new config target transport note)
    run.2.ReaderShut run.1 := by
  intro run
  have all : ∀ step ∈ run.1, step.1 ≠ .split :=
    fun step mem => unsplit step.1 (fst_mem_of_mem_runAll mem)
  refine runAll_induction
    (P := fun done s => (∀ step ∈ done, step.1 ≠ .split) → s.ReaderShut done) ?_ calls ?_ all
  · intro done s c shut all
    exact (shut fun step mem => all step (List.mem_append_left _ mem)).call
      (all _ (List.mem_append_right done List.mem_cons_self))
  · intro _
    exact ⟨_, _, rfl, rfl⟩

/-! ## After the closing -/

/-- **After a reader is closed**, every read is refused, and no call on the stream changes the read
side. -/
theorem readSteps_of_closed {t : ReadSide} (side : s.HasReadSide t)
    (closed : t.reader.closed = true) (calls : List StreamCall) :
    (∀ step ∈ readSteps (runAll call calls s).1, step.2 = step.1.replyWhenClosed) ∧
      (runAll call calls s).2.HasReadSide t := by
  refine runAll_induction
    (P := fun done (s : Stream) => (∀ step ∈ readSteps done, step.2 = step.1.replyWhenClosed) ∧
      s.HasReadSide t) ?_ calls ⟨by simp [readSteps], side⟩
  rintro done s c ⟨refused, side⟩
  cases c with
  | read c =>
    obtain ⟨reply, side'⟩ := readCall_side c s t side
    rw [ReadSide.call_of_closed closed] at reply side'
    rw [readSteps_append]
    refine ⟨fun step mem => ?_, side'⟩
    rcases List.mem_append.1 mem with earlier | last
    · exact refused step earlier
    · obtain rfl : step = (c, (s.readCall c).1) := List.mem_singleton.1 last
      exact reply
  | write c =>
    rw [readSteps_concat rfl]
    exact ⟨refused, side.writeCall fun _ => Or.inr closed⟩
  | split =>
    rw [readSteps_concat rfl]
    exact ⟨refused, side.split⟩

/-- **After a writer is closed**, every write is refused, every shutdown is said to have succeeded,
and no call on the stream changes the write side. -/
theorem writeSteps_of_closed {announcement : Note} {u : WriteSide}
    (side : s.HasWriteSide announcement u) (closed : u.writer.closed = true)
    (calls : List StreamCall) :
    (∀ step ∈ writeSteps (runAll call calls s).1, step.2 = step.1.answerWhenClosed) ∧
      ∃ note, (runAll call calls s).2.HasWriteSide note u := by
  obtain ⟨note, u', side', refused, rfl⟩ := writeSide_runAll
    (P := fun steps u' => (∀ step ∈ steps, step.2 = step.1.answerWhenClosed) ∧ u = u')
    (fun done u' announcement c ⟨refused, same⟩ => by
      subst same
      rw [WriteSide.call_of_closed closed]
      refine ⟨fun step mem => ?_, rfl⟩
      rcases List.mem_append.1 mem with earlier | last
      · exact refused step earlier
      · obtain rfl := List.mem_singleton.1 last
        rfl)
    calls side ⟨by simp, rfl⟩
  exact ⟨refused, note, side'⟩

end Stream

/-- **The two directions are closed together**, unless the only shutdown was dropped. Take any calls
on a new stream, of which none splits it.

The writer is closed exactly if a shutdown was polled, however it ended. The reader is closed
exactly if the writer is, except after a single shutdown that was dropped: this one closes the
writer only.

Once the writer is closed, every later write that is polled is refused as closed, and no byte is
offered to the transport; and once the reader is closed too, every later read that is polled is
refused as closed, and no byte is read. -/
theorem closed_together_iff (config : Config) (target : Location) (transport : Transport)
    (note : Note) (calls : List StreamCall) (unsplit : ∀ c ∈ calls, c ≠ .split) :
    let run := runAll Stream.call calls (Stream.new config target transport note)
    let answers := shutdownAnswers (writeSteps run.1)
    ∃ reader writer, run.2.ends = .whole reader writer ∧
      (writer.closed = true ↔ answers ≠ []) ∧
      (reader.closed = writer.closed ↔ answers ≠ [none]) ∧
      ∀ later : List StreamCall,
        let more := runAll Stream.call later run.2
        (writer.closed = true →
          (∀ step ∈ writeSteps more.1, step.2 = step.1.answerWhenClosed) ∧
          more.2.transport.outlet = run.2.transport.outlet) ∧
        (reader.closed = true →
          (∀ step ∈ readSteps more.1, step.2 = step.1.replyWhenClosed) ∧
          more.2.transport.inlet = run.2.transport.inlet) := by
  intro run answers
  obtain ⟨note', t, side, -, shutBy⟩ :=
    Stream.ledger_and_shutBy config target transport note calls
  have shutBy : t.ShutBy transport.outlet.shutdowns answers := shutBy
  obtain ⟨reader, writer, whole, reader_closed⟩ :=
    Stream.readerShut_runAll config target transport note unsplit
  have whole : run.2.ends = .whole reader writer := whole
  have writeSide : run.2.HasWriteSide note' t := side
  have readSide : run.2.HasReadSide ⟨reader, run.2.transport.inlet⟩ := ⟨by rw [whole]; rfl, rfl⟩
  obtain rfl : writer = t.writer := by
    have held := writeSide.writer
    rw [whole] at held
    exact Option.some.inj held
  refine ⟨reader, t.writer, whole, shutBy.closed_iff, ?_, fun later => ⟨?_, ?_⟩⟩
  · rw [reader_closed]
    exact shutBy.answered_iff
  · intro closed
    obtain ⟨refused, _, side'⟩ := Stream.writeSteps_of_closed writeSide closed later
    exact ⟨refused, side'.outlet.trans writeSide.outlet.symm⟩
  · intro closed
    obtain ⟨refused, side'⟩ := Stream.readSteps_of_closed readSide closed later
    exact ⟨refused, side'.inlet⟩

/-- A shutdown that fails closes both directions: a packet that is there to be read is not read any
more. -/
theorem closed_together_after_failure :
    let outlet : Outlet :=
      { intakes := [], flushSignals := [], shutdownSignals := [.failed ⟨.notConnected, "gone"⟩] }
    let inlet : Inlet := { arrivals := [.data [0, 2, 7, 8]] }
    let target := Location.ofIpv4 ⟨[127, 0, 0, 1], rfl⟩ 53
    let s := Stream.new {} target ⟨inlet, outlet⟩ (.handshakeSent target)
    let calls := [StreamCall.write (.shutdown 1)]
    let run := runAll Stream.call calls s
    let more := runAll Stream.call [.read ⟨[3, 4, 5], 1⟩] run.2
    (∀ c ∈ calls, c ≠ .split) ∧
    shutdownAnswers (writeSteps run.1) = [some (.error (.io ⟨.notConnected, "gone"⟩))] ∧
    (∀ step ∈ readSteps more.1, step.2 = step.1.replyWhenClosed) ∧
    more.2.transport.inlet = run.2.transport.inlet := by
  intro outlet inlet target s calls run more
  have unsplit : ∀ c ∈ calls, c ≠ .split := by decide
  have failed :
      shutdownAnswers (writeSteps run.1) = [some (.error (.io ⟨.notConnected, "gone"⟩))] := by
    decide +kernel
  obtain ⟨reader, writer, -, closed_iff, together, later⟩ :=
    closed_together_iff {} target ⟨inlet, outlet⟩ (.handshakeSent target) calls unsplit
  have closed : writer.closed = true := closed_iff.2 (by rw [failed]; simp)
  have both_closed : reader.closed = true := (together.2 (by rw [failed]; simp)).trans closed
  exact ⟨unsplit, failed, (later [.read ⟨[3, 4, 5], 1⟩]).2 both_closed⟩

/-- **A dropped shutdown leaves the reader open.** After a shutdown that was dropped while it waits
for the transport, a write is refused as closed, but a read still takes bytes and hands out a
packet. -/
theorem dropped_shutdown_leaves_reader_open :
    let outlet : Outlet := { intakes := [], flushSignals := [], shutdownSignals := [.pending] }
    let inlet : Inlet := { arrivals := [.data [0, 2, 7, 8]] }
    let target := Location.ofIpv4 ⟨[127, 0, 0, 1], rfl⟩ 53
    let s := Stream.new {} target ⟨inlet, outlet⟩ (.handshakeSent target)
    let run := runAll Stream.call
      [.write (.shutdown 1), .write (.write [9] 1), .read ⟨[3, 4, 5], 1⟩] s
    run.2.ends = .whole (.new {}) { Writer.new {} with closed := true } ∧
    writeSteps run.1 = [(.shutdown 1, none), (.write [9] 1, some (.error .closed))] ∧
    readSteps run.1 = [(⟨[3, 4, 5], 1⟩, ⟨some (.ok (some 2)), [7, 8, 5]⟩)] ∧
    run.2.transport.inlet.taken = 4 := by
  decide +kernel

end DatagramTunnel
