import DatagramTunnel.Proofs.Call
import DatagramTunnel.Stream

/-!
# The two sides of a stream between calls

A read needs a reader and an inlet, a write or a shutdown a writer and an outlet. `ReadSide` and
`WriteSide` are these pairs as they stand between two calls, and `ReadSide.call` and
`WriteSide.call` make one call on them, which may be dropped after any number of polls.

`Stream.readCall` and `Stream.writeCall` make the same calls on a stream. `runAll_readCall` and
`runAll_writeCall` say that these are calls on its sides, whether or not it is split.
-/

namespace DatagramTunnel

/-! ## Reading -/

/-- A call of a read: the caller's buffer, and how often the call is polled before it is dropped. -/
structure ReadCall where
  buffer : List UInt8
  polls : Nat
  deriving DecidableEq

/-- A reader and the inlet that it reads. -/
structure ReadSide where
  reader : Reader
  inlet : Inlet
  deriving DecidableEq

/-- Makes a call of a read. -/
def ReadSide.call (c : ReadCall) (s : ReadSide) : Stream.ReadReply × ReadSide :=
  let (answer, r) := drive Reading.poll c.polls () ⟨s.reader, s.inlet, c.buffer, []⟩
  (⟨answer, r.buffer⟩, ⟨r.reader, r.inlet⟩)

/-! ## Writing -/

/-- A call of a write or of a shutdown, and how often it is polled before it is dropped. -/
inductive WriteCall where
  | write (payload : List UInt8) (polls : Nat)
  | shutdown (polls : Nat)
  deriving DecidableEq

/-- A writer and the outlet that it writes to. -/
structure WriteSide where
  writer : Writer
  outlet : Outlet
  deriving DecidableEq

/-- Makes a call on a writer at work; `announcement` is what a shutdown notes down. -/
def Writing.call (announcement : Note) (c : WriteCall) (w : Writing) :
    Option WriteAnswer × Writing :=
  match c with
  | .write payload polls => drive (pollWrite payload) polls .starting w
  | .shutdown polls => drive (pollShutdown announcement) polls .starting w

/-- Makes a call of a write or of a shutdown. -/
def WriteSide.call (announcement : Note) (c : WriteCall) (s : WriteSide) :
    Option WriteAnswer × WriteSide :=
  let (answer, w) := Writing.call announcement c ⟨s.writer, s.outlet, []⟩
  (answer, ⟨w.writer, w.outlet⟩)

/-! ## Who holds the sides -/

namespace Ends

theorem reader?_setReader {ends : Ends} {reader : Reader} (h : ends.reader? = some reader)
    (reader' : Reader) : (ends.setReader reader').reader? = some reader' := by
  cases ends with
  | whole _ _ => rfl
  | halves _ _ => rfl
  | dropped => simp [reader?] at h

theorem writer?_setWriter {ends : Ends} {writer : Writer} (h : ends.writer? = some writer)
    (writer' : Writer) : (ends.setWriter writer').writer? = some writer' := by
  cases ends with
  | whole _ _ => rfl
  | halves _ _ => rfl
  | dropped => simp [writer?] at h

@[simp] theorem writer?_closeWhole (ends : Ends) : ends.closeWhole.writer? = ends.writer? := by
  cases ends <;> rfl

end Ends

/-! ## Calls on a stream -/

namespace Stream

/-- Makes a call of a read. A call that is skipped has no answer and leaves the buffer as it is. -/
def readCall (c : ReadCall) (s : Stream) : ReadReply × Stream :=
  let (reply, s) := s.read c.buffer c.polls
  (reply.getD ⟨none, c.buffer⟩, s)

/-- Makes a call of a write or of a shutdown. A call that is skipped has no answer. -/
def writeCall (c : WriteCall) (s : Stream) : Option WriteAnswer × Stream :=
  match c with
  | .write payload polls =>
    let (answer, s) := s.write payload polls
    (answer.join, s)
  | .shutdown polls =>
    let (answer, s) := s.shutdown polls
    (answer.join, s)

/-- The stream has this read side. -/
structure HasReadSide (s : Stream) (t : ReadSide) : Prop where
  reader : s.ends.reader? = some t.reader
  inlet : s.transport.inlet = t.inlet

/-- The stream has this write side, and this is what a shutdown would note down. -/
structure HasWriteSide (announcement : Note) (s : Stream) (t : WriteSide) : Prop where
  writer : s.ends.writer? = some t.writer
  outlet : s.transport.outlet = t.outlet
  note : s.shutdownNote = announcement

/-- The write side of a new stream. -/
theorem hasWriteSide_new (config : Config) (target : Location) (transport : Transport)
    (note : Note) : (Stream.new config target transport note).HasWriteSide (.shuttingDown target)
      ⟨.new config, transport.outlet⟩ := ⟨rfl, rfl, rfl⟩

/-- A call of a read is a call on the read side. -/
theorem readCall_side (c : ReadCall) (s : Stream) (t : ReadSide) (side : s.HasReadSide t) :
    (s.readCall c).1 = (t.call c).1 ∧ (s.readCall c).2.HasReadSide (t.call c).2 := by
  obtain ⟨reader, inlet⟩ := side
  rw [readCall, read, reader, inlet]
  exact ⟨rfl, Ends.reader?_setReader reader _, rfl⟩

/-- What a shutdown notes down depends on whether the stream is split, and that is not changed. -/
theorem shutdownNote_withWriting (s : Stream) (w : Writing) :
    (s.withWriting w).shutdownNote = s.shutdownNote := by
  simp only [shutdownNote, withWriting]
  cases s.ends <;> rfl

/-- Closing the reader leaves the write side as it is. -/
theorem HasWriteSide.closeWhole {announcement : Note} {s : Stream} {t : WriteSide}
    (side : s.HasWriteSide announcement t) :
    { s with ends := s.ends.closeWhole }.HasWriteSide announcement t := by
  obtain ⟨writer, outlet, note⟩ := side
  refine ⟨(Ends.writer?_closeWhole _).trans writer, outlet, ?_⟩
  rw [← note]
  simp only [shutdownNote]
  cases s.ends <;> rfl

/-- A call of a write or of a shutdown is a call on the write side. -/
theorem writeCall_side (announcement : Note) (c : WriteCall) (s : Stream) (t : WriteSide)
    (side : s.HasWriteSide announcement t) :
    (s.writeCall c).1 = (t.call announcement c).1 ∧
      (s.writeCall c).2.HasWriteSide announcement (t.call announcement c).2 := by
  obtain ⟨writer, outlet, note⟩ := side
  cases c with
  | write payload polls =>
    rw [writeCall, write, writer, outlet]
    exact ⟨rfl, Ends.writer?_setWriter writer _, rfl, (shutdownNote_withWriting s _).trans note⟩
  | shutdown polls =>
    rw [writeCall, shutdown, writer, outlet, note]
    refine ⟨rfl, ?_⟩
    -- Whether the reader is closed as well, the write side is the same.
    have worked (w : Writing) : (s.withWriting w).HasWriteSide announcement ⟨w.writer, w.outlet⟩ :=
      ⟨Ends.writer?_setWriter writer _, rfl, (shutdownNote_withWriting s w).trans note⟩
    simp only
    split
    · exact (worked _).closeWhole
    · exact worked _

/-- The reads of a stream are calls on its read side. -/
theorem runAll_readCall (calls : List ReadCall) {s : Stream} {t : ReadSide}
    (side : s.HasReadSide t) :
    (runAll readCall calls s).1 = (runAll ReadSide.call calls t).1 ∧
      (runAll readCall calls s).2.HasReadSide (runAll ReadSide.call calls t).2 :=
  runAll_simulation readCall_side calls side

/-- The writes and shutdowns of a stream are calls on its write side. -/
theorem runAll_writeCall {announcement : Note} (calls : List WriteCall) {s : Stream} {t : WriteSide}
    (side : s.HasWriteSide announcement t) :
    (runAll writeCall calls s).1 = (runAll (WriteSide.call announcement) calls t).1 ∧
      (runAll writeCall calls s).2.HasWriteSide announcement
        (runAll (WriteSide.call announcement) calls t).2 :=
  runAll_simulation (writeCall_side announcement) calls side

end Stream

end DatagramTunnel
