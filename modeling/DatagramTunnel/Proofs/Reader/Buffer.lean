import DatagramTunnel.Proofs.Reader.Refinement
import DatagramTunnel.Proofs.Records
import Mathlib.Control.Monad.Basic

/-!
# The caller's buffer

A read writes into its caller's buffer only when it delivers a packet, and then only the packet:
`reads_write_payload_only`. Bytes that arrive are kept in the reader, so neither a packet that came
in part, nor one that was refused or discarded, leaves a trace in the buffer, and a call that is
dropped leaves none either. This holds in every state of a stream, whatever its inlet does.

A buffer that is used for one read after the other is therefore known from the packets that were
delivered: `reused_buffer`.
-/

namespace DatagramTunnel

/-- The size of the packet that an answer delivers. -/
def delivered? : Option ReadAnswer → Option Nat
  | some (.ok size) => size
  | _ => none

theorem delivered?_eq_some_iff {answer : Option ReadAnswer} {n : Nat} :
    delivered? answer = some n ↔ answer = some (.ok (some n)) := by
  unfold delivered?
  split
  · next size => exact ⟨fun same => by rw [same], fun same => Except.ok.inj (Option.some.inj same)⟩
  · next other => exact ⟨nofun, fun same => absurd same (other (some n))⟩

/-- What is still to be handed out: the bytes that are buffered, and then what the inlet brings. -/
def ReadSide.coming (s : ReadSide) : Flow := s.inlet.flow.prepend s.reader.buffered

/-- What a read may do to the caller's buffer; `before` and `after` are what is still to be handed
out in front of the read and behind it. -/
structure Frames (before : Flow) (buffer : List UInt8) (answer : Option ReadAnswer)
    (buffer' : List UInt8) (after : Flow) : Prop where
  /-- A packet that is delivered is the first to be handed out. It goes over the first bytes of the
  buffer. -/
  delivered : ∀ n, answer = some (.ok (some n)) → n ≤ buffer.length ∧ ∃ payload,
    payload.length = n ∧ before = after.prepend (Record.encode payload) ∧
      buffer' = payload ++ buffer.drop n
  /-- In every other case, nothing is written. -/
  untouched : (∀ n, answer ≠ some (.ok (some n))) → buffer' = buffer

/-- A read that delivers nothing has to leave the buffer as it is. -/
theorem Frames.of_same {before after : Flow} {buffer buffer' : List UInt8}
    {answer : Option ReadAnswer} (nothing : delivered? answer = none)
    (same : buffer' = buffer) : Frames before buffer answer buffer' after := by
  refine ⟨fun n delivered => ?_, fun _ => same⟩
  cases nothing.symm.trans (delivered?_eq_some_iff.2 delivered)

namespace Reading

theorem deliver_frames {r : Reading} {payload rest : List UInt8}
    (front : Record.split? r.reader.buffered = some (payload, rest))
    (fits : payload.length ≤ r.buffer.length) :
    Frames r.side.coming r.buffer (some (r.deliver payload rest).1)
      (r.deliver payload rest).2.buffer (r.deliver payload rest).2.side.coming := by
  refine ⟨fun n delivered => ?_, fun nothing => absurd rfl (nothing payload.length)⟩
  cases delivered
  refine ⟨fits, payload, rfl, ?_, rfl⟩
  rw [ReadSide.coming, reader_side, Record.eq_of_split? front, Flow.prepend_append]
  rfl

theorem refuse_frames (r : Reading) (payload rest : List UInt8) :
    Frames r.side.coming r.buffer (some (r.refuse payload rest).1)
      (r.refuse payload rest).2.buffer (r.refuse payload rest).2.side.coming := by
  refine .of_same rfl ?_
  unfold refuse
  cases r.reader.policy <;> rfl

theorem fail_frames (before : Flow) (r : Reading) (cause : Failure) :
    Frames before r.buffer (some (r.fail cause).1) (r.fail cause).2.buffer
      (r.fail cause).2.side.coming := by
  unfold fail
  split
  · exact .of_same rfl rfl
  · exact .of_same rfl rfl

theorem finish_frames (before : Flow) (r : Reading) :
    Frames before r.buffer (some r.finish.1) r.finish.2.buffer r.finish.2.side.coming := by
  simp only [finish]
  split
  · exact .of_same rfl rfl
  · exact .of_same rfl rfl

/-- The same for a poll: one that waits writes nothing, and all that was coming still is. -/
def PollFrames (before : Flow) (buffer : List UInt8) :
    Progress Unit ReadAnswer × Reading → Prop
  | (.ready answer, r') => Frames before buffer (some answer) r'.buffer r'.side.coming
  | (.waiting _, r') => r'.buffer = buffer ∧ r'.side.coming = before

/-- **One poll.** The induction is on the reads of the inlet that bring bytes: these go behind what
is buffered, so what is coming stays the same. -/
theorem fetch_frames (r : Reading) : PollFrames r.side.coming r.buffer r.fetch := by
  fun_induction fetch r with
  | case1 r broken => exact .of_same rfl rfl
  | case2 r unbroken payload rest front answer r' handed =>
    split at handed
    · have refused := refuse_frames r payload rest
      rwa [handed] at refused
    · next fits =>
      have delivered := deliver_frames front (Nat.not_lt.1 fits)
      rwa [handed] at delivered
  | case3 r unbroken incomplete ended => exact .of_same rfl rfl
  | case4 r unbroken incomplete going inlet read =>
    have flow : inlet.flow = r.inlet.flow := Inlet.read_flow (room_pos incomplete) read
    exact ⟨rfl, congrArg (Flow.prepend r.reader.buffered) flow⟩
  | case5 r unbroken incomplete going cause inlet read answer r' failed =>
    have frames := fail_frames r.side.coming { r with inlet } cause
    rwa [failed] at frames
  | case6 r unbroken incomplete going inlet read answer r' finished =>
    have frames := finish_frames r.side.coming { r with inlet }
    rwa [finished] at frames
  | case7 r unbroken incomplete going b bs inlet read _ ih =>
    have arrived : r.inlet.flow = inlet.flow.prepend (b :: bs) :=
      Inlet.read_flow (room_pos incomplete) read
    have same : (r.receive (b :: bs) inlet).side.coming = r.side.coming := by
      show inlet.flow.prepend (r.reader.buffered ++ b :: bs) = r.side.coming
      rw [ReadSide.coming, inlet_side, reader_side, arrived, Flow.prepend_append]
    rw [same] at ih
    exact ih

theorem poll_frames (stage : Unit) (r : Reading) :
    PollFrames r.side.coming r.buffer (r.poll stage) := by
  unfold poll
  split
  · exact .of_same rfl rfl
  · exact r.fetch_frames

end Reading

/-! ## Calls -/

/-- **One call**, in any state of the reader. The invariant over its polls is that nothing has been
written. -/
theorem ReadSide.call_frames (c : ReadCall) (s : ReadSide) :
    Frames s.coming c.buffer (s.call c).1.answer (s.call c).1.buffer (s.call c).2.coming := by
  rw [call_eq]
  refine drive_induction
    (I := fun _ r => r.buffer = c.buffer ∧ r.side.coming = s.coming)
    (Q := fun answer r => Frames s.coming c.buffer answer r.buffer r.side.coming)
    ?_ ?_ ?_ c.polls () (s.reading c) ⟨rfl, rfl⟩
  · rintro - r ⟨buffer, -⟩
    exact .of_same rfl buffer
  · rintro stage r answer r' ⟨buffer, coming⟩ polled
    have frames := r.poll_frames stage
    rwa [polled, buffer, coming] at frames
  · rintro stage r stage' r' ⟨buffer, coming⟩ polled
    have frames := r.poll_frames stage
    rwa [polled, buffer, coming] at frames

namespace Stream

/-- What a stream still has to hand out, if its reader is there. -/
def coming (s : Stream) : Flow :=
  match s.ends.reader? with
  | some reader => ReadSide.coming ⟨reader, s.transport.inlet⟩
  | none => s.transport.inlet.flow

theorem HasReadSide.coming {s : Stream} {t : ReadSide} (side : s.HasReadSide t) :
    s.coming = t.coming := by
  rw [Stream.coming, side.reader, side.inlet]

theorem readCall_frames (c : ReadCall) (s : Stream) :
    Frames s.coming c.buffer (s.readCall c).1.answer (s.readCall c).1.buffer
      (s.readCall c).2.coming := by
  cases held : s.ends.reader? with
  | none =>
    have skipped : s.readCall c = (⟨none, c.buffer⟩, s) := by
      rw [readCall, read, held]
      rfl
    rw [skipped]
    exact .of_same rfl rfl
  | some reader =>
    have side : s.HasReadSide ⟨reader, s.transport.inlet⟩ := ⟨held, rfl⟩
    obtain ⟨reply, side'⟩ := readCall_side c s _ side
    rw [side.coming, reply, side'.coming]
    exact ReadSide.call_frames c _

/-- **A read writes the delivered payload, and nothing else.** Take a stream in any state, any
inlet, buffer and number of polls. If the answer is the length of a packet, the buffer has at least
so many bytes; the first of them are then the payload of the record that was to come first, which is
taken, and the others are as they were. If there is any other answer, or none because the call was
dropped, the buffer is as it was. -/
theorem reads_write_payload_only (s : Stream) (c : ReadCall) :
    let reply := (s.readCall c).1
    (∀ n, reply.answer = some (.ok (some n)) → n ≤ c.buffer.length ∧ ∃ payload,
      payload.length = n ∧ s.coming = (s.readCall c).2.coming.prepend (Record.encode payload) ∧
        reply.buffer = payload ++ c.buffer.drop n) ∧
    ((∀ n, reply.answer ≠ some (.ok (some n))) → reply.buffer = c.buffer) :=
  ⟨(readCall_frames c s).delivered, (readCall_frames c s).untouched⟩

/-- A read is dropped when part of a packet has come, and writes nothing. The next one delivers the
packet into the same buffer and leaves the last byte. The packet behind it does not fit. -/
theorem packet_written_after_drop :
    let inlet : Inlet := { arrivals := [.data [0, 2, 7], .pending, .data [8, 0, 3, 1, 2, 3]] }
    let target := Location.ofIpv4 ⟨[127, 0, 0, 1], rfl⟩ 53
    let outlet : Outlet := { intakes := [], flushSignals := [], shutdownSignals := [] }
    let s := Stream.new {} target ⟨inlet, outlet⟩ (.handshakeSent target)
    let first := s.readCall ⟨[3, 4, 5], 1⟩
    let second := first.2.readCall ⟨[3, 4, 5], 1⟩
    let third := second.2.readCall ⟨[3, 4], 1⟩
    (first.1.answer = none ∧ first.1.buffer = [3, 4, 5]) ∧
    (second.1.answer = some (.ok (some 2)) ∧ ∃ payload, payload.length = 2 ∧
      first.2.coming = second.2.coming.prepend (Record.encode payload) ∧
        second.1.buffer = payload ++ [5]) ∧
    (third.1.answer = some (.error (.shortBuffer 3 2)) ∧ third.1.buffer = [3, 4]) := by
  intro inlet target outlet s first second third
  have dropped : first.1.answer = none := by decide +kernel
  have delivered : second.1.answer = some (.ok (some 2)) := by decide +kernel
  have refused : third.1.answer = some (.error (.shortBuffer 3 2)) := by decide +kernel
  obtain ⟨-, unwritten⟩ := reads_write_payload_only s ⟨[3, 4, 5], 1⟩
  obtain ⟨written, -⟩ := reads_write_payload_only first.2 ⟨[3, 4, 5], 1⟩
  obtain ⟨-, unwritten'⟩ := reads_write_payload_only second.2 ⟨[3, 4], 1⟩
  refine ⟨⟨dropped, unwritten fun n => ?_⟩, ⟨delivered, (written 2 delivered).2⟩,
    refused, unwritten' fun n => ?_⟩
  · rw [dropped]
    intro same
    cases same
  · rw [refused]
    intro same
    cases same

/-! ## A buffer for many reads -/

/-- Reads into a buffer that is kept for the next read. -/
def readInto (polls : Nat) (s : Stream × List UInt8) : Option ReadAnswer × (Stream × List UInt8) :=
  let (reply, later) := s.1.readCall ⟨s.2, polls⟩
  (reply.answer, (later, reply.buffer))

/-- The bytes of a packet over the first bytes of a buffer. -/
def cover (buffer payload : List UInt8) : List UInt8 := payload ++ buffer.drop payload.length

/-- **A buffer that is used again and again** holds the packets that were delivered into it, one
over the other, and is otherwise as it was. -/
theorem reused_buffer (s : Stream) (buffer : List UInt8) (calls : List Nat) :
    let run := runAll readInto calls (s, buffer)
    ∃ payloads : List (List UInt8),
      run.1.filterMap (fun step => delivered? step.2) = payloads.map List.length ∧
        run.2.2 = payloads.foldl cover buffer := by
  -- The invariant over the reads: the packets so far account for all that was written.
  refine runAll_induction
    (P := fun (done : List (Nat × Option ReadAnswer)) (now : Stream × List UInt8) =>
      ∃ payloads : List (List UInt8),
        done.filterMap (fun step => delivered? step.2) = payloads.map List.length ∧
          now.2 = payloads.foldl cover buffer) ?_ calls ⟨[], rfl, rfl⟩
  rintro done ⟨s, held⟩ polls ⟨payloads, sizes, holds⟩
  obtain ⟨written, unwritten⟩ := readCall_frames ⟨held, polls⟩ s
  rw [List.filterMap_append, sizes]
  cases size : delivered? (readInto polls (s, held)).1 with
  | none =>
    refine ⟨payloads, ?_, (unwritten fun n answer => ?_).trans holds⟩
    · simp only [List.filterMap_cons, size, List.filterMap_nil, List.append_nil]
    · cases size.symm.trans (delivered?_eq_some_iff.2 answer)
  | some n =>
    obtain ⟨-, payload, rfl, -, covered⟩ := written n (delivered?_eq_some_iff.1 size)
    refine ⟨payloads ++ [payload], ?_, ?_⟩
    · simp only [List.filterMap_cons, size, List.filterMap_nil, List.map_append, List.map_cons,
        List.map_nil]
    · rw [List.foldl_append, ← holds]
      exact covered

end Stream

end DatagramTunnel
