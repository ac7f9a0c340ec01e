import DatagramTunnel.Proofs.Writer.Flush

/-!
# Shutting down

The first shutdown that is polled closes the writer, whatever becomes of it. If it succeeds, the
outlet has been shut down, and nothing is left staged unless the writer is broken: `call_shutdown`.
If it is dropped, the outlet has not been shut down, and nobody will try again: on a closed writer
every call has its answer at once (`call_of_closed`), and for a shutdown the answer is success.
-/

namespace DatagramTunnel

namespace WriteSide

/-- Nothing is staged, unless the writer has given up a record. -/
def Clean (s : WriteSide) : Prop := s.writer.broken = false → s.writer.staged = []

/-- Two write sides that shutting down has brought equally far: the writer is closed in both or in
neither, and the outlet has been shut down as often. -/
structure SameClosing (s t : WriteSide) : Prop where
  closed : t.writer.closed = s.writer.closed
  shutdowns : t.outlet.shutdowns = s.outlet.shutdowns

theorem SameClosing.trans {s t u : WriteSide} (first : s.SameClosing t) (second : t.SameClosing u) :
    s.SameClosing u :=
  ⟨second.closed.trans first.closed, second.shutdowns.trans first.shutdowns⟩

end WriteSide

/-- Giving up a record closes nothing. -/
theorem Writer.closed_abandoned (w : Writer) : w.abandoned.closed = w.closed := by
  unfold abandoned
  split <;> rfl

namespace Writing

variable {w : Writing}

/-! ## Bringing a record to its end -/

/-- Settling does not shut anything down. -/
theorem settle_sameClosing (w : Writing) : w.side.SameClosing w.settle.2.side := by
  rw [side_settle]
  exact ⟨rfl, w.outlet.shutdowns_flush⟩

/-- Bringing a record to its end does not shut anything down. -/
theorem flush_sameClosing (w : Writing) : w.side.SameClosing w.flush.2.side := by
  have signals := (w.outlet.push_spec w.writer.unsent).signals
  simp only [Outlet.signals, Prod.mk.injEq] at signals
  obtain ⟨-, -, -, shutdowns⟩ := signals
  rw [flush_eq]
  generalize w.outlet.push w.writer.unsent = result at shutdowns ⊢
  obtain ⟨_ | unsent | ⟨unsent, cause⟩, outlet⟩ := result
  · have pushed : w.side.SameClosing ⟨w.writer, outlet⟩ := ⟨rfl, shutdowns⟩
    exact pushed.trans (settle_sameClosing { w with outlet })
  · exact ⟨rfl, shutdowns⟩
  · simp only [side_abandon]
    exact ⟨Writer.closed_abandoned _, shutdowns⟩

/-- A record that has been brought to its end is not staged any more. -/
theorem staged_of_flush_ok {w' : Writing} (h : w.flush = (.ready (.ok ()), w')) :
    w'.writer.staged = [] := by
  rw [flush_eq] at h
  split at h
  · next outlet pushed =>
    have settled := side_settle { w with outlet }
    rw [h] at settled
    rw [← writer_side, settled]
    rfl
  · simp at h
  · simp [abandon] at h

/-! ## Writing -/

/-- Writing does not shut anything down. -/
theorem send_sameClosing (payload : List UInt8) (w : Writing) :
    w.side.SameClosing (w.send payload).2.side := by
  have flushed := w.flush_sameClosing
  unfold send
  generalize w.flush = result at flushed ⊢
  obtain ⟨(_ | _) | _, w'⟩ := result <;> exact flushed

theorem begin_sameClosing (payload : List UInt8) (w : Writing) :
    w.side.SameClosing (w.begin payload).2.side := by
  have staged : w.side.SameClosing ⟨w.writer.stage payload, w.outlet⟩ := ⟨rfl, rfl⟩
  exact staged.trans (send_sameClosing payload { w with writer := w.writer.stage payload })

theorem finish_sameClosing (payload : List UInt8) (w : Writing) :
    w.side.SameClosing (w.finish payload).2.side := by
  have flushed := w.flush_sameClosing
  unfold finish
  generalize w.flush = result at flushed ⊢
  match result with
  | (.waiting (), _) => exact flushed
  | (.ready (.error _), _) => exact flushed
  | (.ready (.ok ()), w') => exact flushed.trans (begin_sameClosing payload w')

theorem pollWrite_sameClosing (payload : List UInt8) (stage : WriteStage) (w : Writing) :
    w.side.SameClosing (w.pollWrite payload stage).2.side := by
  cases stage with
  | starting =>
    simp only [pollWrite]
    split
    · exact ⟨rfl, rfl⟩
    · split
      · exact begin_sameClosing payload w
      · exact finish_sameClosing payload w
  | finishing => exact finish_sameClosing payload w
  | sending => exact send_sameClosing payload w

/-! ## Shutting down -/

/-- How far a shutdown has come that has been polled, when the outlet had been shut down `count`
times before it. -/
def ShutDown (count : Nat) : Progress ShutdownStage WriteAnswer → WriteSide → Prop
  | .waiting stage, s => s.writer.closed = true ∧ s.outlet.shutdowns = count ∧
      stage ≠ .starting ∧ (stage = .closing (.ok ()) → s.Clean)
  | .ready answer, s => s.writer.closed = true ∧
      (answer = .ok () → s.outlet.shutdowns = count + 1 ∧ s.Clean)

variable {count : Nat}

/-- Shutting the outlet down, when the writer is closed. -/
theorem close_shutDown (closed : w.writer.closed = true) (shutdowns : w.outlet.shutdowns = count)
    {finished : WriteAnswer} (clean : finished = .ok () → w.side.Clean) :
    ShutDown count (w.close finished).1 (w.close finished).2.side := by
  have counted := w.outlet.shutdowns_shutdown
  rw [shutdowns] at counted
  unfold close
  generalize w.outlet.shutdown = result at counted ⊢
  obtain ⟨_ | cause | _, outlet⟩ := result
  · exact ⟨closed, fun h => ⟨counted, clean h⟩⟩
  · refine ⟨closed, fun h => ?_⟩
    cases finished <;> simp at h
  · exact ⟨closed, counted, by simp, fun h => clean (by simpa using h)⟩

/-- Bringing the staged record to its end and shutting the outlet down. -/
theorem finishAndClose_shutDown (closed : w.writer.closed = true)
    (shutdowns : w.outlet.shutdowns = count) :
    ShutDown count w.finishAndClose.1 w.finishAndClose.2.side := by
  have flushed := w.flush_sameClosing
  have empty w' (h : w.flush = (.ready (.ok ()), w')) := staged_of_flush_ok h
  unfold finishAndClose
  generalize w.flush = result at flushed empty ⊢
  obtain ⟨finished | _, w'⟩ := result
  · refine close_shutDown (flushed.closed.trans closed) (flushed.shutdowns.trans shutdowns) ?_
    -- The record is known to be gone only if the flush succeeded.
    rintro rfl
    exact fun _ => empty w' rfl
  · exact ⟨flushed.closed.trans closed, flushed.shutdowns.trans shutdowns, by simp, by simp⟩

/-- **The first poll of a shutdown** closes the writer. -/
theorem startShutdown_shutDown (opened : w.writer.closed = false)
    (shutdowns : w.outlet.shutdowns = count) :
    ShutDown count w.startShutdown.1 w.startShutdown.2.side := by
  unfold startShutdown
  rw [if_neg (by simp [opened])]
  simp only
  split
  · exact finishAndClose_shutDown (w := { w with writer := { w.writer with closed := true } }) rfl
      shutdowns
  · next none_to_finish =>
    refine close_shutDown (w := { w with writer := { w.writer with closed := true } }) rfl
      shutdowns ?_
    -- Nothing was finished, so either nothing is staged or the writer is broken.
    rintro - unbroken
    have unbroken : w.writer.broken = false := unbroken
    simpa [unbroken] using none_to_finish

/-- **Every later poll of a shutdown.** -/
theorem pollShutdown_shutDown (announcement : Note) {stage : ShutdownStage}
    (h : ShutDown count (.waiting stage) w.side) :
    ShutDown count (w.pollShutdown announcement stage).1
      (w.pollShutdown announcement stage).2.side := by
  obtain ⟨closed, shutdowns, begun, clean⟩ := h
  cases stage with
  | starting => exact absurd rfl begun
  | finishing => exact finishAndClose_shutDown closed shutdowns
  | closing finished => exact close_shutDown closed shutdowns fun h => clean (by rw [h])

end Writing

/-! ## Calls -/

/-- The answer to a call on a closed writer, of which there is one unless the call is never polled:
a write is refused, and a shutdown is said to have succeeded. -/
def WriteCall.answerWhenClosed : WriteCall → Option WriteAnswer
  | .write _ 0 | .shutdown 0 => none
  | .write _ (_ + 1) => some (.error .closed)
  | .shutdown (_ + 1) => some (.ok ())

namespace WriteSide

variable {s : WriteSide}

/-- **A call on a closed writer** has its answer at once, and changes nothing. -/
theorem call_of_closed (closed : s.writer.closed = true) (announcement : Note) (c : WriteCall) :
    s.call announcement c = (c.answerWhenClosed, s) := by
  cases c with
  | write payload polls =>
    cases polls with
    | zero => rfl
    | succ polls =>
      simp [call, Writing.call, drive, Writing.pollWrite, Writer.refusal?, closed,
        WriteCall.answerWhenClosed]
  | shutdown polls =>
    cases polls with
    | zero => rfl
    | succ polls =>
      simp [call, Writing.call, drive, Writing.pollShutdown, Writing.startShutdown, closed,
        WriteCall.answerWhenClosed]

/-- A write does not shut anything down. -/
theorem call_write_sameClosing (s : WriteSide) (announcement : Note) (payload : List UInt8)
    (polls : Nat) : s.SameClosing (s.call announcement (.write payload polls)).2 := by
  exact drive_keeps (R := fun (w w' : Writing) => w.side.SameClosing w'.side)
    (fun _ => ⟨rfl, rfl⟩) (fun _ _ _ => SameClosing.trans)
    (fun stage w => w.pollWrite_sameClosing payload stage) polls .starting
    ⟨s.writer, s.outlet, []⟩

/-- What a shutdown that is polled leaves behind, when the outlet had been shut down `count` times
before it. -/
structure AfterShutdown (count : Nat) (answer : Option WriteAnswer) (s : WriteSide) : Prop where
  closed : s.writer.closed = true
  dropped : answer = none → s.outlet.shutdowns = count
  succeeded : answer = some (.ok ()) → s.outlet.shutdowns = count + 1 ∧ s.Clean

/-- The polls after the first. -/
theorem afterShutdown_drive {count : Nat} (announcement : Note) (polls : Nat)
    {stage : Writing.ShutdownStage} {w : Writing}
    (h : Writing.ShutDown count (.waiting stage) w.side) :
    let driven := drive (Writing.pollShutdown announcement) polls stage w
    AfterShutdown count driven.1 driven.2.side := by
  refine drive_induction
    (I := fun stage (w : Writing) => Writing.ShutDown count (.waiting stage) w.side)
    (Q := fun answer (w : Writing) => AfterShutdown count answer w.side) ?_ ?_ ?_ polls stage w h
  · rintro stage w ⟨closed, shutdowns, -⟩
    exact ⟨closed, fun _ => shutdowns, by simp⟩
  · intro stage w answer w' shutDown polled
    have goes := Writing.pollShutdown_shutDown announcement shutDown
    rw [polled] at goes
    obtain ⟨closed, success⟩ := goes
    exact ⟨closed, by simp, fun h => success (Option.some.inj h)⟩
  · intro stage w stage' w' shutDown polled
    have goes := Writing.pollShutdown_shutDown announcement shutDown
    rwa [polled] at goes

/-- **A shutdown that is polled** closes the writer. If it is dropped, the outlet has not been shut
down; if it succeeds, the outlet has been shut down once, and nothing is left staged unless the
writer is broken. -/
theorem call_shutdown (opened : s.writer.closed = false) (announcement : Note) (polls : Nat) :
    let result := s.call announcement (.shutdown (polls + 1))
    AfterShutdown s.outlet.shutdowns result.1 result.2 := by
  have first := Writing.startShutdown_shutDown
    (w := ⟨s.writer, s.outlet, [] ++ [announcement]⟩) opened rfl
  simp only [call, Writing.call, drive, Writing.pollShutdown]
  split
  · next answer w begun =>
    rw [begun] at first
    obtain ⟨closed, success⟩ := first
    exact ⟨closed, by simp, fun h => success (Option.some.inj h)⟩
  · next stage w begun =>
    rw [begun] at first
    exact afterShutdown_drive announcement polls first

end WriteSide

end DatagramTunnel
