import DatagramTunnel.Proofs.Writer.Flush

/-!
# Writes to an outlet that takes everything

With an outlet that never makes it wait and never refuses, every call has its answer at its first
poll: a payload that is not too long is written at once (`Free.write`), and the outlet is shut down
at once (`Free.shutdown`).
-/

namespace DatagramTunnel

/-- An outlet that takes everything takes all that it is offered at once. -/
theorem Outlet.push_of_free {o : Outlet} (free : o.intakes = []) (bytes : List UInt8) :
    o.push bytes = (.whole, { o with accepted := o.accepted ++ bytes }) := by
  cases bytes with
  | nil => rw [push, List.append_nil]
  | cons b bs =>
    have all : o.write (b :: bs) =
        (.done (bs.length + 1), { o with accepted := o.accepted ++ (b :: bs) }) := by
      simp [write, free, accept]
    rw [push, all]
    simp only [List.drop_length]
    rw [push]

/-- The answer to a write of a payload when only its length can be wrong. -/
def answerTo (limit : Nat) (payload : List UInt8) : WriteAnswer :=
  if payload.length ≤ limit then .ok () else .error (.packetTooLarge payload.length limit)

/-- The payloads that are not too long. -/
def sendable (limit : Nat) (payloads : List (List UInt8)) : List (List UInt8) :=
  payloads.filter fun payload => payload.length ≤ limit

namespace WriteSide

/-- A writer between two calls with an outlet that takes everything, and has taken `bytes`. -/
structure Free (limit : Nat) (bytes : List UInt8) (s : WriteSide) : Prop where
  writer : s.writer = { limit }
  intakes : s.outlet.intakes = []
  flushSignals : s.outlet.flushSignals = []
  shutdownSignals : s.outlet.shutdownSignals = []
  accepted : s.outlet.accepted = bytes

variable {limit : Nat} {bytes : List UInt8} {s : WriteSide}

/-- Bringing a staged record to its end. -/
theorem flush_of_free {w : Writing} (intakes : w.outlet.intakes = [])
    (flushSignals : w.outlet.flushSignals = []) :
    w.flush = (.ready (.ok ()), { w with
      writer := w.writer.clear
      outlet := { w.outlet with
        accepted := w.outlet.accepted ++ w.writer.unsent, flushes := w.outlet.flushes + 1 } }) := by
  rw [Writing.flush_eq, Outlet.push_of_free intakes]
  simp only [Writing.settle, Outlet.flush, flushSignals]

/-- **A write** is answered at once. -/
theorem Free.write (free : s.Free limit bytes) (announcement : Note) (payload : List UInt8) :
    (s.call announcement (.write payload 1)).1 = some (answerTo limit payload) ∧
      (s.call announcement (.write payload 1)).2.Free limit
        (bytes ++ Record.encodeAll (sendable limit [payload])) := by
  obtain ⟨writer, outlet⟩ := s
  obtain ⟨rfl, intakes, flushSignals, shutdownSignals, rfl⟩ := free
  by_cases short : payload.length ≤ limit
  · -- The record is staged, taken and flushed in the one poll.
    have no_refusal : Writer.refusal? { limit } payload = none := by
      simp [Writer.refusal?, Nat.not_lt.2 short]
    have flushed := flush_of_free (w := ⟨Writer.stage { limit } payload, outlet, []⟩) intakes
      flushSignals
    have call : WriteSide.call announcement (.write payload 1) ⟨{ limit }, outlet⟩ =
        (some (.ok ()), ⟨{ limit }, { outlet with
          accepted := outlet.accepted ++ Record.encode payload
          flushes := outlet.flushes + 1 }⟩) := by
      simp only [WriteSide.call, Writing.call, drive, Writing.pollWrite, no_refusal, Writer.staged,
        List.append_nil, List.isEmpty_nil, if_true, Writing.begin, Writing.send, flushed]
      rfl
    rw [call]
    refine ⟨by rw [answerTo, if_pos short], rfl, intakes, flushSignals, shutdownSignals, ?_⟩
    simp [sendable, short]
  · have refusal : Writer.refusal? { limit } payload =
        some (.packetTooLarge payload.length limit) := by
      simp [Writer.refusal?, Nat.lt_of_not_le short]
    have call : WriteSide.call announcement (.write payload 1) ⟨{ limit }, outlet⟩ =
        (some (answerTo limit payload), ⟨{ limit }, outlet⟩) := by
      simp only [WriteSide.call, Writing.call, drive, Writing.pollWrite, refusal, answerTo,
        if_neg short]
    rw [call]
    refine ⟨rfl, rfl, intakes, flushSignals, shutdownSignals, ?_⟩
    simp [sendable, short]

/-- **A shutdown** is answered at once, and takes no byte. -/
theorem Free.shutdown (free : s.Free limit bytes) (announcement : Note) :
    (s.call announcement (.shutdown 1)).1 = some (.ok ()) ∧
      (s.call announcement (.shutdown 1)).2.outlet.accepted = bytes := by
  obtain ⟨writer, outlet⟩ := s
  obtain ⟨rfl, intakes, flushSignals, shutdownSignals, rfl⟩ := free
  have signals : outlet.shutdownSignals = [] := shutdownSignals
  have call : WriteSide.call announcement (.shutdown 1) ⟨{ limit }, outlet⟩ =
      (some (.ok ()), ⟨{ limit, closed := true }, { outlet with
        shutdowns := outlet.shutdowns + 1 }⟩) := by
    simp [WriteSide.call, Writing.call, drive, Writing.pollShutdown, Writing.startShutdown,
      Writer.staged, Writing.close, Outlet.shutdown, signals]
  rw [call]
  exact ⟨rfl, rfl⟩

end WriteSide

end DatagramTunnel
