import DatagramTunnel.Proofs.Records
import DatagramTunnel.Proofs.Sides
import DatagramTunnel.Proofs.Transport.Push

/-!
# Bringing a staged record to its end

`Writing.flush` is the loop of `Outlet.push` with the writer's staged record; `flush_eq` says so.
Between polls a writer stands in one of two ways towards the bytes that the outlet has taken:
it stages a record of which a first part is taken (`WriteSide.Staging`, also for no record at all),
or it has given up a record after a part (`WriteSide.Torn`). `flush_of_staging` says how a flush
leads from one to the other.
-/

namespace DatagramTunnel

/-- A writer of whose staged record these bytes are still to be taken. -/
def Writer.leaving (w : Writer) (unsent : List UInt8) : Writer :=
  { w with sent := w.staged.take (w.staged.length - unsent.length), unsent }

/-- What is left is a last part of what was unsent, and the rest of it counts as sent. -/
theorem Writer.leaving_of_unsent {w : Writer} {sent unsent : List UInt8}
    (h : w.unsent = sent ++ unsent) :
    w.leaving unsent = { w with sent := w.sent ++ sent, unsent } := by
  have cut : w.staged = (w.sent ++ sent) ++ unsent := by rw [staged, h, List.append_assoc]
  rw [leaving, cut, List.length_append, Nat.add_sub_cancel, List.take_left']
  rfl

theorem Writer.leaving_unsent (w : Writer) : w.leaving w.unsent = w := by
  rw [leaving_of_unsent (List.nil_append _).symm, List.append_nil]

theorem Writer.staged_advance (w : Writer) (count : Nat) : (w.advance count).staged = w.staged := by
  simp only [staged, advance, List.append_assoc, List.take_append_drop]

theorem Writer.leaving_advance (w : Writer) (count : Nat) (unsent : List UInt8) :
    (w.advance count).leaving unsent = w.leaving unsent := by
  simp only [leaving, staged_advance]
  rfl

/-- A writer that has given up its staged record: broken, if a part of it is taken. -/
def Writer.abandoned (w : Writer) : Writer :=
  if w.sent = [] then w.clear else { w.clear with broken := true }

namespace Writing

/-- A writer at work, without its log. -/
def side (w : Writing) : WriteSide := ⟨w.writer, w.outlet⟩

@[simp] theorem writer_side (w : Writing) : w.side.writer = w.writer := rfl

@[simp] theorem outlet_side (w : Writing) : w.side.outlet = w.outlet := rfl

/-- **A flush offers what is unsent until all is taken.** Only then is the outlet flushed. -/
theorem flush_eq (w : Writing) : w.flush = match w.outlet.push w.writer.unsent with
    | (.whole, outlet) => settle { w with outlet }
    | (.waiting unsent, outlet) =>
      (.waiting (), { w with outlet, writer := w.writer.leaving unsent })
    | (.refused unsent cause, outlet) =>
      let (answer, w) :=
        abandon { w with outlet, writer := w.writer.leaving unsent } (cause.getD .recordNotTaken)
      (.ready answer, w) := by
  -- The induction is on the requests that take some of the bytes. What is sent is counted from the
  -- end of the staged record, which no request changes.
  fun_induction flush w with
  | case1 w empty => rw [List.isEmpty_iff.1 empty, Outlet.push]
  | case2 w some_left outlet write =>
    rw [Outlet.push_of_some (mt List.isEmpty_iff.2 some_left), write]
    simp only [Writer.leaving_unsent]
  | case3 w some_left cause outlet write answer w' gave_up =>
    rw [Outlet.push_of_some (mt List.isEmpty_iff.2 some_left), write]
    simp only [Writer.leaving_unsent, Option.getD_some, gave_up]
  | case4 w some_left outlet write answer w' gave_up =>
    rw [Outlet.push_of_some (mt List.isEmpty_iff.2 some_left), write]
    simp only [Writer.leaving_unsent, Option.getD_none, gave_up]
  | case5 w some_left count outlet write ih =>
    rw [ih, Outlet.push_of_some (mt List.isEmpty_iff.2 some_left), write]
    simp only [Writer.leaving_advance]
    rfl

/-- Settling clears the writer, whatever the outlet says. -/
theorem side_settle (w : Writing) : w.settle.2.side = ⟨w.writer.clear, w.outlet.flush.2⟩ := by
  simp only [settle]
  rcases w.outlet.flush with ⟨_ | cause | _, outlet⟩ <;> rfl

/-- Giving up a record is the same for every cause. -/
theorem side_abandon (w : Writing) (cause : Failure) :
    (w.abandon cause).2.side = ⟨w.writer.abandoned, w.outlet⟩ := by
  by_cases untouched : w.writer.sent = [] <;> simp [abandon, Writer.abandoned, side, untouched]

end Writing

/-! ## Where a writer stands -/

namespace WriteSide

/-- Since `start`, the outlet has taken `base` and the sent part of the staged record, which is not
all of it; with an empty record, nothing is staged. A refusal was the last that was heard only if
nothing is sent. -/
structure Staging (start : Outlet) (base record : List UInt8) (s : WriteSide) : Prop where
  unbroken : s.writer.broken = false
  bounded : s.writer.limit ≤ maxPayloadSize
  staged : s.writer.staged = record
  left : s.writer.unsent = [] → record = []
  accepted : s.outlet.accepted = start.accepted ++ base ++ s.writer.sent
  asked : ∃ used, start.intakes = used ++ s.outlet.intakes ∧
    (lastRefuses used = true → s.writer.sent = [])

/-- Since `start`, the outlet has taken `base` and a part of a record that was given up. A refusal
was the last that was heard. -/
structure Torn (start : Outlet) (base record : List UInt8) (s : WriteSide) : Prop where
  broken : s.writer.broken = true
  bounded : s.writer.limit ≤ maxPayloadSize
  unstaged : s.writer.staged = []
  accepted : ∃ part, Record.ProperPart part record ∧
    s.outlet.accepted = start.accepted ++ base ++ part
  asked : ∃ used, start.intakes = used ++ s.outlet.intakes ∧ lastRefuses used = true

/-- Two write sides with the same wire: they differ at most in whether the writer is closed, and in
what the outlet says to a flush or a shutdown. -/
structure SameWire (s t : WriteSide) : Prop where
  writer : { t.writer with closed := s.writer.closed } = s.writer
  accepted : t.outlet.accepted = s.outlet.accepted
  intakes : t.outlet.intakes = s.outlet.intakes

variable {start : Outlet} {base record : List UInt8} {s t : WriteSide}

theorem Staging.of_same (h : s.Staging start base record) (same : s.SameWire t) :
    t.Staging start base record := by
  obtain ⟨writer, accepted, intakes⟩ := same
  obtain ⟨unbroken, bounded, staged, left, taken, asked⟩ := h
  rw [← writer] at unbroken bounded staged left taken asked
  rw [← accepted] at taken
  rw [← intakes] at asked
  exact ⟨unbroken, bounded, staged, left, taken, asked⟩

theorem Torn.of_same (h : s.Torn start base record) (same : s.SameWire t) :
    t.Torn start base record := by
  obtain ⟨writer, accepted, intakes⟩ := same
  obtain ⟨broken, bounded, unstaged, taken, asked⟩ := h
  rw [← writer] at broken bounded unstaged
  rw [← accepted] at taken
  rw [← intakes] at asked
  exact ⟨broken, bounded, unstaged, taken, asked⟩

/-- With nothing staged, no part of a record is on its way. -/
theorem Staging.sent_eq_nil (h : s.Staging start base []) : s.writer.sent = [] :=
  (List.append_eq_nil_iff.1 h.staged).1

/-- With nothing staged, the outlet has taken no more than `base`. -/
theorem Staging.accepted_of_idle (idle : s.Staging start base []) :
    s.outlet.accepted = start.accepted ++ base := by
  rw [idle.accepted, idle.sent_eq_nil, List.append_nil]

/-- A record that is staged behind complete ones. -/
theorem Staging.stage (idle : s.Staging start base []) (payload : List UInt8) :
    WriteSide.Staging start base (Record.encode payload) ⟨s.writer.stage payload, s.outlet⟩ := by
  obtain ⟨used, asked, -⟩ := idle.asked
  exact ⟨idle.unbroken, idle.bounded, rfl,
    fun nothing => absurd nothing (Record.encode_ne_nil payload),
    idle.accepted_of_idle.trans (List.append_nil _).symm, used, asked, fun _ => rfl⟩

/-- How a flush ends that began with a record staged behind `base`. -/
def Landed (start : Outlet) (base record : List UInt8) :
    Progress Unit WriteAnswer → WriteSide → Prop
  | .waiting (), s => s.Staging start base record ∨ s.Staging start (base ++ record) []
  | .ready (.ok ()), s => s.Staging start (base ++ record) []
  | .ready (.error _), s => s.Staging start base [] ∨ s.Staging start (base ++ record) [] ∨
    s.Torn start base record

/-- Every flush may end with the record complete. -/
theorem Landed.of_complete (complete : s.Staging start (base ++ record) [])
    (progress : Progress Unit WriteAnswer) : Landed start base record progress s := by
  match progress with
  | .waiting () => exact Or.inr complete
  | .ready (.ok ()) => exact complete
  | .ready (.error _) => exact Or.inr (Or.inl complete)

end WriteSide

namespace Writing

variable {start : Outlet} {base record : List UInt8} {w : Writing}

/-- With all of the record taken, nothing is staged any more. -/
theorem settle_staging (unbroken : w.writer.broken = false)
    (bounded : w.writer.limit ≤ maxPayloadSize)
    (accepted : w.outlet.accepted = start.accepted ++ base)
    (asked : ∃ used, start.intakes = used ++ w.outlet.intakes) :
    w.settle.2.side.Staging start base [] := by
  rw [side_settle]
  obtain ⟨used, intakes⟩ := asked
  obtain ⟨accepted_eq, intakes_eq⟩ := w.outlet.flush_keeps
  exact ⟨unbroken, bounded, rfl, fun _ => rfl, by simp [accepted_eq, accepted, Writer.clear],
    used, by rw [intakes, intakes_eq], fun _ => rfl⟩

/-- A record that is refused is given up without a trace before its first byte is taken, and torn
after that. -/
theorem abandon_staging (unbroken : w.writer.broken = false)
    (bounded : w.writer.limit ≤ maxPayloadSize) (some_left : w.writer.unsent ≠ [])
    (accepted : w.outlet.accepted = start.accepted ++ base ++ w.writer.sent)
    (asked : ∃ used, start.intakes = used ++ w.outlet.intakes ∧ lastRefuses used = true)
    (cause : Failure) :
    (w.abandon cause).2.side.Staging start base [] ∨
      (w.abandon cause).2.side.Torn start base w.writer.staged := by
  rw [side_abandon, Writer.abandoned]
  by_cases untouched : w.writer.sent = []
  · -- Nothing was taken since `base`, so the record leaves no trace.
    left
    rw [if_pos untouched]
    obtain ⟨used, intakes, -⟩ := asked
    exact ⟨unbroken, bounded, rfl, fun _ => rfl, by simp [accepted, untouched, Writer.clear],
      used, intakes, fun _ => rfl⟩
  · -- A part was taken, and some is left: this is what tears a record.
    right
    rw [if_neg untouched]
    exact ⟨rfl, bounded, rfl, ⟨_, ⟨untouched, _, some_left, rfl⟩, accepted⟩, asked⟩

/-- **How a flush ends.** It completes the staged record, or gives it up, or waits with it. -/
theorem flush_of_staging (staging : w.side.Staging start base record) :
    WriteSide.Landed start base record w.flush.1 w.flush.2.side := by
  obtain ⟨unbroken, bounded, rfl, -, accepted, used, asked, -⟩ := staging
  obtain ⟨-, ⟨sent, offered, taken⟩, left, more, stop, intakes, reason⟩ :=
    w.outlet.push_spec w.writer.unsent
  have accepted_all : (w.outlet.push w.writer.unsent).2.accepted =
      start.accepted ++ base ++ (w.writer.sent ++ sent) := by
    rw [taken, ← outlet_side, accepted, List.append_assoc, writer_side]
  have asked_all : start.intakes =
      used ++ more ++ stop ++ (w.outlet.push w.writer.unsent).2.intakes := by
    rw [asked, outlet_side, intakes, List.append_assoc, List.append_assoc, List.append_assoc]
  have flushed := w.flush_eq
  rcases push : w.outlet.push w.writer.unsent with ⟨_ | unsent | ⟨unsent, cause⟩, outlet⟩ <;>
    rw [push] at flushed offered left accepted_all asked_all reason <;>
    simp only [Pushed.unsent, List.append_nil] at flushed offered left accepted_all <;>
    simp only [Pushed.StopsAt] at reason <;>
    rw [flushed]
  · -- All of the record is taken.
    have taken_all : outlet.accepted = start.accepted ++ (base ++ w.writer.staged) := by
      rw [accepted_all, Writer.staged, offered, List.append_assoc]
    exact .of_complete
      (settle_staging (w := { w with outlet }) unbroken bounded taken_all ⟨_, asked_all⟩) _
  · -- The outlet made the writer wait, so it has not refused since.
    have some_left : unsent ≠ [] := by simpa using left
    left
    rw [Writer.leaving_of_unsent offered]
    refine ⟨unbroken, bounded, ?_, fun none_left => absurd none_left some_left, accepted_all, _,
      asked_all, ?_⟩
    · simp [Writer.staged, side, offered]
    · intro refused
      simp [reason, lastRefuses, Intake.refuses] at refused
  · -- The outlet refused. Whether the record is torn depends on what it took before, in this poll
    -- or an earlier one.
    have some_left : unsent ≠ [] := by simpa using left
    obtain ⟨last, rfl, refuses⟩ := reason
    have staged : w.side.writer.staged = w.writer.sent ++ sent ++ unsent := by
      rw [writer_side, Writer.staged, offered, List.append_assoc]
    rw [Writer.leaving_of_unsent offered, staged]
    rcases abandon_staging
        (w := { w with outlet, writer := { w.writer with sent := w.writer.sent ++ sent, unsent } })
        unbroken bounded some_left accepted_all ⟨_, asked_all, by rw [lastRefuses_concat, refuses]⟩
        (cause.getD .recordNotTaken) with dropped | torn
    · exact Or.inl dropped
    · exact Or.inr (Or.inr torn)

end Writing

end DatagramTunnel
