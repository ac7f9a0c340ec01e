import DatagramTunnel.Proofs.Writer.Finishing
import Mathlib.Logic.ExistsUnique

/-!
# What a failed write leaves behind

A write can fail while it brings the record of an earlier, dropped call to its end, or while it does
so with its own, and then in a write or in a flush of the outlet. `Aftermath` lists what can be on
the wire afterwards. `flush_brings` says how one poll goes on with a record, `pollWrite_asked` how
far it brings a write, and `failed_write_leaves` draws the conclusion for every writer that calls
can leave behind.
-/

namespace DatagramTunnel

/-- What a write can leave behind that has failed. -/
inductive Aftermath where
  /-- The writer is broken, and a part of one record is on the wire. -/
  | torn
  /-- No byte of the payload's record is on the wire. -/
  | untouched
  /-- All of the payload's record is on the wire, and only the flush has failed. -/
  | complete

/-- The aftermath of a write of a payload that began at `s`, behind the bytes `before` and what `s`
had staged, and failed in these exchanges, which led to `t`. -/
def Aftermath.Holds (before : List UInt8) (s : WriteSide) (payload : List UInt8) (cause : Failure)
    (exchanges : List Exchange) (t : WriteSide) : Aftermath → Prop
  | .torn => t.writer.broken = true ∧
      ((∃ part left, Record.ProperPart part s.writer.staged ∧ t.outlet.accepted = before ++ part ∧
          Finishing s.writer.unsent exchanges left) ∨
        ∃ part, Record.ProperPart part (Record.encode payload) ∧
          t.outlet.accepted = before ++ s.writer.staged ++ part)
  | .untouched => t.writer.broken = false ∧
      (t.outlet.accepted = before ∨ t.outlet.accepted = before ++ s.writer.staged)
  | .complete => t.writer.broken = false ∧
      t.outlet.accepted = before ++ s.writer.staged ++ Record.encode payload ∧
      exchanges.getLast? = some (.flush (.failed cause))

/-- A failed write has one aftermath: a record that is not on the wire is not on it in full. -/
theorem Aftermath.Holds.unique {before payload : List UInt8} {s t : WriteSide} {cause : Failure}
    {exchanges : List Exchange} {a b : Aftermath} (ha : a.Holds before s payload cause exchanges t)
    (hb : b.Holds before s payload cause exchanges t) : a = b := by
  have not_both (untouched : Aftermath.untouched.Holds before s payload cause exchanges t)
      (complete : Aftermath.complete.Holds before s payload cause exchanges t) : False := by
    obtain ⟨-, accepted | accepted⟩ := untouched <;>
    · have lengths := congrArg List.length (accepted.symm.trans complete.2.1)
      -- A record has at least its two length bytes, so the wire cannot end in front of it and
      -- behind it.
      simp only [List.length_append, Record.length_encode, Record.lengthSize] at lengths
      omega
  have not_broken {u : Aftermath} (torn : Aftermath.torn.Holds before s payload cause exchanges t)
      (unbroken : t.writer.broken = false) : u = .torn := by
    simp [torn.1] at unbroken
  -- Two different aftermaths disagree on whether the writer is broken, or on how much was taken.
  cases a <;> cases b
  case torn.torn | untouched.untouched | complete.complete => rfl
  case torn.untouched | torn.complete => exact (not_broken ha hb.1).symm
  case untouched.torn | complete.torn => exact not_broken hb ha.1
  case untouched.complete => exact (not_both ha hb).elim
  case complete.untouched => exact (not_both hb ha).elim

variable {start : Outlet} {base record payload : List UInt8} {s t : WriteSide} {w : Writing}

/-! ## Bringing one record to its end -/

namespace WriteSide

/-- Since `start`, the outlet has taken `base`, and then a record is being brought to its end: it is
staged, or all of it is taken. -/
def Bringing (start : Outlet) (base record : List UInt8) (s : WriteSide) : Prop :=
  s.Staging start base record ∨ s.Staging start (base ++ record) []

/-- Since `start`, the outlet has taken `base`, and then a first part of these bytes. -/
def Along (start : Outlet) (base bytes : List UInt8) (s : WriteSide) : Prop :=
  ∃ part, part <+: bytes ∧ s.outlet.accepted = start.accepted ++ base ++ part

theorem Staging.along_of_idle (idle : s.Staging start base []) (bytes : List UInt8) :
    s.Along start base bytes :=
  ⟨[], List.nil_prefix, idle.accepted_of_idle.trans (List.append_nil _).symm⟩

/-- What is unsent completes the record. -/
theorem Bringing.accepted_append (bringing : s.Bringing start base record) :
    s.outlet.accepted ++ s.writer.unsent = start.accepted ++ base ++ record := by
  rcases bringing with staging | idle
  · rw [staging.accepted, List.append_assoc, ← Writer.staged, staging.staged]
  · have unsent : s.writer.unsent = [] := (List.append_eq_nil_iff.1 idle.staged).2
    rw [idle.accepted_of_idle, unsent, List.append_nil, List.append_assoc]

/-- A record that is being brought to its end is on the wire up to some point. -/
theorem Bringing.along (bringing : s.Bringing start base record) (more : List UInt8) :
    s.Along start base (record ++ more) := by
  rcases bringing with staging | idle
  · refine ⟨s.writer.sent, ?_, staging.accepted⟩
    rw [← staging.staged, Writer.staged, List.append_assoc]
    exact List.prefix_append _ _
  · exact ⟨record, List.prefix_append _ _, by rw [idle.accepted_of_idle, List.append_assoc]⟩

theorem Torn.along (torn : s.Torn start base record) (more : List UInt8) :
    s.Along start base (record ++ more) := by
  obtain ⟨part, ⟨-, rest, -, rfl⟩, accepted⟩ := torn.accepted
  exact ⟨part, by rw [List.append_assoc]; exact List.prefix_append _ _, accepted⟩

/-- Bytes in front can be counted among those that come later. -/
theorem Along.behind {bytes : List UInt8} (along : s.Along start (base ++ record) bytes) :
    s.Along start base (record ++ bytes) := by
  obtain ⟨part, front, accepted⟩ := along
  refine ⟨record ++ part, (List.prefix_append_right_inj record).2 front, ?_⟩
  rw [accepted, List.append_assoc, List.append_assoc, List.append_assoc]

end WriteSide

namespace Writing

/-- How a flush ends that goes on with a record. -/
theorem flush_of_bringing (bringing : w.side.Bringing start base record) :
    WriteSide.Landed start base record w.flush.1 w.flush.2.side := by
  rcases bringing with staging | idle
  · exact flush_of_staging staging
  · exact .of_complete (flush_of_staging idle).of_nothing _

/-- How one poll ends that goes on with a record, in the exchanges `xs`. If it fails, the record is
given up without a trace or after a part, or it is complete, and then the flush was asked for last
and has failed. -/
def Brought (start : Outlet) (base record unsent : List UInt8) (xs : List Exchange) :
    Progress Unit WriteAnswer → WriteSide → Prop
  | .waiting (), t => t.Bringing start base record ∧ Finishing unsent xs t.writer.unsent ∧
      firstFailure xs = none
  | .ready (.ok ()), t => t.Staging start (base ++ record) []
  | .ready (.error e), t => ∃ cause, e = .io cause ∧ (∃ left, Finishing unsent xs left) ∧
      (t.Staging start base [] ∨
        (t.Staging start (base ++ record) [] ∧ xs.getLast? = some (.flush (.failed cause))) ∨
        t.Torn start base record)

/-- **How one poll goes on with a record.** -/
theorem flush_brings (bringing : w.side.Bringing start base record) :
    ∃ xs, w.outlet.Serves xs w.flush.2.outlet ∧
      Brought start base record w.writer.unsent xs w.flush.1 w.flush.2.side := by
  have landed := flush_of_bringing bringing
  obtain ⟨xs, left, serves, finishing, told⟩ := w.flush_serves
  refine ⟨xs, serves, ?_⟩
  generalize w.flush = result at landed serves told ⊢
  -- Where the record stands and what the exchanges were is known of each result on its own.
  match result, landed, told with
  | (.waiting (), w'), bringing', ⟨smooth, _, rest⟩ =>
    exact ⟨bringing', by rw [writer_side, rest]; exact finishing, smooth⟩
  | (.ready (.ok ()), w'), complete, _ => exact complete
  | (.ready (.error e), w'), landed, ⟨told, _⟩ =>
    obtain ⟨cause, first, rfl⟩ := answerOf_eq_error_iff.1 told.symm
    refine ⟨cause, rfl, ⟨left, finishing⟩, landed.imp_right (.imp_left fun complete => ?_)⟩
    -- The outlet has taken all that was unsent, so the flush is what failed.
    obtain ⟨taken, cut, accepted⟩ := finishing.accepted serves
    have same_wire : w.outlet.accepted ++ taken = w.outlet.accepted ++ (taken ++ left) := by
      calc w.outlet.accepted ++ taken
          = w'.outlet.accepted := accepted.symm
        _ = start.accepted ++ base ++ record := by
          rw [← outlet_side, complete.accepted_of_idle, List.append_assoc]
        _ = w.outlet.accepted ++ w.writer.unsent := bringing.accepted_append.symm
        _ = w.outlet.accepted ++ (taken ++ left) := by rw [cut]
    have none_left : left = [] := List.self_eq_append_right.1 (List.append_cancel_left same_wire)
    exact ⟨complete, finishing.flush_of_failure first none_left⟩

end Writing

/-! ## Writing -/

/-- What a write leaves behind that began at `s` and failed. -/
structure FailedWrite (before : List UInt8) (s : WriteSide) (payload : List UInt8) (cause : Failure)
    (t : WriteSide) : Prop where
  unstaged : t.writer.staged = []
  told : ∃ exchanges, s.outlet.Serves exchanges t.outlet ∧
    ∃ aftermath : Aftermath, aftermath.Holds before s payload cause exchanges t

/-- Where a write stands that began at `s` and waits in a stage. -/
def WriteAsked (start : Outlet) (base : List UInt8) (s : WriteSide) (payload : List UInt8) :
    Writing.WriteStage → WriteSide → Prop
  | .starting, t => t = s
  | .finishing, t => ∃ xs, s.outlet.Serves xs t.outlet ∧
      Finishing s.writer.unsent xs t.writer.unsent ∧ firstFailure xs = none ∧
      t.Bringing start base s.writer.staged
  | .sending, t => ∃ xs, s.outlet.Serves xs t.outlet ∧
      t.Bringing start (base ++ s.writer.staged) (Record.encode payload)

/-- Where a write leads that began at `s`, when it is dropped or has its answer. -/
structure WriteEnds (start : Outlet) (base : List UInt8) (s : WriteSide) (payload : List UInt8)
    (answer : Option WriteAnswer) (t : WriteSide) : Prop where
  along : t.Along start base (s.writer.staged ++ Record.encode payload)
  failed : ∀ cause, answer = some (.error (.io cause)) →
    FailedWrite (start.accepted ++ base) s payload cause t

/-- How far a poll brings a write that began at `s`. -/
def WritePolled (start : Outlet) (base : List UInt8) (s : WriteSide) (payload : List UInt8) :
    Progress Writing.WriteStage WriteAnswer → WriteSide → Prop
  | .waiting stage, t => WriteAsked start base s payload stage t
  | .ready answer, t => WriteEnds start base s payload (some answer) t

namespace WriteEnds

/-- A write that has failed, by what it leaves behind. -/
theorem of_failed (aftermath : Aftermath) {xs : List Exchange} {cause : Failure}
    (along : t.Along start base (s.writer.staged ++ Record.encode payload))
    (unstaged : t.writer.staged = []) (serves : s.outlet.Serves xs t.outlet)
    (holds : aftermath.Holds (start.accepted ++ base) s payload cause xs t) :
    WriteEnds start base s payload (some (.error (.io cause))) t where
  along := along
  failed := by
    rintro _ ⟨rfl⟩
    exact ⟨unstaged, xs, serves, aftermath, holds⟩

/-- A write that has failed before it has brought a byte of its own record to the wire. -/
theorem of_untouched {xs : List Exchange} (serves : s.outlet.Serves xs t.outlet)
    (idle : t.Staging start base [] ∨ t.Staging start (base ++ s.writer.staged) [])
    (cause : Failure) : WriteEnds start base s payload (some (.error (.io cause))) t := by
  rcases idle with dropped | complete
  · exact of_failed .untouched (dropped.along_of_idle _) dropped.staged serves
      ⟨dropped.unbroken, .inl dropped.accepted_of_idle⟩
  · refine of_failed .untouched (complete.along_of_idle _).behind complete.staged serves
      ⟨complete.unbroken, .inr ?_⟩
    rw [complete.accepted_of_idle, List.append_assoc]

end WriteEnds

/-- What a write has brought to the wire that brings its own record to its end. -/
theorem along_of_sending
    (bringing : t.Bringing start (base ++ s.writer.staged) (Record.encode payload)) :
    t.Along start base (s.writer.staged ++ Record.encode payload) := by
  simpa using (bringing.along []).behind

/-- Bringing the payload's own record to its end. -/
theorem send_asked (sending : WriteAsked start base s payload .sending w.side) :
    WritePolled start base s payload (w.send payload).1 (w.send payload).2.side := by
  obtain ⟨xs, serves, bringing⟩ := sending
  obtain ⟨ys, serves', brought⟩ := Writing.flush_brings bringing
  have serves_all := serves.append serves'
  unfold Writing.send
  generalize w.flush = result at serves_all brought ⊢
  match result, brought with
  | (.waiting (), w'), ⟨bringing', _, _⟩ => exact ⟨_, serves_all, bringing'⟩
  | (.ready (.ok ()), w'), complete => exact ⟨along_of_sending (.inr complete), by simp⟩
  | (.ready (.error e), w'), ⟨cause, same, _, ends⟩ =>
    subst same
    -- The record is this write's own, so its end makes the write complete and a part of it torn.
    rcases ends with dropped | ⟨complete, last⟩ | torn
    · exact .of_untouched serves_all (.inr dropped) cause
    · refine .of_failed .complete (along_of_sending (.inr complete)) complete.staged serves_all
        ⟨complete.unbroken, ?_, ?_⟩
      · rw [complete.accepted_of_idle, List.append_assoc, List.append_assoc, List.append_assoc]
      · simp [last]
    · obtain ⟨part, proper, accepted⟩ := torn.accepted
      refine .of_failed .torn (by simpa using (torn.along []).behind) torn.unstaged serves_all
        ⟨torn.broken, .inr ⟨part, proper, ?_⟩⟩
      rw [accepted, List.append_assoc _ base]

/-- Staging the payload's record behind complete ones, and bringing it to its end. -/
theorem begin_asked {xs : List Exchange} (serves : s.outlet.Serves xs w.outlet)
    (idle : w.side.Staging start (base ++ s.writer.staged) []) :
    WritePolled start base s payload (w.begin payload).1 (w.begin payload).2.side :=
  send_asked (w := { w with writer := w.writer.stage payload })
    ⟨xs, serves, .inl (idle.stage payload)⟩

/-- Bringing the record of an earlier call to its end. -/
theorem finish_asked (finishing : WriteAsked start base s payload .finishing w.side) :
    WritePolled start base s payload (w.finish payload).1 (w.finish payload).2.side := by
  obtain ⟨xs, serves, so_far, smooth, bringing⟩ := finishing
  obtain ⟨ys, serves', brought⟩ := Writing.flush_brings bringing
  have serves_all := serves.append serves'
  unfold Writing.finish
  generalize w.flush = result at serves_all brought ⊢
  match result, brought with
  | (.waiting (), w'), ⟨bringing', goes_on, smooth'⟩ =>
    have smooth_all := (firstFailure_append smooth ys).trans smooth'
    exact ⟨_, serves_all, so_far.append smooth goes_on, smooth_all, bringing'⟩
  | (.ready (.ok ()), w'), complete => exact begin_asked serves_all complete
  | (.ready (.error e), w'), ⟨cause, same, ⟨left, goes_on⟩, ends⟩ =>
    subst same
    -- The record is an earlier one, so no byte of this write is on the wire, however far it came.
    rcases ends with dropped | ⟨complete, -⟩ | torn
    · exact .of_untouched serves_all (.inl dropped) cause
    · exact .of_untouched serves_all (.inr complete) cause
    · obtain ⟨part, proper, accepted⟩ := torn.accepted
      exact .of_failed .torn (torn.along _) torn.unstaged serves_all
        ⟨torn.broken, .inl ⟨part, left, proper, accepted, so_far.append smooth goes_on⟩⟩

/-- A payload that is refused is not refused because of the outlet. -/
theorem Writer.refusal?_ne_io (w : Writer) (payload : List UInt8) (cause : Failure) :
    w.refusal? payload ≠ some (.io cause) := by
  unfold refusal?
  repeat' split
  all_goals simp

/-- **One poll of a write.** -/
theorem pollWrite_asked (staging : s.Staging start base s.writer.staged)
    {stage : Writing.WriteStage} (asked : WriteAsked start base s payload stage w.side) :
    WritePolled start base s payload (w.pollWrite payload stage).1
      (w.pollWrite payload stage).2.side := by
  cases stage with
  | starting =>
    -- A refused write leaves the side as it was. Otherwise what is staged has to come first.
    obtain rfl : w.side = s := asked
    simp only [Writing.pollWrite]
    split
    · next e refusal =>
      refine ⟨WriteSide.Bringing.along (.inl staging) _, ?_⟩
      rintro cause ⟨rfl⟩
      exact absurd refusal (Writer.refusal?_ne_io _ _ cause)
    · split
      · next unstaged =>
        have unstaged : w.side.writer.staged = [] := List.isEmpty_iff.1 unstaged
        refine begin_asked (.nil _) ?_
        rwa [unstaged, List.append_nil, ← unstaged]
      · exact finish_asked ⟨[], .nil _, .nil _, rfl, .inl staging⟩
  | finishing => exact finish_asked asked
  | sending => exact send_asked asked

/-- **One write.** -/
theorem WriteSide.call_write_ends (staging : s.Staging start base s.writer.staged)
    (announcement : Note) (payload : List UInt8) (polls : Nat) :
    WriteEnds start base s payload (s.call announcement (.write payload polls)).1
      (s.call announcement (.write payload polls)).2 := by
  refine drive_induction
    (I := fun stage w => WriteAsked start base s payload stage (Writing.side w))
    (Q := fun answer w => WriteEnds start base s payload answer (Writing.side w))
    ?_ ?_ ?_ polls .starting ⟨s.writer, s.outlet, []⟩ rfl
  · -- Dropped while it waits, the write has brought no more to the wire than its stage says.
    intro stage w asked
    refine ⟨?_, by simp⟩
    cases stage with
    | starting =>
      obtain rfl : w.side = s := asked
      exact WriteSide.Bringing.along (.inl staging) _
    | finishing =>
      obtain ⟨_, _, _, _, bringing⟩ := asked
      exact bringing.along _
    | sending =>
      obtain ⟨_, _, bringing⟩ := asked
      exact along_of_sending bringing
  · intro stage w answer w' asked polled
    have goes := pollWrite_asked staging asked
    rwa [polled] at goes
  · intro stage w stage' w' asked polled
    have goes := pollWrite_asked staging asked
    rwa [polled] at goes

/-- A write that fails because of the outlet is one on a writer that is not broken. -/
theorem WriteSide.unbroken_of_io {announcement : Note} {polls : Nat} {cause : Failure}
    (answered : s.call announcement (.write payload polls) = (some (.error (.io cause)), t)) :
    s.writer.broken = false := by
  rw [← Bool.not_eq_true]
  intro broken
  -- A broken writer refuses the write itself, and no refusal is a failure of the outlet.
  obtain ⟨e, refusal⟩ := Writer.refusal?_of_broken broken payload
  have answer := congrArg Prod.fst answered
  cases polls with
  | zero => simp [call, Writing.call, drive] at answer
  | succ polls =>
    have same : e = .io cause := by
      simpa [call, Writing.call, drive, Writing.pollWrite, refusal] using answer
    exact Writer.refusal?_ne_io s.writer payload cause (same ▸ refusal)

/-- **What a failed write leaves behind.** Take any calls on the writer of a new stream, over any
outlet, and a write after them that is not dropped and fails because of the outlet.

It leaves nothing staged. What the outlet had taken before were complete records, and the sent part
of what was staged, which was nothing or the record of an earlier write. Of the three aftermaths
exactly one holds. If the writer is not broken, then the outlet has taken complete records only, so
that the next write starts behind them; and if the failure was not one of the last flush, then the
same payload written once more has at most one record on the wire. -/
theorem failed_write_leaves (config : Config) (outlet : Outlet) (announcement : Note)
    (calls : List WriteCall) (payload : List UInt8) (polls : Nat) (cause : Failure)
    (s' : WriteSide) :
    let run := runAll (WriteSide.call announcement) calls ⟨.new config, outlet⟩
    let s := run.2
    s.call announcement (.write payload polls) = (some (.error (.io cause)), s') →
      s'.writer.staged = [] ∧
      ∃ whole exchanges,
        let before := outlet.accepted ++ recordsOf whole
        Complete (journal run.1) whole ∧ s.outlet.accepted = before ++ s.writer.sent ∧
        (s.writer.staged = [] ∨ ∃ e, (whole ++ [e]).Sublist (journal run.1) ∧ e.Fits ∧
          s.writer.staged = Record.encode e.payload) ∧
        s.outlet.Serves exchanges s'.outlet ∧
        (∃! aftermath : Aftermath, aftermath.Holds before s payload cause exchanges s') ∧
        (s'.writer.broken = false →
          (∃ whole', Complete (journal run.1 ++ [⟨payload, some (.error (.io cause))⟩]) whole' ∧
            s'.outlet.accepted = outlet.accepted ++ recordsOf whole') ∧
          (∀ next polls', ∃ part, part <+: Record.encode next ∧
            (s'.call announcement (.write next polls')).2.outlet.accepted =
              s'.outlet.accepted ++ part) ∧
          (exchanges.getLast? ≠ some (.flush (.failed cause)) → ∀ polls', ∃ earlier part,
            (earlier = [] ∨ earlier = s.writer.staged) ∧ part <+: Record.encode payload ∧
            (s'.call announcement (.write payload polls')).2.outlet.accepted =
              before ++ earlier ++ part)) := by
  intro run s answered
  -- The ledger of the calls so far says where the write begins.
  have ledger := ledger_runAll announcement calls (ledger_new config outlet)
  obtain ⟨whole, complete, staging, leftover⟩ :=
    ledger.staging_of_unbroken (WriteSide.unbroken_of_io answered)
  have ends := WriteSide.call_write_ends staging announcement payload polls
  rw [answered] at ends
  obtain ⟨unstaged, exchanges, serves, aftermath, holds⟩ := ends.failed cause rfl
  refine ⟨unstaged, whole, exchanges, complete, staging.accepted, leftover, serves,
    ⟨aftermath, holds, fun _ other => other.unique holds⟩, fun unbroken => ?_⟩
  -- And the ledger with this write says that only complete records are on an unbroken wire.
  have ledger' := ledger.call announcement (.write payload polls)
  rw [answered] at ledger'
  obtain ⟨whole', complete', idle⟩ := ledger'.idle_of_unstaged unbroken unstaged
  have next_write (next : List UInt8) (polls' : Nat) : ∃ part, part <+: Record.encode next ∧
      (s'.call announcement (.write next polls')).2.outlet.accepted =
        s'.outlet.accepted ++ part := by
    have staging' : s'.Staging outlet (recordsOf whole') s'.writer.staged := by rwa [unstaged]
    obtain ⟨part, front, accepted⟩ :=
      (WriteSide.call_write_ends staging' announcement next polls').along
    rw [unstaged, List.nil_append] at front
    exact ⟨part, front, by rw [accepted, idle.accepted_of_idle]⟩
  refine ⟨⟨whole', complete', idle.accepted_of_idle⟩, next_write, fun no_flush polls' => ?_⟩
  obtain ⟨part, front, accepted⟩ := next_write payload polls'
  -- Only an untouched aftermath allows another attempt, which begins behind what was staged or in
  -- its place.
  cases aftermath with
  | torn => exact absurd (holds.1.symm.trans unbroken) (by simp)
  | untouched =>
    obtain ⟨-, same | same⟩ := holds
    · exact ⟨[], part, .inl rfl, front, by rw [accepted, same, List.append_nil]⟩
    · exact ⟨_, part, .inr rfl, front, by rw [accepted, same]⟩
  | complete => exact absurd holds.2.2 no_flush

/-- A write brings the last byte of an earlier record to the wire, and then all of its own; the
second flush fails. The writer is not broken, so the payload can be written again, and then the wire
has its record twice. -/
theorem failed_write_leaves_whole_record :
    let reset : Failure := ⟨.connectionReset, "reset by peer"⟩
    let outlet : Outlet :=
      { intakes := [.upTo 3, .pending, .upTo 1, .all], flushSignals := [.done, .failed reset]
        shutdownSignals := [] }
    let announcement := .shuttingDown (.ofIpv4 ⟨[127, 0, 0, 1], rfl⟩ 53)
    let s := (runAll (WriteSide.call announcement) [.write [7, 8] 1] ⟨.new {}, outlet⟩).2
    let result := s.call announcement (.write [9] 1)
    result.1 = some (.error (.io reset)) ∧ result.2.writer.broken = false ∧
      (∃ before exchanges, s.outlet.Serves exchanges result.2.outlet ∧
        ∃! aftermath : Aftermath, aftermath.Holds before s [9] reset exchanges result.2) ∧
      (result.2.call announcement (.write [9] 1)).2.outlet.accepted =
        Record.encodeAll [[7, 8], [9], [9]] := by
  intro reset outlet announcement s result
  have answer : result.1 = some (.error (.io reset)) := by decide +kernel
  have unbroken : result.2.writer.broken = false := by decide +kernel
  obtain ⟨-, whole, exchanges, -, -, -, serves, one, -⟩ :=
    failed_write_leaves {} outlet announcement [.write [7, 8] 1] [9] 1 reset result.2
      (Prod.ext answer rfl)
  exact ⟨answer, unbroken, ⟨_, exchanges, serves, one⟩, by decide +kernel⟩

end DatagramTunnel
