import DatagramTunnel.Proofs.Transport.Exchange
import DatagramTunnel.Proofs.Writer.Shutdown
import DatagramTunnel.Proofs.Writer.Wire
import Mathlib.Control.Monad.Basic

/-!
# What a shutdown asks of an outlet

A shutdown first brings a staged record to its end, and then asks the outlet to close, whatever
came of the record. `flush_serves` lists the exchanges of one poll of a flush,
`pollShutdown_asked` those of a shutdown up to one of its polls, and `shutdown_runs_to_its_end` says
what a shutdown does that is polled until it has its answer.
-/

namespace DatagramTunnel

/-- The answer of a sender: the first thing that went wrong, if anything. -/
def answerOf (xs : List Exchange) : WriteAnswer :=
  match firstFailure xs with
  | some cause => .error (.io cause)
  | none => .ok ()

/-- The exchanges in front of which nothing failed give the same answer without them. -/
theorem answerOf_append {xs : List Exchange} (smooth : firstFailure xs = none)
    (ys : List Exchange) : answerOf (xs ++ ys) = answerOf ys := by
  rw [answerOf, firstFailure_append smooth, answerOf]

theorem answerOf_eq_ok_iff {xs : List Exchange} :
    answerOf xs = .ok () ↔ firstFailure xs = none := by
  unfold answerOf
  cases firstFailure xs <;> simp

theorem answerOf_eq_error_iff {xs : List Exchange} {e : Error} :
    answerOf xs = .error e ↔ ∃ cause, firstFailure xs = some cause ∧ e = .io cause := by
  unfold answerOf
  cases firstFailure xs <;> simp [eq_comm]

/-- One exchange more does not change what has gone wrong already. -/
theorem answerOf_concat (xs : List Exchange) (x : Exchange) :
    answerOf (xs ++ [x]) = match answerOf xs with
      | .ok () => answerOf [x]
      | .error e => .error e := by
  cases front : firstFailure xs with
  | none => rw [answerOf_append front, answerOf_eq_ok_iff.2 front]
  | some cause =>
    simp only [firstFailure] at front
    simp [answerOf, firstFailure, List.findSome?_append, front]

/-! ## Bringing a staged record to its end -/

/-- Some exchanges are the last of bringing a record to its end: if none has failed, all of it is
taken, and then the outlet has been flushed. -/
def Ended (xs : List Exchange) (left : List UInt8) : Prop :=
  firstFailure xs = none → left = [] ∧ xs.getLast? = some (.flush (.done ()))

theorem Ended.append {xs ys : List Exchange} {left : List UInt8} (ended : Ended ys left)
    (smooth : firstFailure xs = none) : Ended (xs ++ ys) left := by
  intro none_failed
  obtain ⟨all_taken, last⟩ := ended ((firstFailure_append smooth ys).symm.trans none_failed)
  exact ⟨all_taken, by simp [last]⟩

/-- What the exchanges of one poll tell of how far it brings a staged record to its end. -/
def FlushTold (xs : List Exchange) (left : List UInt8) :
    Progress Unit WriteAnswer → Writer → Prop
  | .waiting (), w => firstFailure xs = none ∧ (∃ x ∈ xs, x.waits = true) ∧ w.unsent = left
  | .ready answer, _ => answer = answerOf xs ∧ Ended xs left

/-- **The exchanges of one poll** that brings a staged record to its end. -/
theorem Writing.flush_serves (w : Writing) : ∃ xs left,
    w.outlet.Serves xs w.flush.2.outlet ∧ Finishing w.writer.unsent xs left ∧
      FlushTold xs left w.flush.1 w.flush.2.writer := by
  obtain ⟨xs, serves, finishing, told⟩ := w.outlet.push_serves w.writer.unsent
  rw [flush_eq]
  rcases push : w.outlet.push w.writer.unsent with ⟨_ | unsent | ⟨unsent, cause⟩, outlet⟩ <;>
    rw [push] at serves finishing told
  · -- All is taken, and the outlet is flushed.
    simp only [settle]
    rcases flushed : outlet.flush with ⟨reply, outlet'⟩
    have leads : Exchange.Leads outlet (.flush reply) outlet' := flushed
    have more := firstFailure_append told [.flush reply]
    cases reply with
    | done value =>
      refine ⟨_, _, serves.append (.single leads), finishing.append told (.single rfl), ?_⟩
      exact ⟨(answerOf_eq_ok_iff.2 more).symm, fun _ => ⟨rfl, List.getLast?_concat⟩⟩
    | failed cause =>
      refine ⟨_, _, serves.append (.single leads), finishing.append told (.single rfl), ?_⟩
      exact ⟨(answerOf_eq_error_iff.2 ⟨cause, more, rfl⟩).symm,
        fun smooth => absurd (more.symm.trans smooth) (Option.some_ne_none cause)⟩
    | pending =>
      exact ⟨_, _, serves.append (.single leads), finishing.append told (.single rfl), more,
        ⟨_, List.mem_append_right xs (List.mem_singleton_self _), rfl⟩, rfl⟩
  · exact ⟨xs, unsent, serves, finishing, told.1, told.2, rfl⟩
  · refine ⟨xs, unsent, ?_, finishing, ?_⟩
    · show w.outlet.Serves xs (abandon _ _).2.side.outlet
      rw [side_abandon]
      exact serves
    · exact ⟨(answerOf_eq_error_iff.2 ⟨_, told, rfl⟩).symm,
        fun smooth => absurd (told.symm.trans smooth) (Option.some_ne_none _)⟩

/-! ## Shutting down -/

/-- The exchanges with which a shutdown brings the staged record of `s` to its end. There are none
if the writer is broken, or nothing is staged. -/
structure WriteSide.Finished (s : WriteSide) (finishing : List Exchange) : Prop where
  record : s.writer.broken = false → s.writer.staged ≠ [] →
    ∃ left, Finishing s.writer.unsent finishing left ∧ Ended finishing left
  nothing : s.writer.broken = true ∨ s.writer.staged = [] → finishing = []

/-- What a shutdown that began at `s` has asked the outlet for when it waits in a stage. -/
def ShutdownAsked (s : WriteSide) : Writing.ShutdownStage → WriteSide → Prop
  | .starting, t => t = s
  | .finishing, t => s.writer.broken = false ∧ s.writer.staged ≠ [] ∧
      ∃ xs, s.outlet.Serves xs t.outlet ∧ Finishing s.writer.unsent xs t.writer.unsent ∧
        firstFailure xs = none
  | .closing finished, t => ∃ finishing waits,
      s.outlet.Serves (finishing ++ List.replicate waits (.shutdown .pending)) t.outlet ∧
        s.Finished finishing ∧ finished = answerOf finishing

/-- What a shutdown that began at `s` has asked the outlet for when it has its answer: it brought
the staged record to its end, and then asked the outlet to close until it had or failed to. The
answer is the first thing that went wrong. -/
def ShutdownAnswered (s : WriteSide) (answer : WriteAnswer) (t : WriteSide) : Prop :=
  ∃ finishing waits last,
    s.outlet.Serves (finishing ++ List.replicate waits (.shutdown .pending) ++ [.shutdown last])
      t.outlet ∧
    s.Finished finishing ∧ last ≠ .pending ∧ answer = answerOf (finishing ++ [.shutdown last])

/-- How far a poll brings a shutdown that began at `s`, when the outlet had `waits` left before. -/
def ShutdownPolled (s : WriteSide) (waits : Nat) :
    Progress Writing.ShutdownStage WriteAnswer → WriteSide → Prop
  | .waiting stage, t => ShutdownAsked s stage t ∧ t.outlet.waits < waits
  | .ready answer, t => ShutdownAnswered s answer t

variable {s : WriteSide} {w : Writing}

/-- Asking for more than has been asked for leaves no more waits. -/
theorem ShutdownPolled.mono {waits more : Nat} (le : waits ≤ more)
    {progress : Progress Writing.ShutdownStage WriteAnswer} {t : WriteSide}
    (polled : ShutdownPolled s waits progress t) : ShutdownPolled s more progress t := by
  cases progress with
  | ready answer => exact polled
  | waiting stage => exact ⟨polled.1, Nat.lt_of_lt_of_le polled.2 le⟩

/-- Asking the outlet to close, with the staged record at its end. -/
theorem close_asked {finished : WriteAnswer}
    (closing : ShutdownAsked s (.closing finished) w.side) :
    ShutdownPolled s w.outlet.waits (w.close finished).1 (w.close finished).2.side := by
  obtain ⟨finishing, waits, serves, done, rfl⟩ := closing
  rcases shut : w.outlet.shutdown with ⟨reply, outlet⟩
  have leads : Exchange.Leads w.outlet (.shutdown reply) outlet := shut
  have longer := serves.append (.single leads)
  simp only [Writing.close, shut]
  -- A wait adds a request to close to those in front; an answer ends the list, behind all that
  -- finished the record.
  cases reply with
  | done value =>
    refine ⟨finishing, waits, _, longer, done, nofun, ?_⟩
    rw [answerOf_concat]
    cases answerOf finishing <;> rfl
  | failed cause =>
    refine ⟨finishing, waits, _, longer, done, nofun, ?_⟩
    rw [answerOf_concat]
    cases answerOf finishing <;> rfl
  | pending =>
    refine ⟨⟨finishing, waits + 1, ?_, done, rfl⟩, ?_⟩
    · rwa [List.replicate_succ', ← List.append_assoc]
    · -- The request itself has used up a wait.
      exact (Outlet.Serves.single leads).waits_lt ⟨_, List.mem_singleton_self _, rfl⟩

/-- Bringing the staged record to its end, and asking the outlet to close in any case. -/
theorem finishAndClose_asked (finishing : ShutdownAsked s .finishing w.side) :
    ShutdownPolled s w.outlet.waits w.finishAndClose.1 w.finishAndClose.2.side := by
  obtain ⟨unbroken, staged, xs, serves, so_far, smooth⟩ := finishing
  obtain ⟨ys, left, serves', goes_on, told⟩ := w.flush_serves
  have serves_all := serves.append serves'
  have all := so_far.append smooth goes_on
  unfold Writing.finishAndClose
  generalize w.flush = result at serves' serves_all told ⊢
  match result, told with
  | (.waiting (), w'), ⟨smooth', waited, rest⟩ =>
    -- The flush waits: its exchanges are entered behind those of the earlier polls.
    rw [← rest] at all
    exact ⟨⟨unbroken, staged, _, serves_all, all, (firstFailure_append smooth ys).trans smooth'⟩,
      serves'.waits_lt waited⟩
  | (.ready finished, w'), ⟨told, ended⟩ =>
    -- The flush is over, well or not, and the outlet is asked to close in the same poll.
    have at_end : s.Finished (xs ++ ys) :=
      ⟨fun _ _ => ⟨left, all, ended.append smooth⟩,
        fun h => h.elim (by simp [unbroken]) (absurd · staged)⟩
    have closing : ShutdownAsked s (.closing finished) w'.side :=
      ⟨xs ++ ys, 0, by simpa using serves_all, at_end, told.trans (answerOf_append smooth ys).symm⟩
    exact (close_asked closing).mono serves'.waits_le

/-- **One poll of a shutdown.** -/
theorem pollShutdown_asked (announcement : Note) (opened : s.writer.closed = false)
    {stage : Writing.ShutdownStage} (asked : ShutdownAsked s stage w.side) :
    ShutdownPolled s w.outlet.waits (w.pollShutdown announcement stage).1
      (w.pollShutdown announcement stage).2.side := by
  cases stage with
  | starting =>
    obtain rfl : w.side = s := asked
    have opened : w.writer.closed = false := opened
    simp only [Writing.pollShutdown, Writing.startShutdown, opened, Bool.false_eq_true, if_false]
    split
    · next staged =>
      simp only [Bool.and_eq_true, Bool.not_eq_true', List.isEmpty_eq_false_iff] at staged
      obtain ⟨unbroken, some_left⟩ := staged
      exact finishAndClose_asked (w := { w with
        writer := { w.writer with closed := true }, log := w.log ++ [announcement] })
        ⟨unbroken, some_left, [], .nil _, .nil _, rfl⟩
    · next nothing =>
      simp only [Bool.and_eq_true, Bool.not_eq_true', List.isEmpty_eq_false_iff] at nothing
      exact close_asked (w := { w with
        writer := { w.writer with closed := true }, log := w.log ++ [announcement] })
        ⟨[], 0, .nil _, ⟨fun unbroken some_left => absurd ⟨unbroken, some_left⟩ nothing,
          fun _ => rfl⟩, rfl⟩
  | finishing => exact finishAndClose_asked asked
  | closing finished => exact close_asked asked

/-- **A shutdown that has its answer**, and when it has one: every poll that waits uses up a wait of
the outlet. -/
theorem WriteSide.shutdown_answered (opened : s.writer.closed = false) (announcement : Note)
    {polls : Nat} (often : s.outlet.waits < polls) :
    ∃ answer t, s.call announcement (.shutdown polls) = (some answer, t) ∧
      ShutdownAnswered s answer t := by
  -- The measure is the waits that the outlet has left: each poll without an answer lowers it.
  have driven : ∃ answer w,
      drive (Writing.pollShutdown announcement) polls .starting ⟨s.writer, s.outlet, []⟩ =
        (some answer, w) ∧ ShutdownAnswered s answer w.side := by
    refine drive_answers (Writing.pollShutdown announcement)
      (I := fun stage (w : Writing) => ShutdownAsked s stage w.side)
      (Q := fun answer (w : Writing) => ShutdownAnswered s answer w.side)
      (fun w => w.outlet.waits) ?_ ?_ .starting ⟨s.writer, s.outlet, []⟩ rfl often
    · intro stage w answer w' asked polled
      have goes := pollShutdown_asked announcement opened asked
      rwa [polled] at goes
    · intro stage w stage' w' asked polled
      have goes := pollShutdown_asked announcement opened asked
      rwa [polled] at goes
  obtain ⟨answer, w, driven, answered⟩ := driven
  exact ⟨answer, w.side, by simp only [call, Writing.call, driven, Writing.side], answered⟩

/-- A shutdown that has its answer has the same one if it would be polled more often. -/
theorem WriteSide.call_shutdown_of_le {announcement : Note} {polls more : Nat}
    {answer : WriteAnswer} {t : WriteSide}
    (answered : s.call announcement (.shutdown polls) = (some answer, t)) (le : polls ≤ more) :
    s.call announcement (.shutdown more) = (some answer, t) := by
  simp only [call, Writing.call, Prod.mk.injEq] at answered ⊢
  obtain ⟨same_answer, rfl⟩ := answered
  rw [drive_of_le (Prod.ext same_answer rfl) le]
  exact ⟨rfl, rfl⟩

/-- **A shutdown that is polled to its answer.** Take any calls on the writer of a new stream, over
any outlet, and a shutdown of the writer that they leave behind, if it is not closed.

The shutdown has its answer when it is polled more often than the outlet makes it wait. When it has,
it has offered the outlet what was unsent of the staged record, and nothing if the writer is broken
or nothing is staged; it has then asked the outlet to close, once more after each wait, whether or
not the record came to its end; and the answer is the first thing that went wrong. If it has
succeeded and the writer is not broken, the outlet has taken complete records only. From then on
every call has its answer at once, and leaves the writer and the outlet as they are. -/
theorem shutdown_runs_to_its_end (config : Config) (outlet : Outlet) (announcement : Note)
    (calls : List WriteCall) :
    let run := runAll (WriteSide.call announcement) calls ⟨.new config, outlet⟩
    let s := run.2
    s.writer.closed = false →
      (∀ polls, s.outlet.waits < polls → ∃ answer s',
        s.call announcement (.shutdown polls) = (some answer, s')) ∧
      ∀ polls answer s', s.call announcement (.shutdown polls) = (some answer, s') →
        ShutdownAnswered s answer s' ∧
        (answer = .ok () → s'.writer.broken = false → ∃ whole, Complete (journal run.1) whole ∧
          s'.outlet.accepted = outlet.accepted ++ recordsOf whole) ∧
        ∀ later, runAll (WriteSide.call announcement) later s' =
          (later.map fun c => (c, c.answerWhenClosed), s') := by
  intro run s opened
  have enough {polls} (often : s.outlet.waits < polls) :=
    WriteSide.shutdown_answered opened announcement often
  refine ⟨fun polls often => ?_, fun polls answer s' answered => ?_⟩
  · obtain ⟨answer, s', driven, -⟩ := enough often
    exact ⟨answer, s', driven⟩
  obtain ⟨polls, rfl⟩ : ∃ n, polls = n + 1 := by
    cases polls with
    | zero => simp [WriteSide.call, Writing.call, drive] at answered
    | succ n => exact ⟨n, rfl⟩
  have after := WriteSide.call_shutdown opened announcement polls
  rw [answered] at after
  refine ⟨?_, ?_, ?_⟩
  · -- A shutdown polled often enough for the waits that are left has the same answer.
    obtain ⟨answer', t, driven, told⟩ :=
      enough (show s.outlet.waits < polls + 1 + s.outlet.waits by omega)
    rw [WriteSide.call_shutdown_of_le answered (Nat.le_add_right _ _)] at driven
    obtain ⟨⟨rfl⟩, rfl⟩ := Prod.mk.inj driven
    exact told
  · intro success unbroken
    have ledger := (ledger_runAll announcement calls (ledger_new config outlet)).call announcement
      (.shutdown (polls + 1))
    rw [answered] at ledger
    have unstaged := (after.succeeded (congrArg some success)).2 unbroken
    obtain ⟨whole, complete, idle⟩ := ledger.idle_of_unstaged unbroken unstaged
    refine ⟨whole, ?_, idle.accepted_of_idle⟩
    rwa [show journal [(WriteCall.shutdown (polls + 1), some answer)] = [] from rfl,
      List.append_nil] at complete
  · exact runAll_of_unchanged (WriteSide.call_of_closed after.closed announcement)

/-- A record is left with its last byte unsent. The shutdown waits for that byte to be taken and
finds it refused; it then waits for the outlet to close, which fails as well. The answer is the
first failure. -/
theorem shutdown_runs_to_its_end_after_failures :
    let reset : Failure := ⟨.connectionReset, "reset by peer"⟩
    let outlet : Outlet :=
      { intakes := [.upTo 3, .pending, .pending, .failed reset], flushSignals := []
        shutdownSignals := [.pending, .failed ⟨.notConnected, "not connected"⟩] }
    let announcement := .shuttingDown (.ofIpv4 ⟨[127, 0, 0, 1], rfl⟩ 53)
    let s := (runAll (WriteSide.call announcement) [.write [7, 8] 1] ⟨.new {}, outlet⟩).2
    let result := s.call announcement (.shutdown 3)
    s.writer.closed = false ∧ result.1 = some (.error (.io reset)) ∧
      ShutdownAnswered s (.error (.io reset)) result.2 ∧
      runAll (WriteSide.call announcement) [.write [9] 1, .shutdown 1] result.2 =
        ([(.write [9] 1, some (.error .closed)), (.shutdown 1, some (.ok ()))], result.2) := by
  intro reset outlet announcement s result
  have opened : s.writer.closed = false := by decide +kernel
  have answer : result.1 = some (.error (.io reset)) := by decide +kernel
  obtain ⟨-, ends⟩ := shutdown_runs_to_its_end {} outlet announcement [.write [7, 8] 1] opened
  obtain ⟨answered, -, later⟩ := ends 3 (.error (.io reset)) result.2 (Prod.ext answer rfl)
  exact ⟨opened, answer, answered, later _⟩

end DatagramTunnel
