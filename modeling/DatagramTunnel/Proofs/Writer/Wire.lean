import DatagramTunnel.Proofs.Writer.Journal

/-!
# The wire behind a writer

Whatever calls are made and dropped, and whatever the outlet does, the outlet has taken complete
records of the payloads that were to be written, in order, and then at most a part of one more.
`Ledger.flush` says so for the loop that brings a record to its end, `pollWrite_goes` and
`pollShutdown_shuttingDown` for one poll, `Ledger.call` for one call and `ledger_runAll` for a run;
`writes_keep_wire` draws the conclusion in terms of the writer's own fields.
-/

namespace DatagramTunnel

variable {start : Outlet} {J : List Entry} {payload : List UInt8} {w : Writing}

namespace WriteSide

/-- With nothing staged, a flush leaves nothing staged. -/
theorem Landed.of_nothing {base : List UInt8} {progress : Progress Unit WriteAnswer} {s : WriteSide}
    (landed : Landed start base [] progress s) : s.Staging start base [] := by
  match progress with
  | .waiting () =>
    simp only [Landed, List.append_nil, or_self] at landed
    exact landed
  | .ready (.ok ()) =>
    simp only [Landed, List.append_nil] at landed
    exact landed
  | .ready (.error _) =>
    simp only [Landed, List.append_nil] at landed
    rcases landed with idle | idle | torn
    · exact idle
    · exact idle
    · obtain ⟨part, ⟨some_part, rest, -, nothing⟩, -⟩ := torn.accepted
      -- A record of no byte has no proper part that could be torn off.
      exact absurd (List.append_eq_nil_iff.1 nothing.symm).1 some_part

end WriteSide

/-- How a flush of an earlier write's record ends: the ledger holds in any case, and a record that
is not given up leaves the writer unbroken. -/
def Flushed (start : Outlet) (J : List Entry) : Progress Unit WriteAnswer → WriteSide → Prop
  | .waiting (), s => Ledger start J s ∧ s.writer.broken = false
  | .ready (.ok ()), s => ∃ whole, Complete J whole ∧ s.Staging start (recordsOf whole) []
  | .ready (.error _), s => Ledger start J s

/-- **A flush keeps the ledger.** -/
theorem Ledger.flush (ledger : Ledger start J w.side) (unbroken : w.writer.broken = false) :
    Flushed start J w.flush.1 w.flush.2.side := by
  -- What is staged decides what the flush can come to: nothing, a record of an earlier write, or,
  -- on a broken writer, neither.
  cases ledger with
  | idle complete idle =>
    have idle' := (Writing.flush_of_staging idle).of_nothing
    match w.flush.1 with
    | .waiting () => exact ⟨.idle complete idle', idle'.unbroken⟩
    | .ready (.ok ()) => exact ⟨_, complete, idle'⟩
    | .ready (.error _) => exact .idle complete idle'
  | staged complete next fits staging =>
    have landed := Writing.flush_of_staging staging
    generalize w.flush = result at landed ⊢
    match result, landed with
    | (.waiting (), _), .inl still => exact ⟨.staged complete next fits still, still.unbroken⟩
    -- While the flush waits, the outlet may have taken all of the record already.
    | (.waiting (), _), .inr clean => exact ⟨.finish complete next fits clean, clean.unbroken⟩
    | (.ready (.ok ()), _), clean =>
      exact ⟨_, complete.finish next fits, by rwa [recordsOf_concat]⟩
    | (.ready (.error _), _), .inl clean => exact .idle complete clean
    | (.ready (.error _), _), .inr (.inl clean) => exact .finish complete next fits clean
    | (.ready (.error _), _), .inr (.inr part) => exact .torn complete next fits part
  | torn _ _ _ torn => exact absurd (torn.broken.symm.trans unbroken) (by simp)

/-! ## One poll of a write -/

/-- Where a write of a payload stands between two polls: the ledger is that of the writes in front
of it, until its own record is staged behind complete ones. -/
def Underway (start : Outlet) (J : List Entry) (payload : List UInt8) :
    Writing.WriteStage → WriteSide → Prop
  | .starting, s => Ledger start J s
  | .finishing, s => payload.length ≤ maxPayloadSize ∧ Ledger start J s ∧ s.writer.broken = false
  | .sending, s => payload.length ≤ maxPayloadSize ∧ ∃ whole, Complete J whole ∧
      (s.Staging start (recordsOf whole) (Record.encode payload) ∨
        s.Staging start (recordsOf whole ++ Record.encode payload) [])

/-- Where a poll of a write leads: to another stage, or to the ledger with the write entered. -/
def Goes (start : Outlet) (J : List Entry) (payload : List UInt8) :
    Progress Writing.WriteStage WriteAnswer → WriteSide → Prop
  | .waiting stage, s => Underway start J payload stage s
  | .ready answer, s => Ledger start (J ++ [⟨payload, some answer⟩]) s

theorem send_goes (sending : Underway start J payload .sending w.side) :
    Goes start J payload (w.send payload).1 (w.send payload).2.side := by
  obtain ⟨fits, whole, complete, staging | idle⟩ := sending
  · have landed := Writing.flush_of_staging staging
    unfold Writing.send
    generalize w.flush = result at landed ⊢
    match result, landed with
    | (.waiting (), _), landed => exact ⟨fits, whole, complete, landed⟩
    | (.ready (.ok ()), _), idle => exact .concat complete fits idle
    | (.ready (.error _), _), .inl idle => exact .idle (complete.skip rfl) idle
    | (.ready (.error _), _), .inr (.inl idle) => exact .concat complete fits idle
    | (.ready (.error _), _), .inr (.inr torn) =>
      exact .torn (complete.skip rfl) (complete.order.append (.refl _)) fits torn
  · -- The record is complete, and only the outlet's word on the flush is missing.
    have idle' := (Writing.flush_of_staging idle).of_nothing
    unfold Writing.send
    generalize w.flush = result at idle' ⊢
    match result with
    | (.waiting (), _) => exact ⟨fits, whole, complete, Or.inr idle'⟩
    | (.ready (.ok ()), _) => exact .concat complete fits idle'
    | (.ready (.error _), _) => exact .concat complete fits idle'

theorem begin_goes (fits : payload.length ≤ maxPayloadSize) {whole : List Entry}
    (complete : Complete J whole) (idle : w.side.Staging start (recordsOf whole) []) :
    Goes start J payload (w.begin payload).1 (w.begin payload).2.side :=
  send_goes (w := { w with writer := w.writer.stage payload })
    ⟨fits, whole, complete, Or.inl (idle.stage payload)⟩

theorem finish_goes (fits : payload.length ≤ maxPayloadSize) (ledger : Ledger start J w.side)
    (unbroken : w.writer.broken = false) :
    Goes start J payload (w.finish payload).1 (w.finish payload).2.side := by
  have flushed := ledger.flush unbroken
  unfold Writing.finish
  generalize w.flush = result at flushed ⊢
  match result, flushed with
  | (.waiting (), _), ⟨ledger', unbroken'⟩ => exact ⟨fits, ledger', unbroken'⟩
  | (.ready (.error _), _), ledger' => exact ledger'.skip rfl
  | (.ready (.ok ()), _), ⟨_, complete, idle⟩ => exact begin_goes fits complete idle

/-- A writer that does not refuse a payload is unbroken, and the payload is not too long. -/
theorem Writer.of_refusal?_eq_none {w : Writer} (h : w.refusal? payload = none) :
    w.broken = false ∧ payload.length ≤ w.limit := by
  unfold refusal? at h
  split at h
  · simp at h
  · split at h
    · simp at h
    · next unbroken =>
      split at h
      · simp at h
      · next short => exact ⟨by simpa using unbroken, by omega⟩

/-- **One poll of a write.** -/
theorem pollWrite_goes {stage : Writing.WriteStage} (h : Underway start J payload stage w.side) :
    Goes start J payload (w.pollWrite payload stage).1 (w.pollWrite payload stage).2.side := by
  cases stage with
  | starting =>
    have ledger : Ledger start J w.side := h
    unfold Writing.pollWrite
    cases refusal : w.writer.refusal? payload with
    | some e => exact ledger.skip rfl
    | none =>
      obtain ⟨unbroken, short⟩ := Writer.of_refusal?_eq_none refusal
      have fits : payload.length ≤ maxPayloadSize := Nat.le_trans short ledger.bounded
      -- Without anything staged the record is begun at once; otherwise an earlier one comes first.
      by_cases unstaged : w.writer.staged = []
      · simp only [unstaged, List.isEmpty_nil, if_true]
        obtain ⟨whole, complete, idle⟩ := ledger.idle_of_unstaged unbroken unstaged
        exact begin_goes fits complete idle
      · simp only [List.isEmpty_iff, unstaged, if_false]
        exact finish_goes fits ledger unbroken
  | finishing =>
    obtain ⟨fits, ledger, unbroken⟩ := h
    exact finish_goes fits ledger unbroken
  | sending => exact send_goes h

/-! ## One poll of a shutdown -/

/-- Shutting down asks the outlet, and leaves the wire as it is. -/
theorem sameWire_close (finished : WriteAnswer) (w : Writing) :
    w.side.SameWire (w.close finished).2.side := by
  have kept := w.outlet.shutdown_keeps
  unfold Writing.close
  generalize w.outlet.shutdown = result at kept ⊢
  obtain ⟨_ | cause | _, outlet⟩ := result <;> exact ⟨rfl, kept.1, kept.2⟩

/-- A shutdown that asks the outlet does not go back to its staged record. -/
theorem close_ne_finishing (finished : WriteAnswer) (w : Writing) :
    (w.close finished).1 ≠ .waiting .finishing := by
  unfold Writing.close
  generalize w.outlet.shutdown = result
  obtain ⟨_ | cause | _, outlet⟩ := result <;> simp

/-- What holds of a shutdown between two polls: the ledger, and while the staged record is brought
to its end, the writer is not broken. -/
def ShuttingDown (start : Outlet) (J : List Entry) (progress : Progress Writing.ShutdownStage
    WriteAnswer) (s : WriteSide) : Prop :=
  Ledger start J s ∧ (progress = .waiting .finishing → s.writer.broken = false)

theorem close_shuttingDown (ledger : Ledger start J w.side) (finished : WriteAnswer) :
    ShuttingDown start J (w.close finished).1 (w.close finished).2.side :=
  ⟨ledger.of_same (sameWire_close finished w),
    fun h => absurd h (close_ne_finishing finished w)⟩

theorem finishAndClose_shuttingDown (ledger : Ledger start J w.side)
    (unbroken : w.writer.broken = false) :
    ShuttingDown start J w.finishAndClose.1 w.finishAndClose.2.side := by
  have flushed := ledger.flush unbroken
  unfold Writing.finishAndClose
  generalize w.flush = result at flushed ⊢
  match result, flushed with
  | (.waiting (), _), ⟨ledger', unbroken'⟩ => exact ⟨ledger', fun _ => unbroken'⟩
  | (.ready (.ok ()), _), ⟨_, complete, clean⟩ =>
    exact close_shuttingDown (.idle complete clean) (.ok ())
  | (.ready (.error e), _), ledger' => exact close_shuttingDown ledger' (.error e)

/-- **One poll of a shutdown.** -/
theorem pollShutdown_shuttingDown (announcement : Note) {stage : Writing.ShutdownStage}
    (h : ShuttingDown start J (.waiting stage) w.side) :
    ShuttingDown start J (w.pollShutdown announcement stage).1
      (w.pollShutdown announcement stage).2.side := by
  obtain ⟨ledger, unbroken⟩ := h
  cases stage with
  | starting =>
    simp only [Writing.pollShutdown, Writing.startShutdown]
    split
    · exact ⟨ledger, by simp⟩
    · -- The writer counts as closed from here on, which the wire does not show.
      have closed : Ledger start J ⟨{ w.writer with closed := true }, w.outlet⟩ :=
        ledger.of_same ⟨rfl, rfl, rfl⟩
      split
      · next staged =>
        refine finishAndClose_shuttingDown closed ?_
        simp only [Bool.and_eq_true, Bool.not_eq_true'] at staged
        exact staged.1
      · exact close_shuttingDown closed (.ok ())
  | finishing => exact finishAndClose_shuttingDown ledger (unbroken rfl)
  | closing finished => exact close_shuttingDown ledger finished

/-! ## Calls -/

/-- **One call keeps the ledger**, with the write entered if it is one. -/
theorem Ledger.call {s : WriteSide} (ledger : Ledger start J s) (announcement : Note)
    (c : WriteCall) :
    Ledger start (J ++ journal [(c, (s.call announcement c).1)]) (s.call announcement c).2 := by
  cases c with
  | write payload polls =>
    refine drive_induction (I := fun stage w => Underway start J payload stage (Writing.side w))
      (Q := fun answer w => Ledger start (J ++ [⟨payload, answer⟩]) (Writing.side w))
      ?_ ?_ ?_ polls .starting ⟨s.writer, s.outlet, []⟩ ledger
    · -- A write that is dropped may have staged its record, or even completed it.
      intro stage w underway
      cases stage with
      | starting => exact skip underway rfl
      | finishing => exact skip underway.2.1 rfl
      | sending =>
        obtain ⟨fits, whole, complete, staging | idle⟩ := underway
        · exact .staged (complete.skip rfl) (complete.order.append (.refl _)) fits staging
        · exact .concat complete fits idle
    · intro stage w answer w' underway polled
      have goes := pollWrite_goes underway
      rwa [polled] at goes
    · intro stage w stage' w' underway polled
      have goes := pollWrite_goes underway
      rwa [polled] at goes
  | shutdown polls =>
    -- A shutdown is not entered, whatever its answer.
    have nothing (answer : Option WriteAnswer) : J ++ journal [(.shutdown polls, answer)] = J :=
      List.append_nil J
    rw [nothing]
    refine drive_induction
      (I := fun stage w => ShuttingDown start J (.waiting stage) (Writing.side w))
      (Q := fun _ w => Ledger start J (Writing.side w))
      ?_ ?_ ?_ polls .starting ⟨s.writer, s.outlet, []⟩ ⟨ledger, by simp⟩
    · intro stage w shuttingDown
      exact shuttingDown.1
    · intro stage w answer w' shuttingDown polled
      have goes := pollShutdown_shuttingDown announcement shuttingDown
      rw [polled] at goes
      exact goes.1
    · intro stage w stage' w' shuttingDown polled
      have goes := pollShutdown_shuttingDown announcement shuttingDown
      rwa [polled] at goes

/-- **A run keeps the ledger.** -/
theorem ledger_runAll (announcement : Note) (calls : List WriteCall) {s : WriteSide}
    (ledger : Ledger start [] s) :
    Ledger start (journal (runAll (WriteSide.call announcement) calls s).1)
      (runAll (WriteSide.call announcement) calls s).2 := by
  refine runAll_induction (P := fun done s => Ledger start (journal done) s) ?_ calls ledger
  intro done s c ledger
  rw [journal_append]
  exact ledger.call announcement c

/-- The write side of a new stream has an empty ledger. -/
theorem ledger_new (config : Config) (outlet : Outlet) :
    Ledger outlet [] ⟨.new config, outlet⟩ :=
  .idle .nil ⟨rfl, Nat.min_le_right _ _, rfl, fun _ => rfl, by simp [recordsOf, Writer.new], [],
    rfl, fun _ => rfl⟩

/-! ## Calls on a broken writer -/

/-- A broken writer with nothing staged, whose outlet has taken and was asked for as much as that of
`s`. -/
structure WriteSide.Spent (s t : WriteSide) : Prop where
  broken : t.writer.broken = true
  unstaged : t.writer.staged = []
  accepted : t.outlet.accepted = s.outlet.accepted
  intakes : t.outlet.intakes = s.outlet.intakes

/-- A broken writer refuses every payload. -/
theorem Writer.refusal?_of_broken {w : Writer} (broken : w.broken = true) (payload : List UInt8) :
    ∃ e, w.refusal? payload = some e := by
  unfold refusal?
  by_cases closed : w.closed = true
  · exact ⟨_, by rw [if_pos closed]⟩
  · exact ⟨_, by rw [if_neg closed, if_pos broken]⟩

namespace WriteSide.Spent

variable {s t : WriteSide}

theorem of_same (spent : s.Spent t) {u : WriteSide} (same : t.SameWire u) : s.Spent u := by
  obtain ⟨broken, unstaged, accepted, intakes⟩ := spent
  rw [← same.writer] at broken unstaged
  exact ⟨broken, unstaged, same.accepted.trans accepted, same.intakes.trans intakes⟩

/-- A shutdown of a broken writer only asks the outlet to close. -/
theorem pollShutdown {w : Writing} (spent : s.Spent w.side) (announcement : Note)
    {stage : Writing.ShutdownStage} (h : stage ≠ .finishing) :
    s.Spent (w.pollShutdown announcement stage).2.side ∧
      (w.pollShutdown announcement stage).1 ≠ .waiting .finishing := by
  cases stage with
  | starting =>
    have broken : w.writer.broken = true := spent.broken
    simp only [Writing.pollShutdown, Writing.startShutdown]
    split
    · exact ⟨spent, by simp⟩
    · have closed : s.Spent ⟨{ w.writer with closed := true }, w.outlet⟩ :=
        spent.of_same ⟨rfl, rfl, rfl⟩
      -- A broken writer has nothing to bring to its end, so it goes straight to the close.
      rw [if_neg (by simp [broken])]
      exact ⟨closed.of_same (sameWire_close (.ok ()) ⟨_, _, _⟩), close_ne_finishing (.ok ()) _⟩
  | finishing => exact absurd rfl h
  | closing finished =>
    exact ⟨spent.of_same (sameWire_close finished w), close_ne_finishing finished w⟩

/-- A call on a broken writer offers no byte to the outlet. -/
theorem call (spent : s.Spent t) (announcement : Note) (c : WriteCall) :
    s.Spent (t.call announcement c).2 := by
  cases c with
  -- Every poll refuses, so a write on a broken writer never leaves its first stage.
  | write payload polls =>
    refine drive_induction
      (I := fun (stage : Writing.WriteStage) w => stage = .starting ∧ s.Spent (Writing.side w))
      (Q := fun _ w => s.Spent (Writing.side w)) (fun _ _ h => h.2) ?_ ?_ polls .starting
      ⟨t.writer, t.outlet, []⟩ ⟨rfl, spent⟩
    · rintro stage w answer w' ⟨rfl, spent⟩ polled
      obtain ⟨e, refusal⟩ := Writer.refusal?_of_broken spent.broken payload
      rw [Writing.writer_side] at refusal
      simp only [Writing.pollWrite, refusal, Prod.mk.injEq] at polled
      rw [← polled.2]
      exact spent
    · rintro stage w stage' w' ⟨rfl, spent⟩ polled
      obtain ⟨e, refusal⟩ := Writer.refusal?_of_broken spent.broken payload
      rw [Writing.writer_side] at refusal
      simp [Writing.pollWrite, refusal] at polled
  | shutdown polls =>
    refine drive_induction
      (I := fun (stage : Writing.ShutdownStage) w => stage ≠ .finishing ∧ s.Spent (Writing.side w))
      (Q := fun _ w => s.Spent (Writing.side w)) (fun _ _ h => h.2) ?_ ?_ polls .starting
      ⟨t.writer, t.outlet, []⟩ ⟨by simp, spent⟩
    · rintro stage w answer w' ⟨h, spent⟩ polled
      have polled_spent := spent.pollShutdown announcement h
      rw [polled] at polled_spent
      exact polled_spent.1
    · rintro stage w stage' w' ⟨h, spent⟩ polled
      have polled_spent := spent.pollShutdown announcement h
      rw [polled] at polled_spent
      exact ⟨fun same => polled_spent.2 (congrArg _ same), polled_spent.1⟩

/-- No call on a broken writer offers a byte to the outlet. -/
theorem runAll_call (spent : s.Spent t) (announcement : Note) (calls : List WriteCall) :
    s.Spent (runAll (WriteSide.call announcement) calls t).2 :=
  runAll_induction (P := fun _ t => s.Spent t) (fun _ _ c spent => spent.call announcement c) calls
    spent

end WriteSide.Spent

/-! ## The conclusion -/

namespace Ledger

variable {s : WriteSide}

/-- The writer is broken exactly if a refusal was the last that was heard from the outlet, and what
it has taken are not whole records. -/
theorem broken_iff (ledger : Ledger start J s) :
    ∃ used, start.intakes = used ++ s.outlet.intakes ∧
      (s.writer.broken = true ↔ lastRefuses used = true ∧
        ¬ ∃ payloads : List (List UInt8), (∀ p ∈ payloads, p.length ≤ maxPayloadSize) ∧
          s.outlet.accepted = start.accepted ++ Record.encodeAll payloads) := by
  -- Before the first byte of a record is taken, what has been taken are whole records.
  have whole_of_sent {whole : List Entry} {record : List UInt8} (complete : Complete J whole)
      (staging : s.Staging start (recordsOf whole) record) (untouched : s.writer.sent = []) :
      ∃ payloads : List (List UInt8), (∀ p ∈ payloads, p.length ≤ maxPayloadSize) ∧
        s.outlet.accepted = start.accepted ++ Record.encodeAll payloads := by
    refine ⟨whole.map Entry.payload, ?_, ?_⟩
    · intro p mem
      obtain ⟨e, of_whole, rfl⟩ := List.mem_map.1 mem
      exact complete.fit e of_whole
    · rw [staging.accepted, untouched, List.append_nil, recordsOf]
  cases ledger with
  | idle complete idle =>
    obtain ⟨used, asked, -⟩ := idle.asked
    refine ⟨used, asked, fun broken => absurd (idle.unbroken.symm.trans broken) (by simp), ?_⟩
    rintro ⟨-, not_whole⟩
    exact absurd (whole_of_sent complete idle idle.sent_eq_nil) not_whole
  | staged complete _ _ staging =>
    obtain ⟨used, asked, untouched⟩ := staging.asked
    refine ⟨used, asked, fun broken => absurd (staging.unbroken.symm.trans broken) (by simp), ?_⟩
    rintro ⟨refuses, not_whole⟩
    exact absurd (whole_of_sent complete staging (untouched refuses)) not_whole
  | torn complete _ fits torn =>
    obtain ⟨used, asked, refuses⟩ := torn.asked
    refine ⟨used, asked, fun _ => ⟨refuses, ?_⟩, fun _ => torn.broken⟩
    rintro ⟨payloads, fit, accepted⟩
    obtain ⟨part, proper, taken⟩ := torn.accepted
    rw [taken, List.append_assoc] at accepted
    have others_fit : ∀ p ∈ payloads, p.length ≤ Record.maxPacketSize :=
      fun p mem => Nat.le_trans (fit p mem) maxPayloadSize_le_maxPacketSize
    exact Record.encodeAll_append_part_ne (fun _ mem => complete.length_le mem) others_fit
      (Nat.le_trans fits maxPayloadSize_le_maxPacketSize) proper (List.append_cancel_left accepted)

/-- What has been taken in the writer's own terms: complete records of some of the writes, in order,
and then what is sent of the staged record, or a part of a record that was given up. -/
theorem divides (ledger : Ledger start J s) :
    ∃ whole, whole.Sublist J ∧ (J.filter Entry.succeeded).Sublist whole ∧ (∀ e ∈ whole, e.Fits) ∧
      (s.writer.broken = false →
        s.outlet.accepted = start.accepted ++ recordsOf whole ++ s.writer.sent ∧
        (s.writer.staged = [] ∨ s.writer.unsent ≠ [] ∧ ∃ e, (whole ++ [e]).Sublist J ∧ e.Fits ∧
          s.writer.staged = Record.encode e.payload)) ∧
      (s.writer.broken = true → s.writer.staged = [] ∧
        ∃ e part, (whole ++ [e]).Sublist J ∧ e.Fits ∧
          Record.ProperPart part (Record.encode e.payload) ∧
          s.outlet.accepted = start.accepted ++ recordsOf whole ++ part) := by
  cases ledger with
  | idle complete idle =>
    refine ⟨_, complete.order, complete.succeeded, complete.fit, ?_, ?_⟩
    · exact fun _ => ⟨idle.accepted, Or.inl idle.staged⟩
    · exact fun broken => absurd (idle.unbroken.symm.trans broken) (by simp)
  | staged complete next fits staging =>
    refine ⟨_, complete.order, complete.succeeded, complete.fit, ?_, ?_⟩
    · intro _
      have some_left : s.writer.unsent ≠ [] :=
        fun nothing => Record.encode_ne_nil _ (staging.left nothing)
      exact ⟨staging.accepted, Or.inr ⟨some_left, _, next, fits, staging.staged⟩⟩
    · exact fun broken => absurd (staging.unbroken.symm.trans broken) (by simp)
  | torn complete next fits torn =>
    obtain ⟨part, proper, taken⟩ := torn.accepted
    refine ⟨_, complete.order, complete.succeeded, complete.fit, ?_, ?_⟩
    · exact fun unbroken => absurd (torn.broken.symm.trans unbroken) (by simp)
    · exact fun _ => ⟨torn.unstaged, _, part, next, fits, proper, taken⟩

end Ledger

/-- **The wire behind a writer.** Take any calls on the writer of a new stream, over any outlet.

The sent part of the staged record is no longer than it. The bytes taken are the complete records of
some of the writes, in the order of the calls and no write twice, among them every write that has
succeeded, followed by the sent part of the staged record, which is that of one later write if there
is one, and then not all of it is sent. If the writer is broken, nothing is staged, and a part of
one later record follows, neither empty nor complete.

The writer is broken exactly if the last intake that the outlet was asked for has refused, and the
bytes taken are not whole records; and no call on a broken writer offers a byte to the outlet. -/
theorem writes_keep_wire (config : Config) (outlet : Outlet) (announcement : Note)
    (calls : List WriteCall) :
    let run := runAll (WriteSide.call announcement) calls ⟨.new config, outlet⟩
    let writer := run.2.writer
    let accepted := run.2.outlet.accepted
    writer.sent.length ≤ writer.staged.length ∧
    (∃ whole, whole.Sublist (journal run.1) ∧
      ((journal run.1).filter Entry.succeeded).Sublist whole ∧ (∀ e ∈ whole, e.Fits) ∧
      (writer.broken = false → accepted = outlet.accepted ++ recordsOf whole ++ writer.sent ∧
        (writer.staged = [] ∨ writer.unsent ≠ [] ∧
          ∃ e, (whole ++ [e]).Sublist (journal run.1) ∧ e.Fits ∧
            writer.staged = Record.encode e.payload)) ∧
      (writer.broken = true → writer.staged = [] ∧
        ∃ e part, (whole ++ [e]).Sublist (journal run.1) ∧ e.Fits ∧
          Record.ProperPart part (Record.encode e.payload) ∧
          accepted = outlet.accepted ++ recordsOf whole ++ part)) ∧
    (∃ used, outlet.intakes = used ++ run.2.outlet.intakes ∧
      (writer.broken = true ↔ lastRefuses used = true ∧
        ¬ ∃ payloads : List (List UInt8), (∀ p ∈ payloads, p.length ≤ maxPayloadSize) ∧
          accepted = outlet.accepted ++ Record.encodeAll payloads)) ∧
    (writer.broken = true → ∀ later,
      run.2.Spent (runAll (WriteSide.call announcement) later run.2).2) := by
  intro run writer accepted
  -- All four parts are read off the ledger of the run.
  have ledger := ledger_runAll announcement calls (ledger_new config outlet)
  refine ⟨?_, ledger.divides, ledger.broken_iff, ?_⟩
  · simp [writer, Writer.staged]
  · intro broken later
    obtain ⟨_, -, -, -, -, torn⟩ := ledger.divides
    exact WriteSide.Spent.runAll_call ⟨broken, (torn broken).1, rfl, rfl⟩ announcement later

/-- A write is dropped with three of its four bytes taken, which leaves its record staged. The next
write finds the fourth byte refused: the writer is broken, and later calls change nothing. -/
theorem writes_keep_wire_torn :
    let outlet : Outlet :=
      { intakes := [.upTo 3, .pending, .upTo 0, .all], flushSignals := [], shutdownSignals := [] }
    let announcement := .shuttingDown (.ofIpv4 ⟨[127, 0, 0, 1], rfl⟩ 53)
    let first := (runAll (WriteSide.call announcement) [.write [7, 8] 1] ⟨.new {}, outlet⟩).2
    let both :=
      (runAll (WriteSide.call announcement) [.write [7, 8] 1, .write [9] 1] ⟨.new {}, outlet⟩).2
    let later := (runAll (WriteSide.call announcement) [.write [1] 1, .shutdown 1] both).2
    (first.writer.broken = false ∧
      ∃ whole, first.outlet.accepted = outlet.accepted ++ recordsOf whole ++ first.writer.sent) ∧
    (both.writer.broken = true ∧ both.writer.staged = [] ∧ both.Spent later) := by
  intro outlet announcement first both later
  constructor
  · obtain ⟨-, ⟨whole, -, -, -, unbroken, -⟩, -, -⟩ :=
      writes_keep_wire {} outlet announcement [.write [7, 8] 1]
    have going : first.writer.broken = false := by decide +kernel
    exact ⟨going, whole, (unbroken going).1⟩
  · obtain ⟨-, ⟨_, -, -, -, -, torn⟩, -, spent⟩ :=
      writes_keep_wire {} outlet announcement [.write [7, 8] 1, .write [9] 1]
    have broken : both.writer.broken = true := by decide +kernel
    exact ⟨broken, (torn broken).1, spent broken [.write [1] 1, .shutdown 1]⟩

end DatagramTunnel
