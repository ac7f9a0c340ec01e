import DatagramTunnel.Proofs.Writer.Finishing

/-!
# Refused writes

A write is refused before it does anything: `call_write_of_refusal`. Once it has begun, only the
outlet can make it fail (`io_of_call_write`), so a payload is reported as too long exactly if the
writer refuses it for that.

What is not refused fits the two bytes of a length. `WriteSide.Stays` says of a step that it stages
no other records than those of certain payloads, and offers an outlet nothing but last parts of
these; it holds of every function of a writer, and so of a run. `oversized_writes_are_refused` puts
this together.
-/

namespace DatagramTunnel

/-- The record counts the bytes of its payload exactly, and a reader has room for all of it. -/
structure Record.Exact (payload record : List UInt8) : Prop where
  counted : ∃ high low, record = high :: low :: payload ∧
    BigEndian.decode high low = payload.length
  room : record.length ≤ readerRoom

theorem Record.exact_encode {payload : List UInt8} (fits : payload.length ≤ maxPacketSize) :
    Exact payload (encode payload) where
  counted := ⟨_, _, rfl, BigEndian.decode_encode (Nat.lt_succ_of_le fits)⟩
  room := by
    rw [length_encode, readerRoom]
    omega

variable {limit : Nat} {allowed : List UInt8 → Prop} {payload : List UInt8} {s t u : WriteSide}
  {w : Writing} {announcement : Note} {e : Error}

/-! ## What a writer stages -/

/-- A writer with a limit that stages nothing, or the record of a payload that is allowed. -/
structure Writer.Within (limit : Nat) (allowed : List UInt8 → Prop) (w : Writer) : Prop where
  limit : w.limit = limit
  staged : w.staged = [] ∨ ∃ payload, allowed payload ∧ w.staged = Record.encode payload

/-- A request to write offers a last part of the record of a payload that is allowed. -/
def Exchange.Offers (allowed : List UInt8 → Prop) : Exchange → Prop
  | .write offered _ => offered ≠ [] ∧ ∃ payload, allowed payload ∧
      offered <:+ Record.encode payload
  | .flush _ | .shutdown _ => True

/-- The step stages no record but those of allowed payloads, and offers the outlet no others. -/
def WriteSide.Stays (limit : Nat) (allowed : List UInt8 → Prop) (s t : WriteSide) : Prop :=
  s.writer.Within limit allowed → t.writer.Within limit allowed ∧
    ∃ exchanges, s.outlet.Serves exchanges t.outlet ∧ ∀ x ∈ exchanges, x.Offers allowed

namespace WriteSide.Stays

/-- A step that makes no request. -/
theorem quiet (outlet : t.outlet = s.outlet)
    (step : s.writer.Within limit allowed → t.writer.Within limit allowed) :
    s.Stays limit allowed t :=
  fun within => ⟨step within, [], outlet ▸ .nil s.outlet, fun _ mem => absurd mem List.not_mem_nil⟩

theorem refl (s : WriteSide) : s.Stays limit allowed s := quiet rfl id

theorem trans (first : s.Stays limit allowed t) (second : t.Stays limit allowed u) :
    s.Stays limit allowed u := by
  intro within
  obtain ⟨within', xs, serves, offers⟩ := first within
  obtain ⟨within'', ys, serves', offers'⟩ := second within'
  refine ⟨within'', xs ++ ys, serves.append serves', fun x mem => ?_⟩
  exact (List.mem_append.1 mem).elim (offers x) (offers' x)

/-- A step that makes one request. -/
theorem single {x : Exchange} (leads : x.Leads s.outlet t.outlet)
    (step : s.writer.Within limit allowed → t.writer.Within limit allowed ∧ x.Offers allowed) :
    s.Stays limit allowed t := by
  intro within
  obtain ⟨within', offers⟩ := step within
  refine ⟨within', [x], .single leads, fun y mem => ?_⟩
  rwa [List.mem_singleton.1 mem]

end WriteSide.Stays

namespace Writer.Within

variable {w : Writer}

theorem clear (within : w.Within limit allowed) : w.clear.Within limit allowed :=
  ⟨within.limit, .inl rfl⟩

theorem advance (within : w.Within limit allowed) (count : Nat) :
    (w.advance count).Within limit allowed :=
  ⟨within.limit, by rw [staged_advance]; exact within.staged⟩

theorem abandoned (within : w.Within limit allowed) : w.abandoned.Within limit allowed := by
  unfold Writer.abandoned
  split
  · exact within.clear
  · exact ⟨within.limit, .inl rfl⟩

/-- What is unsent is a last part of the staged record. -/
theorem offers (within : w.Within limit allowed) (some_left : w.unsent ≠ []) (reply : Reply Nat) :
    (Exchange.write w.unsent reply).Offers allowed := by
  refine ⟨some_left, ?_⟩
  have part : w.unsent <:+ w.staged := List.suffix_append w.sent w.unsent
  rcases within.staged with nothing | ⟨payload, ok, staged⟩
  · exact absurd (List.append_eq_nil_iff.1 nothing).2 some_left
  · exact ⟨payload, ok, staged ▸ part⟩

end Writer.Within

namespace Writing

theorem settle_stays (w : Writing) : w.side.Stays limit allowed w.settle.2.side := by
  rw [side_settle]
  exact .single (x := .flush w.outlet.flush.1) rfl fun within => ⟨within.clear, trivial⟩

/-- A request to write after which the staged record is given up. -/
theorem abandon_stays {reply : Reply Nat} {outlet : Outlet}
    (write : w.outlet.write w.writer.unsent = (reply, outlet)) (some_left : w.writer.unsent ≠ [])
    (cause : Failure) : w.side.Stays limit allowed (abandon { w with outlet } cause).2.side := by
  rw [side_abandon]
  exact .single (x := .write w.writer.unsent reply) write fun within =>
    ⟨within.abandoned, within.offers some_left reply⟩

/-- The induction is on the requests that take some of the bytes. -/
theorem flush_stays (w : Writing) : w.side.Stays limit allowed w.flush.2.side := by
  fun_induction flush w with
  | case1 w none_left => exact w.settle_stays
  | case2 w some_left outlet write =>
    have some_left : w.writer.unsent ≠ [] := mt List.isEmpty_iff.2 some_left
    exact .single (x := .write w.writer.unsent .pending) write fun within =>
      ⟨within, within.offers some_left .pending⟩
  | case3 w some_left cause outlet write answer w' gave_up =>
    have stays : w.side.Stays limit allowed (abandon { w with outlet } cause).2.side :=
      abandon_stays write (mt List.isEmpty_iff.2 some_left) cause
    rwa [gave_up] at stays
  | case4 w some_left outlet write answer w' gave_up =>
    have stays : w.side.Stays limit allowed (abandon { w with outlet } .recordNotTaken).2.side :=
      abandon_stays write (mt List.isEmpty_iff.2 some_left) .recordNotTaken
    rwa [gave_up] at stays
  | case5 w some_left count outlet write ih =>
    have some_left : w.writer.unsent ≠ [] := mt List.isEmpty_iff.2 some_left
    have step : w.side.Stays limit allowed ⟨w.writer.advance (count + 1), outlet⟩ :=
      .single (x := .write w.writer.unsent (.done (count + 1))) write fun within =>
        ⟨within.advance (count + 1), within.offers some_left (.done (count + 1))⟩
    exact step.trans ih

theorem send_stays (w : Writing) (payload : List UInt8) :
    w.side.Stays limit allowed (w.send payload).2.side := by
  have flushed : w.side.Stays limit allowed w.flush.2.side := w.flush_stays
  unfold send
  generalize w.flush = result at flushed ⊢
  match result, flushed with
  | (.waiting (), _), flushed => exact flushed
  | (.ready (.error _), _), flushed => exact flushed
  | (.ready (.ok ()), _), flushed => exact flushed

/-- Only here is a record staged. -/
theorem begin_stays (w : Writing) (ok : allowed payload) :
    w.side.Stays limit allowed (w.begin payload).2.side := by
  have staged : w.side.Stays limit allowed ⟨w.writer.stage payload, w.outlet⟩ :=
    .quiet rfl fun within => ⟨within.limit, .inr ⟨payload, ok, rfl⟩⟩
  exact staged.trans (send_stays { w with writer := w.writer.stage payload } payload)

theorem finish_stays (w : Writing) (ok : allowed payload) :
    w.side.Stays limit allowed (w.finish payload).2.side := by
  have flushed : w.side.Stays limit allowed w.flush.2.side := w.flush_stays
  unfold finish
  generalize w.flush = result at flushed ⊢
  match result, flushed with
  | (.waiting (), _), flushed => exact flushed
  | (.ready (.error _), _), flushed => exact flushed
  | (.ready (.ok ()), w'), flushed => exact flushed.trans (w'.begin_stays ok)

theorem close_stays (w : Writing) (finished : WriteAnswer) :
    w.side.Stays limit allowed (w.close finished).2.side := by
  rcases shut : w.outlet.shutdown with ⟨reply, outlet⟩
  have step : w.side.Stays limit allowed ⟨w.writer, outlet⟩ :=
    .single (x := .shutdown reply) shut fun within => ⟨within, trivial⟩
  simp only [close, shut]
  cases reply <;> exact step

theorem finishAndClose_stays (w : Writing) :
    w.side.Stays limit allowed w.finishAndClose.2.side := by
  have flushed : w.side.Stays limit allowed w.flush.2.side := w.flush_stays
  unfold finishAndClose
  generalize w.flush = result at flushed ⊢
  match result, flushed with
  | (.waiting (), _), flushed => exact flushed
  | (.ready finished, w'), flushed => exact flushed.trans (w'.close_stays finished)

theorem pollWrite_stays (ok : allowed payload) (stage : WriteStage) (w : Writing) :
    w.side.Stays limit allowed (w.pollWrite payload stage).2.side := by
  cases stage with
  | starting =>
    simp only [pollWrite]
    split
    · exact .refl _
    · split
      · exact w.begin_stays ok
      · exact w.finish_stays ok
  | finishing => exact w.finish_stays ok
  | sending => exact w.send_stays payload

theorem pollShutdown_stays (stage : ShutdownStage) (w : Writing) :
    w.side.Stays limit allowed (w.pollShutdown announcement stage).2.side := by
  cases stage with
  | starting =>
    simp only [pollShutdown, startShutdown]
    split
    · exact .refl _
    · have closed : w.side.Stays limit allowed (side { w with
          writer := { w.writer with closed := true }, log := w.log ++ [announcement] }) :=
        .quiet rfl fun within => ⟨within.limit, within.staged⟩
      split
      · exact closed.trans (finishAndClose_stays _)
      · exact closed.trans (close_stays _ (.ok ()))
  | finishing => exact w.finishAndClose_stays
  | closing finished => exact w.close_stays finished

end Writing

/-! ## Which writes are refused -/

/-- When a payload is refused for its length: the other reasons are looked at first. -/
theorem Writer.refusal?_eq_tooLarge_iff {w : Writer} {size most : Nat} :
    w.refusal? payload = some (.packetTooLarge size most) ↔ w.closed = false ∧ w.broken = false ∧
      w.limit < payload.length ∧ size = payload.length ∧ most = w.limit := by
  unfold refusal?
  cases w.closed with
  | true => simp
  | false =>
    cases w.broken with
    | true => simp
    | false =>
      by_cases long : payload.length > w.limit
      · simp [long, eq_comm]
      · simp [long]

/-- **A write that is refused** is refused by its first poll, and changes nothing. -/
theorem WriteSide.call_write_of_refusal (refusal : s.writer.refusal? payload = some e)
    (announcement : Note) (polls : Nat) :
    s.call announcement (.write payload polls) =
      (if polls = 0 then none else some (.error e), s) := by
  -- The check stands in front of everything else, so the outlet is not looked at.
  have refused : Writing.pollWrite payload .starting ⟨s.writer, s.outlet, []⟩ =
      (.ready (.error e), ⟨s.writer, s.outlet, []⟩) := by
    simp only [Writing.pollWrite, refusal]
  simp only [call, Writing.call, drive_of_ready refused]

namespace Writing

/-- How a poll ends of a write that is not refused: it does not begin again, and what makes it fail
is the outlet. -/
def Begun : Progress WriteStage WriteAnswer → Prop
  | .waiting stage => stage ≠ .starting
  | .ready answer => ∀ e, answer = .error e → ∃ cause, e = .io cause

/-- Bringing a record to its end fails because of the outlet. -/
theorem io_of_flush {w' : Writing} (failed : w.flush = (.ready (.error e), w')) :
    ∃ cause, e = .io cause := by
  obtain ⟨xs, left, -, -, told⟩ := w.flush_serves
  rw [failed] at told
  obtain ⟨cause, -, same⟩ := answerOf_eq_error_iff.1 told.1.symm
  exact ⟨cause, same⟩

theorem send_begun (w : Writing) (payload : List UInt8) : Begun (w.send payload).1 := by
  unfold send
  split
  · exact nofun
  · next flushed =>
    rintro _ ⟨rfl⟩
    exact io_of_flush flushed
  · exact fun _ => nofun

theorem finish_begun (w : Writing) (payload : List UInt8) : Begun (w.finish payload).1 := by
  unfold finish
  split
  · exact nofun
  · next flushed =>
    rintro _ ⟨rfl⟩
    exact io_of_flush flushed
  · exact send_begun _ payload

theorem pollWrite_begun {stage : WriteStage}
    (accepted : stage = .starting → w.writer.refusal? payload = none) :
    Begun (w.pollWrite payload stage).1 := by
  cases stage with
  | starting =>
    simp only [pollWrite, accepted rfl]
    split
    · exact send_begun _ payload
    · exact w.finish_begun payload
  | finishing => exact w.finish_begun payload
  | sending => exact w.send_begun payload

end Writing

/-- A write that is not refused fails because of the outlet. -/
theorem WriteSide.io_of_call_write (accepted : s.writer.refusal? payload = none) {polls : Nat} :
    (s.call announcement (.write payload polls)).1 = some (.error e) → ∃ cause, e = .io cause := by
  -- A poll that goes on never goes back to the start, so the check is not made again.
  refine drive_induction
    (I := fun (stage : Writing.WriteStage) (w : Writing) =>
      stage = .starting → w.writer.refusal? payload = none)
    (Q := fun (answer : Option WriteAnswer) _ => answer = some (.error e) → ∃ cause, e = .io cause)
    (fun _ _ _ => nofun) ?_ ?_ polls .starting ⟨s.writer, s.outlet, []⟩ (fun _ => accepted)
  · intro stage w answer w' accepted polled told
    have begun := Writing.pollWrite_begun accepted
    rw [polled] at begun
    exact begun e (Option.some.inj told)
  · intro stage w stage' w' accepted polled starting
    have begun := Writing.pollWrite_begun accepted
    rw [polled] at begun
    exact absurd starting begun

/-- An error that is not the outlet's comes from the check in front of a write. -/
theorem WriteSide.refusal_of_call_write {polls : Nat}
    (failed : (s.call announcement (.write payload polls)).1 = some (.error e))
    (no_io : ∀ cause, e ≠ .io cause) : 0 < polls ∧ s.writer.refusal? payload = some e := by
  cases refusal : s.writer.refusal? payload with
  | none =>
    obtain ⟨cause, same⟩ := io_of_call_write refusal failed
    exact absurd same (no_io cause)
  | some e' =>
    rw [call_write_of_refusal refusal] at failed
    split at failed
    · cases failed
    · next polled =>
      cases failed
      exact ⟨Nat.pos_of_ne_zero polled, rfl⟩

/-! ## Calls -/

theorem WriteSide.call_stays (announcement : Note) (c : WriteCall) (s : WriteSide)
    (ok : ∀ payload polls, c = .write payload polls → payload.length ≤ limit → allowed payload) :
    s.Stays limit allowed (s.call announcement c).2 := by
  cases c with
  | write payload polls =>
    cases refusal : s.writer.refusal? payload with
    | some e =>
      rw [call_write_of_refusal refusal]
      exact .refl s
    | none =>
      intro within
      obtain ⟨-, short⟩ := Writer.of_refusal?_eq_none refusal
      have ok := ok payload polls rfl (within.limit ▸ short)
      exact drive_keeps (R := fun w w' : Writing => w.side.Stays limit allowed w'.side)
        (fun w => .refl w.side) (fun _ _ _ first second => first.trans second)
        (Writing.pollWrite_stays ok) polls .starting ⟨s.writer, s.outlet, []⟩ within
  | shutdown polls =>
    exact drive_keeps (R := fun w w' : Writing => w.side.Stays limit allowed w'.side)
      (fun w => .refl w.side) (fun _ _ _ first second => first.trans second)
      Writing.pollShutdown_stays polls .starting ⟨s.writer, s.outlet, []⟩

theorem WriteSide.runAll_stays (announcement : Note) (calls : List WriteCall) (s : WriteSide)
    (ok : ∀ payload polls, .write payload polls ∈ calls → payload.length ≤ limit →
      allowed payload) :
    s.Stays limit allowed (runAll (WriteSide.call announcement) calls s).2 := by
  induction calls generalizing s with
  | nil => exact .refl s
  | cons c calls ih =>
    rw [runAll_cons]
    have first := s.call_stays announcement c fun payload polls same =>
      ok payload polls (same ▸ List.mem_cons_self)
    have later := ih (s.call announcement c).2 fun payload polls mem =>
      ok payload polls (List.mem_cons_of_mem c mem)
    exact first.trans later

/-- **Payloads that are too long are refused, and a refusal changes nothing.** Take any calls on the
writer of a new stream, whatever its configuration says, over any outlet. The limit is what is
configured, but no more than 65533 bytes. A write reports its payload as too long exactly if it is
polled, the writer is neither closed nor broken, and the payload is over the limit. A write that is
refused, for this or for another reason, leaves the writer as it is, with what is staged, and asks
nothing of any outlet. Every record that is staged, and so all that the outlet is ever offered,
counts the bytes of its payload exactly and fits a reader's room. -/
theorem oversized_writes_are_refused (config : Config) (outlet : Outlet) (announcement : Note)
    (calls : List WriteCall) :
    let limit := min config.maxPayloadSize 65533
    let s := (runAll (WriteSide.call announcement) calls ⟨.new config, outlet⟩).2
    let written := fun payload : List UInt8 =>
      payload.length ≤ limit ∧ ∃ polls, WriteCall.write payload polls ∈ calls
    (∀ payload polls size most,
      (s.call announcement (.write payload polls)).1 =
          some (.error (.packetTooLarge size most)) ↔
        0 < polls ∧ s.writer.closed = false ∧ s.writer.broken = false ∧ limit < payload.length ∧
          size = payload.length ∧ most = limit) ∧
    (∀ payload polls e, (s.call announcement (.write payload polls)).1 = some (.error e) →
      (e = .closed ∨ e = .protocolState .writing ∨ ∃ size most, e = .packetTooLarge size most) →
        ∀ other, WriteSide.call announcement (.write payload polls) ⟨s.writer, other⟩ =
          (some (.error e), ⟨s.writer, other⟩)) ∧
    (s.writer.staged = [] ∨ ∃ payload, written payload ∧ Record.Exact payload s.writer.staged) ∧
    ∃ exchanges, outlet.Serves exchanges s.outlet ∧
      ∀ offered reply, .write offered reply ∈ exchanges → offered ≠ [] ∧
        ∃ payload record, written payload ∧ Record.Exact payload record ∧ offered <:+ record := by
  intro limit s written
  have start : (Writer.new config).Within limit written := ⟨rfl, .inl rfl⟩
  obtain ⟨within, exchanges, serves, offers⟩ := WriteSide.runAll_stays announcement calls
    ⟨.new config, outlet⟩ (fun payload polls mem short => ⟨short, polls, mem⟩) start
  -- No configuration raises the limit over what two bytes can count.
  have exact_record (payload : List UInt8) (allowed : written payload) :
      Record.Exact payload (Record.encode payload) := by
    refine Record.exact_encode (Nat.le_trans allowed.1 ?_)
    exact Nat.le_trans (Nat.min_le_right _ _) (by decide)
  refine ⟨?_, ?_, ?_, exchanges, serves, ?_⟩
  · intro payload polls size most
    constructor
    · intro refused
      obtain ⟨polled, refusal⟩ := WriteSide.refusal_of_call_write refused fun _ => nofun
      rw [Writer.refusal?_eq_tooLarge_iff, within.limit] at refusal
      exact ⟨polled, refusal⟩
    · rintro ⟨polled, reason⟩
      rw [← within.limit] at reason
      rw [WriteSide.call_write_of_refusal (Writer.refusal?_eq_tooLarge_iff.2 reason),
        if_neg (Nat.ne_of_gt polled)]
  · intro payload polls e refused which other
    -- These errors come from the check, which reads the writer and not the outlet.
    have no_io (cause : Failure) : e ≠ .io cause := by
      rintro rfl
      obtain same | same | ⟨size, most, same⟩ := which <;> cases same
    obtain ⟨polled, refusal⟩ := WriteSide.refusal_of_call_write refused no_io
    rw [WriteSide.call_write_of_refusal (s := ⟨s.writer, other⟩) refusal,
      if_neg (Nat.ne_of_gt polled)]
  · refine within.staged.imp_right ?_
    rintro ⟨payload, allowed, staged⟩
    exact ⟨payload, allowed, staged ▸ exact_record payload allowed⟩
  · intro offered reply mem
    obtain ⟨some_left, payload, allowed, part⟩ := offers _ mem
    exact ⟨some_left, payload, _, allowed, exact_record payload allowed, part⟩

/-- A configuration that would not be accepted raises no limit. A write is dropped with the last
byte of its record unsent; a payload of 65534 bytes is refused then, and the record stays staged. -/
theorem dropped_record_survives_refusal :
    let config : Config := { maxPayloadSize := 70000 }
    let outlet : Outlet :=
      { intakes := [.upTo 3, .pending], flushSignals := [], shutdownSignals := [] }
    let announcement := .shuttingDown (.ofIpv4 ⟨[127, 0, 0, 1], rfl⟩ 53)
    let s := (runAll (WriteSide.call announcement) [.write [7, 8] 1] ⟨.new config, outlet⟩).2
    let long : List UInt8 := List.replicate 65534 0
    config.fault? ≠ none ∧ s.writer.sent = [0, 2, 7] ∧
      (∃ payload, Record.Exact payload s.writer.staged) ∧
      ∀ other, WriteSide.call announcement (.write long 1) ⟨s.writer, other⟩ =
        (some (.error (.packetTooLarge long.length 65533)), ⟨s.writer, other⟩) := by
  intro config outlet announcement s long
  have sent : s.writer.sent = [0, 2, 7] := by decide +kernel
  have open_unbroken : s.writer.closed = false ∧ s.writer.broken = false := by decide +kernel
  have too_long : min config.maxPayloadSize 65533 < long.length := by
    rw [List.length_replicate]
    decide
  obtain ⟨too_large, unchanged, staged, -⟩ :=
    oversized_writes_are_refused config outlet announcement [.write [7, 8] 1]
  have refused := (too_large long 1 long.length 65533).2
    ⟨Nat.one_pos, open_unbroken.1, open_unbroken.2, too_long, rfl, rfl⟩
  refine ⟨by decide, sent, ?_, unchanged long 1 _ refused (.inr (.inr ⟨_, _, rfl⟩))⟩
  rcases staged with nothing | ⟨payload, -, exact_record⟩
  · cases sent.symm.trans (List.append_eq_nil_iff.1 nothing).1
  · exact ⟨payload, exact_record⟩

end DatagramTunnel
