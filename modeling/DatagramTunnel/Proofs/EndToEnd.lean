import DatagramTunnel.Proofs.Handshake
import DatagramTunnel.Proofs.Reader.Deliveries
import DatagramTunnel.Proofs.Writer.Wire
import Mathlib.Control.Monad.Basic

/-!
# From end to end

An initiator opens a stream and makes any calls on it, over a transport that takes its bytes in any
pieces, fails and makes it wait. Whatever bytes the transport has taken, a responder to which they
are brought finds the target and then the packets whose records are complete among them:
`packets_arrive`. No packet is corrupted or moved, and none is lost whose write has succeeded.
-/

namespace DatagramTunnel

/-- Arrivals that bring some bytes in pieces of at least one byte, with waits anywhere. -/
structure Brings (arrivals : List Arrival) (bytes : List UInt8) : Prop where
  pieces : ∀ a ∈ arrivals, a = .pending ∨ ∃ chunk, chunk ≠ [] ∧ a = .data chunk
  joined : arrivals.flatMap Inlet.bytesOf = bytes

/-- However the bytes are cut up, they come out of the inlet one after the other, and then it
ends. -/
theorem Brings.flow {arrivals : List Arrival} {bytes : List UInt8}
    (brings : Brings arrivals bytes) :
    Inlet.flow { arrivals } = Flow.over.prepend bytes := by
  obtain ⟨pieces, rfl⟩ := brings
  -- A piece of no byte would be an end, which is why the pieces must not be empty.
  have items : arrivals.flatMap Arrival.items =
      (arrivals.flatMap Inlet.bytesOf).map Flow.Item.byte := by
    induction arrivals with
    | nil => rfl
    | cons a arrivals ih =>
      have later := ih fun b mem => pieces b (List.mem_cons_of_mem _ mem)
      rw [List.flatMap_cons, List.flatMap_cons, List.map_append, later]
      congr 1
      rcases pieces a List.mem_cons_self with rfl | ⟨chunk, some_bytes, rfl⟩
      · rfl
      · obtain ⟨b, bs, rfl⟩ := List.exists_cons_of_ne_nil some_bytes
        rfl
  rw [Inlet.flow, items, Flow.prepend, Flow.over, List.append_nil]

namespace Ledger

variable {start : Outlet} {J : List Entry} {s : WriteSide}

/-- What has been taken: complete records, and then a part of one more, or nothing if the writer is
not broken and has sent nothing of a staged record. -/
theorem in_parts (ledger : Ledger start J s) :
    ∃ whole part, Complete J whole ∧
      s.outlet.accepted = start.accepted ++ recordsOf whole ++ part ∧
      (part = [] ∨ ∃ e, (whole ++ [e]).Sublist J ∧ e.Fits ∧
        Record.ProperPart part (Record.encode e.payload)) ∧
      (part = [] ↔ s.writer.broken = false ∧ s.writer.sent = []) := by
  cases ledger with
  | idle complete idle =>
    have unsent : s.writer.sent = [] := idle.sent_eq_nil
    exact ⟨_, [], complete, by rw [idle.accepted, unsent], Or.inl rfl,
      fun _ => ⟨idle.unbroken, unsent⟩, fun _ => rfl⟩
  | staged complete next fits staging =>
    refine ⟨_, s.writer.sent, complete, staging.accepted, ?_, fun h => ⟨staging.unbroken, h⟩,
      fun h => h.2⟩
    -- A staged record may not be begun yet, and then nothing of it is on the wire.
    by_cases nothing : s.writer.sent = []
    · exact Or.inl nothing
    · have some_left : s.writer.unsent ≠ [] :=
        fun none_left => Record.encode_ne_nil _ (staging.left none_left)
      exact Or.inr ⟨_, next, fits, nothing, _, some_left, staging.staged.symm⟩
  | torn complete next fits torn =>
    obtain ⟨part, proper, taken⟩ := torn.accepted
    refine ⟨_, part, complete, taken, Or.inr ⟨_, next, fits, proper⟩,
      fun h => absurd h proper.1, ?_⟩
    rintro ⟨unbroken, -⟩
    exact absurd (torn.broken.symm.trans unbroken) (by simp)

end Ledger

/-- The write side of an initiator's stream. -/
theorem hasWriteSide_initiated (config : Config) (target : Location) (transport : Transport) :
    (Stream.new config target transport (.handshakeSent target)).HasWriteSide (.shuttingDown target)
      ⟨.new config, transport.outlet⟩ :=
  Stream.hasWriteSide_new config target transport _

/-- **What a responder gets** of a target, whole records, and a part of one more or nothing: a
stream for the target, from which these records are read. -/
theorem respond_of_records {config : Config} (valid : config.validate = .ok config)
    {target : Location} {payloads : List (List UInt8)} {part : List UInt8}
    {arrivals : List Arrival}
    (brings : Brings arrivals (target.encode ++ Record.encodeAll payloads ++ part))
    (outlet : Outlet) {polls : Nat} (often : arrivals.count .pending < polls) :
    ∃ r side, (Handshake.respond config polls ⟨{ arrivals }, outlet⟩).outcome = some (.ok r) ∧
      r.target = target ∧ r.HasReadSide side ∧ side.Sound ∧
      side.inlet.waits ≤ arrivals.count .pending ∧
      side.decoder = ⟨config.shortBufferPolicy,
        Flow.over.prepend (Record.encodeAll payloads ++ part), .reading⟩ := by
  let transport : Transport := ⟨{ arrivals }, outlet⟩
  have flow : transport.inlet.flow =
      Flow.over.prepend (target.encode ++ (Record.encodeAll payloads ++ part)) := by
    rw [← List.append_assoc]
    exact brings.flow
  obtain ⟨inlet, left, waits, outcome⟩ := Handshake.respond_of_bytes valid flow often
  obtain ⟨sound, decoder⟩ := sound_and_decoder_new config inlet
  rw [left] at decoder
  exact ⟨_, _, outcome, rfl, ⟨rfl, rfl⟩, sound, waits, decoder⟩

/-- **Packets arrive as they were sent.** Take an initiator's stream for a target, over any
transport, and any calls of writes and shutdowns on it. The bytes that the transport has taken since
the beginning are the target, the complete records of some of the writes, in the order of the calls
and no write twice, among them every write that has succeeded, and then nothing, if the writer is
not broken and has sent nothing of a staged record, or otherwise a part of the record of one later
write.

Let these bytes come to a responder in any pieces, with waits anywhere, and then the end. If its
handshake is polled more often than it can be made to wait, it has a stream for the target. Take any
reads of this stream with buffers that hold every packet. Those that are not dropped hand out the
packets of the complete records one after the other, and then say that the stream has ended, or,
behind a part of a record, that it was cut off there; and a read that is polled more often than it
can be made to wait is not dropped. -/
theorem packets_arrive (config : Config) (target : Location) (polls : Nat) (inlet : Inlet)
    (intakes : List Intake) (flushSignals shutdownSignals : List Signal) {s : Stream}
    (opened : (Handshake.initiate config target polls
      ⟨inlet, { intakes, flushSignals, shutdownSignals }⟩).outcome = some (.ok s))
    (calls : List WriteCall) :
    let run := runAll Stream.writeCall calls s
    let wire := run.2.transport.outlet.accepted
    ∃ whole part, whole.Sublist (journal run.1) ∧
      ((journal run.1).filter Entry.succeeded).Sublist whole ∧
      wire = target.encode ++ recordsOf whole ++ part ∧
      (part = [] ∨ ∃ e, (whole ++ [e]).Sublist (journal run.1) ∧
        Record.ProperPart part (Record.encode e.payload)) ∧
      (∃ writer, run.2.ends.writer? = some writer ∧
        (part = [] ↔ writer.broken = false ∧ writer.sent = [])) ∧
      ∀ (config' : Config) (arrivals : List Arrival) (outlet : Outlet) (polls' : Nat),
        config'.validate = .ok config' → Brings arrivals wire → arrivals.count .pending < polls' →
        ∃ r, (Handshake.respond config' polls' ⟨{ arrivals }, outlet⟩).outcome = some (.ok r) ∧
          r.target = target ∧
          ∀ reads : List ReadCall, (∀ c ∈ reads, Record.maxPacketSize ≤ c.buffer.length) →
            let steps := (runAll Stream.readCall reads r).1
            let completed := ReadSide.completed steps
            let buffers := completed.map Prod.fst
            completed.map Prod.snd =
              List.zipWith handedOut (whole.map Entry.payload) buffers ++
                closing part (buffers.drop whole.length) ∧
            ∀ step ∈ steps, arrivals.count .pending < step.1.polls → step.2.answer.isSome := by
  intro run wire
  obtain ⟨outlet, accepted, rfl⟩ := Handshake.initiate_ok opened
  -- The calls are calls on the write side, whose ledger begins behind the target.
  obtain ⟨same, side⟩ := Stream.runAll_writeCall calls
    (hasWriteSide_initiated config target ⟨inlet, outlet⟩)
  have ledger := ledger_runAll (.shuttingDown target) calls (ledger_new config outlet)
  rw [← same] at ledger
  obtain ⟨whole, part, complete, taken, cut, clean⟩ := ledger.in_parts
  have wire_eq : wire = target.encode ++ recordsOf whole ++ part := by
    show run.2.transport.outlet.accepted = _
    rw [side.outlet, taken, accepted, List.nil_append]
  -- The part is no record, so the responder does not take it for one.
  have incomplete : Record.split? part = none := by
    rcases cut with rfl | ⟨e, -, fits, proper⟩
    · rfl
    · exact Record.split?_part (Nat.le_trans fits maxPayloadSize_le_maxPacketSize) proper
  have fit : ∀ p ∈ whole.map Entry.payload, p.length ≤ Record.maxPacketSize :=
    fun _ mem => complete.length_le mem
  refine ⟨whole, part, complete.order, complete.succeeded, wire_eq, ?_, ⟨_, side.writer, clean⟩, ?_⟩
  · exact cut.imp_right fun ⟨e, next, _, proper⟩ => ⟨e, next, proper⟩
  · intro config' arrivals outlet' polls' valid brings often
    rw [wire_eq] at brings
    obtain ⟨r, t, outcome, target_eq, readSide, sound, waits, decoder⟩ :=
      respond_of_records valid brings outlet' often
    refine ⟨r, outcome, target_eq, ?_⟩
    intro reads room steps completed buffers
    obtain ⟨replies, answered⟩ := ReadSide.reads_of_records sound incomplete fit decoder reads
    rw [← (Stream.runAll_readCall reads readSide).1] at replies answered
    refine ⟨?_, fun step mem polled => answered step mem (Nat.lt_of_le_of_lt waits polled)⟩
    have enough : ∀ p ∈ whole.map Entry.payload, ∀ buffer ∈ buffers, p.length ≤ buffer.length := by
      intro p mem buffer of_completed
      obtain ⟨c, of_steps, rfl⟩ := ReadSide.mem_of_mem_completed of_completed
      rw [map_fst_runAll] at of_steps
      exact Nat.le_trans (fit p mem) (room c of_steps)
    show completed.map Prod.snd = _
    rw [replies, repliesTo_of_room _ _ enough, List.length_map]

/-- A handshake takes two requests. The first write is dropped with three of its four bytes taken,
and the second brings both records to their end. The responder is made to wait inside the target,
and the reads of its stream hand out both packets and then say that it has ended. -/
theorem packets_arrive_in_pieces :
    let target := Location.ofIpv4 ⟨[127, 0, 0, 1], rfl⟩ 53
    let free : Outlet := { intakes := [], flushSignals := [], shutdownSignals := [] }
    let outlet : Outlet := { free with intakes := [.upTo 3, .all, .upTo 3, .pending] }
    let arrivals := [.data [1, 127, 0], .pending, .data [0, 1, 0, 53, 0, 2, 7, 8, 0, 1, 9]]
    let buffer := List.replicate Record.maxPacketSize 0
    let writes : List WriteCall := [.write [7, 8] 1, .write [9] 1]
    let reads : List ReadCall := [⟨buffer, 2⟩, ⟨buffer, 2⟩, ⟨buffer, 2⟩]
    ∃ s r,
      (Handshake.initiate {} target 1 ⟨{ arrivals := [] }, outlet⟩).outcome = some (.ok s) ∧
      (runAll Stream.writeCall writes s).1.map Prod.snd = [none, some (.ok ())] ∧
      Brings arrivals (runAll Stream.writeCall writes s).2.transport.outlet.accepted ∧
      (Handshake.respond {} 2 ⟨{ arrivals }, free⟩).outcome = some (.ok r) ∧ r.target = target ∧
      (runAll Stream.readCall reads r).1.map Prod.snd =
        [handedOut [7, 8] buffer, handedOut [9] buffer, ⟨some (.ok none), buffer⟩] := by
  intro target free outlet arrivals buffer writes reads
  let s : Stream := Stream.new {} target ⟨{ arrivals := [] }, { free with
    intakes := [.upTo 3, .pending], accepted := target.encode, flushes := 1 }⟩
    (.handshakeSent target)
  have opened : (Handshake.initiate {} target 1 ⟨{ arrivals := [] }, outlet⟩).outcome =
      some (.ok s) := by
    simp only [s, outlet, free, target]
    cbv
  have answers : (runAll Stream.writeCall writes s).1 =
      [(.write [7, 8] 1, none), (.write [9] 1, some (.ok ()))] := by decide +kernel
  have taken : (runAll Stream.writeCall writes s).2.transport.outlet.accepted =
      [1, 127, 0, 0, 1, 0, 53, 0, 2, 7, 8, 0, 1, 9] := by decide +kernel
  obtain ⟨whole, part, order, -, wire, -, ⟨writer, ended, clean⟩, responder⟩ :=
    packets_arrive {} target 1 { arrivals := [] } [.upTo 3, .all, .upTo 3, .pending] [] [] opened
      writes
  have brings : Brings arrivals (runAll Stream.writeCall writes s).2.transport.outlet.accepted :=
    ⟨by simp [arrivals], by rw [taken]; rfl⟩
  -- Nothing is cut off, and the bytes are those of both records.
  obtain rfl : part = [] := by
    cases ended
    exact clean.2 ⟨by decide +kernel, by decide +kernel⟩
  obtain rfl : whole = [⟨[7, 8], none⟩, ⟨[9], some (.ok ())⟩] := by
    rw [taken] at wire
    rw [answers] at order
    have among : whole.Sublist [⟨[7, 8], none⟩, ⟨[9], some (.ok ())⟩] := order
    cases among with
    | cons _ second =>
      cases second with
      | cons _ none_left => cases none_left; exact absurd wire (by decide)
      | cons_cons _ none_left => cases none_left; exact absurd wire (by decide)
    | cons_cons _ second =>
      cases second with
      | cons _ none_left => cases none_left; exact absurd wire (by decide)
      | cons_cons _ none_left => cases none_left; rfl
  obtain ⟨r, outcome, target_eq, replies⟩ := responder {} arrivals free 2 rfl brings (by decide)
  refine ⟨s, r, opened, congrArg (List.map Prod.snd) answers, brings, outcome, target_eq, ?_⟩
  have only : ∀ c ∈ reads, c = ⟨buffer, 2⟩ := by simp [reads]
  obtain ⟨handed, answered⟩ := replies reads fun c mem => by simp [only c mem, buffer]
  -- Each read is polled twice, and there is one wait, so that none is dropped.
  have all_answered : ∀ step ∈ (runAll Stream.readCall reads r).1, step.2.answer.isSome := by
    intro step mem
    refine answered step mem ?_
    rw [only step.1 (fst_mem_of_mem_runAll mem)]
    decide
  obtain ⟨buffers, all_replies⟩ := ReadSide.completed_of_answered all_answered
  rw [map_fst_runAll] at buffers
  rw [← all_replies, handed, buffers]
  rfl

end DatagramTunnel
