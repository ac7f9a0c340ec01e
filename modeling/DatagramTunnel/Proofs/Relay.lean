import DatagramTunnel.Proofs.EndToEnd
import DatagramTunnel.Proofs.Writer.Free
import DatagramTunnel.Relay

/-!
# What a relay brings

A relay writes all packets to a transport that takes everything, and reads what comes through of the
bytes. `expected` is what is received, told from the packets alone: those that are wholly inside the
cut, or what becomes of them in a buffer that is too small, and then the end, or an error where the
cut falls inside a record. `relay_brings` says that this is what a relay brings.
-/

namespace DatagramTunnel

/-- Cutting bytes into pieces loses none of them and leaves no piece empty. -/
theorem brings_chunks (size : Nat) (bytes : List UInt8) :
    Brings ((Text.chunks size bytes).map Arrival.data) bytes := by
  -- The induction is on the pieces that are cut off.
  fun_induction Text.chunks size bytes with
  | case1 => exact ⟨by simp, rfl⟩
  | case2 b bytes ih =>
    refine ⟨?_, ?_⟩
    · intro a mem
      rcases List.mem_cons.1 mem with rfl | later
      · exact Or.inr ⟨_, List.cons_ne_nil _ _, rfl⟩
      · exact ih.pieces a later
    · rw [List.map_cons, List.flatMap_cons, ih.joined]
      show b :: bytes.take (size - 1) ++ bytes.drop (size - 1) = b :: bytes
      rw [List.cons_append, List.take_append_drop]

/-- Data alone never makes its reader wait. -/
theorem count_pending_data (pieces : List (List UInt8)) :
    (pieces.map Arrival.data).count .pending = 0 := by
  rw [List.count_eq_zero]
  simp

namespace Relay

/-- What a reply to a read shows. -/
def Received.ofReply : Stream.ReadReply → Received
  | ⟨some (.ok (some size)), buffer⟩ => .packet (buffer.take size)
  | ⟨some (.error e), _⟩ => .failed e
  | _ => .ended

/-- The results up to the first end. -/
def untilEnded : List Received → List Received
  | [] => []
  | .ended :: _ => [.ended]
  | received :: later => received :: untilEnded later

/-- What a number of reads receive of the records of some payloads, and of a part of one more or of
nothing, with buffers of one size. A payload that is longer than that is refused, once or in every
read from then on, as the policy has it. -/
def expected (policy : ShortBufferPolicy) (capacity : Nat) (part : List UInt8) :
    Nat → List (List UInt8) → List Received
  | 0, _ => []
  | reads + 1, payload :: payloads =>
    if payload.length ≤ capacity then
      .packet payload :: expected policy capacity part reads payloads
    else
      .failed (.shortBuffer payload.length capacity) ::
        match policy with
        | .discard => expected policy capacity part reads payloads
        | .retain => List.replicate reads (.failed (.shortBuffer payload.length capacity))
  | reads + 1, [] =>
    if part = [] then List.replicate (reads + 1) .ended
    else
      .failed (.truncatedPacket (Record.extent part) part.length .endInsideRecord) ::
        List.replicate reads (.failed (.protocolState .reading))

/-- A read while a payload is in front. -/
theorem expected_cons (policy : ShortBufferPolicy) (capacity : Nat) (part : List UInt8)
    (reads : Nat) (payload : List UInt8) (payloads : List (List UInt8)) :
    expected policy capacity part (reads + 1) (payload :: payloads) =
      if payload.length ≤ capacity then
        .packet payload :: expected policy capacity part reads payloads
      else
        .failed (.shortBuffer payload.length capacity) ::
          match policy with
          | .discard => expected policy capacity part reads payloads
          | .retain => List.replicate reads (.failed (.shortBuffer payload.length capacity)) := rfl

/-! ## Sending -/

/-- The answer of a call that has one. -/
theorem answered_of_join {answer : Option (Option WriteAnswer)} {a : WriteAnswer}
    (h : answer.join = some a) : answered answer = a := by
  match answer, h with
  | some (some _), h => exact Option.some.inj h

/-- The initiator's stream on a transport that takes everything. -/
theorem initiate_free {config : Config} (valid : config.validate = .ok config) (target : Location) :
    ∃ s, (Handshake.initiate config target 1 (freeTransport [])).outcome = some (.ok s) ∧
      ∃ t, s.HasWriteSide (.shuttingDown target) t ∧
        t.Free config.maxPayloadSize target.encode := by
  -- One poll writes and flushes the target.
  let outlet : Outlet := { (freeTransport []).outlet with accepted := target.encode, flushes := 1 }
  have sent : Sending.poll (.writing target.encode) (freeTransport []).outlet =
      (.ready (.ok ()), outlet) := by
    rw [Sending.poll, Sending.pollWrite_eq, Outlet.push_of_free rfl]
    rfl
  have limit : min config.maxPayloadSize maxPayloadSize = config.maxPayloadSize :=
    Nat.min_eq_left (Config.le_of_validate valid)
  refine ⟨_, ?_, _, hasWriteSide_initiated config target ⟨(freeTransport []).inlet, outlet⟩, ?_⟩
  · rw [Handshake.initiate, valid]
    simp only [drive, sent]
  · exact ⟨by rw [Writer.new, limit], rfl, rfl, rfl, rfl⟩

/-- Every packet is answered, and those that are not too long are on the wire. -/
theorem sendAll_of_free {announcement : Note} {limit : Nat} (packets : List (List UInt8))
    {bytes : List UInt8} {s : Stream} {t : WriteSide} (side : s.HasWriteSide announcement t)
    (free : t.Free limit bytes) :
    (sendAll packets s).1 = packets.map (answerTo limit) ∧
      ∃ t', (sendAll packets s).2.HasWriteSide announcement t' ∧
        t'.Free limit (bytes ++ Record.encodeAll (sendable limit packets)) := by
  -- The invariant is `Free`: after every packet the writer is as it was, with more bytes taken.
  induction packets generalizing bytes s t with
  | nil => exact ⟨rfl, t, side, by simpa [sendable] using free⟩
  | cons packet packets ih =>
    obtain ⟨answer, free'⟩ := free.write announcement packet
    obtain ⟨same, side'⟩ := Stream.writeCall_side announcement (.write packet 1) s t side
    obtain ⟨answers, t', side'', free''⟩ := ih side' free'
    have first : answered (s.write packet 1).1 = answerTo limit packet :=
      answered_of_join (same.trans answer)
    refine ⟨?_, t', side'', ?_⟩
    · rw [List.map_cons, ← first, ← answers]
      rfl
    · have joined : sendable limit [packet] ++ sendable limit packets =
          sendable limit (packet :: packets) := by
        simp only [sendable, ← List.filter_append, List.singleton_append]
      rwa [List.append_assoc, ← Record.encodeAll_append, joined] at free''

/-! ## Receiving -/

/-- A payload that is retained stays in front of every read that it is too long for. -/
theorem expected_retain {capacity : Nat} {payload : List UInt8} (long : ¬ payload.length ≤ capacity)
    (part : List UInt8) (reads : Nat) (payloads : List (List UInt8)) :
    expected .retain capacity part reads (payload :: payloads) =
      List.replicate reads (.failed (.shortBuffer payload.length capacity)) := by
  cases reads with
  | zero => rfl
  | succ reads => rw [expected_cons, if_neg long, List.replicate_succ]

/-- The replies to reads with buffers of one size, told from the packets. -/
theorem map_ofReply_repliesTo (policy : ShortBufferPolicy) (capacity : Nat) (part : List UInt8)
    (reads : Nat) (payloads : List (List UInt8)) :
    (repliesTo policy part payloads (List.replicate reads (List.replicate capacity 0))).map
      Received.ofReply = expected policy capacity part reads payloads := by
  induction reads generalizing payloads with
  | zero => cases payloads <;> rfl
  | succ reads ih =>
    rw [List.replicate_succ]
    cases payloads with
    | nil =>
      by_cases nothing : part = []
      · simp [repliesTo, closing, expected, nothing, Received.ofReply, List.replicate_succ]
      · simp [repliesTo, closing, expected, nothing, Received.ofReply]
    | cons payload payloads =>
      rw [repliesTo_cons, expected_cons, List.length_replicate]
      by_cases room : payload.length ≤ capacity
      · rw [if_pos room, if_pos room, List.map_cons, ih]
        simp [handedOut, Received.ofReply]
      · rw [if_neg room, if_neg room, List.map_cons]
        cases policy with
        | discard => exact congrArg _ (ih payloads)
        | retain =>
          -- The payload is still in front of the later reads, so their replies are expected to
          -- repeat the error.
          have kept := ih (payload :: payloads)
          rw [expected_retain room] at kept
          exact congrArg _ kept

/-- What a number of reads with buffers of one size show. -/
def shown (capacity reads : Nat) (s : Stream) : List Received :=
  (runAll Stream.readCall (List.replicate reads ⟨List.replicate capacity 0, 1⟩) s).1.map
    fun step => .ofReply step.2

/-- A read leaves the target as it is. -/
theorem target_read (buffer : List UInt8) (polls : Nat) (s : Stream) :
    (s.read buffer polls).2.target = s.target := by
  rw [Stream.read]
  cases s.ends.reader? <;> rfl

/-- Receiving is reading until the stream ends. -/
theorem receiveAll_spec (capacity reads : Nat) (s : Stream) :
    (receiveAll capacity reads s).1 = untilEnded (shown capacity reads s) ∧
      (receiveAll capacity reads s).2.target = s.target := by
  induction reads generalizing s with
  | zero => exact ⟨rfl, rfl⟩
  | succ reads ih =>
    have first : s.readCall ⟨List.replicate capacity 0, 1⟩ =
        ((s.read (List.replicate capacity 0) 1).1.getD ⟨none, List.replicate capacity 0⟩,
          (s.read (List.replicate capacity 0) 1).2) := rfl
    have target := target_read (List.replicate capacity 0) 1 s
    rw [receiveAll, shown, List.replicate_succ, runAll_cons, first]
    generalize s.read (List.replicate capacity 0) 1 = result at target ⊢
    -- A packet and an error are received and read on from; everything else ends the reading.
    match result, target with
    | (some ⟨some (.ok (some size)), buffer⟩, s'), target =>
      exact ⟨congrArg (.packet (buffer.take size) :: ·) (ih s').1, (ih s').2.trans target⟩
    | (some ⟨some (.error e), buffer⟩, s'), target =>
      exact ⟨congrArg (.failed e :: ·) (ih s').1, (ih s').2.trans target⟩
    | (some ⟨some (.ok none), buffer⟩, s'), target => exact ⟨rfl, target⟩
    | (some ⟨none, buffer⟩, s'), target => exact ⟨rfl, target⟩
    | (none, s'), target => exact ⟨rfl, target⟩

/-- **Reading what has come through** of whole records and a part of one more, in pieces of any
size. -/
theorem respond_shows {config : Config} (valid : config.validate = .ok config) (target : Location)
    {payloads : List (List UInt8)} {part : List UInt8}
    (fit : ∀ p ∈ payloads, p.length ≤ Record.maxPacketSize) (incomplete : Record.split? part = none)
    (chunk : Nat) :
    ∃ r, (Handshake.respond config 1 (freeTransport ((Text.chunks chunk
          (target.encode ++ Record.encodeAll payloads ++ part)).map Arrival.data))).outcome =
        some (.ok r) ∧ r.target = target ∧
      ∀ capacity reads, shown capacity reads r =
        expected config.shortBufferPolicy capacity part reads payloads := by
  let pieces := Text.chunks chunk (target.encode ++ Record.encodeAll payloads ++ part)
  have at_once : (pieces.map Arrival.data).count .pending < 1 := by
    rw [count_pending_data]
    exact Nat.one_pos
  obtain ⟨r, t, outcome, target_eq, side, sound, waits, decoder⟩ :=
    respond_of_records valid (brings_chunks chunk _) (freeTransport []).outlet at_once
  refine ⟨r, outcome, target_eq, ?_⟩
  intro capacity reads
  let calls := List.replicate reads (⟨List.replicate capacity 0, 1⟩ : ReadCall)
  obtain ⟨replies, answered⟩ := ReadSide.reads_of_records sound incomplete fit decoder calls
  -- Data alone never makes the reader wait, so one poll is enough for every read.
  have all_answered : ∀ step ∈ (runAll ReadSide.call calls t).1, step.2.answer.isSome := by
    intro step mem
    have once : step.1 = ⟨List.replicate capacity 0, 1⟩ :=
      List.eq_of_mem_replicate (fst_mem_of_mem_runAll mem)
    refine answered step mem ?_
    rw [once]
    exact Nat.lt_of_le_of_lt waits at_once
  -- With every read answered, the completed ones are all of them.
  obtain ⟨buffers, all_replies⟩ := ReadSide.completed_of_answered all_answered
  rw [map_fst_runAll, List.map_replicate] at buffers
  rw [shown, (Stream.runAll_readCall calls side).1, ← map_ofReply_repliesTo, ← buffers, ← replies,
    all_replies, List.map_map]
  rfl

/-! ## From packets to packets -/

/-- The packets of a plan that are not too long. -/
def Plan.accepted (plan : Plan) : List (List UInt8) :=
  sendable plan.config.maxPayloadSize plan.packets

/-- What the initiator writes: the target and the accepted packets. -/
def Plan.wire (plan : Plan) : List UInt8 :=
  plan.target.encode ++ Record.encodeAll plan.accepted

/-- The bytes that come through. -/
def Plan.through (plan : Plan) : List UInt8 := (plan.cut.map plan.wire.take).getD plan.wire

/-- The initiator's side of a relay. -/
theorem run_eq {plan : Plan} (valid : plan.config.validate = .ok plan.config) :
    ∃ log, run plan = .ok {
      sent := plan.packets.map (answerTo plan.config.maxPayloadSize)
      shutdown := .ok ()
      wire := plan.wire
      target := (respond plan plan.through).1
      received := (respond plan plan.through).2.1
      log } := by
  obtain ⟨s, outcome, t, side, free⟩ := initiate_free valid plan.target
  obtain ⟨answers, t', side', free'⟩ := sendAll_of_free plan.packets side free
  obtain ⟨same, side''⟩ := Stream.writeCall_side _ (.shutdown 1) _ t' side'
  obtain ⟨answer, accepted⟩ := free'.shutdown (.shuttingDown plan.target)
  have shutdown : answered ((sendAll plan.packets s).2.shutdown 1).1 = .ok () :=
    answered_of_join (same.trans answer)
  have wire : ((sendAll plan.packets s).2.shutdown 1).2.transport.outlet.accepted = plan.wire :=
    (congrArg Outlet.accepted side''.outlet).trans accepted
  refine ⟨((sendAll plan.packets s).2.shutdown 1).2.log ++ (respond plan plan.through).2.2, ?_⟩
  rw [run, outcome]
  simp only [answers, shutdown, wire]
  rfl

/-- A responder whose bytes end inside the target receives nothing. -/
theorem respond_of_cut {plan : Plan} (valid : plan.config.validate = .ok plan.config)
    {bytes missing : List UInt8} (some_missing : missing ≠ [])
    (h : plan.target.encode = bytes ++ missing) :
    ∃ field : Location.Field,
      respond plan bytes = (.error (.truncatedAddress field.cutOff), [], []) := by
  let transport := freeTransport ((Text.chunks plan.chunk bytes).map Arrival.data)
  have flow : transport.inlet.flow = Flow.over.prepend bytes :=
    (brings_chunks plan.chunk bytes).flow
  have at_once : transport.inlet.waits < 1 := by
    show List.count _ ((Text.chunks plan.chunk bytes).map Arrival.data) < 1
    rw [count_pending_data]
    exact Nat.one_pos
  obtain ⟨field, outcome⟩ :=
    Handshake.respond_of_part valid h some_missing flow Flow.next?_over at_once
  refine ⟨field, ?_⟩
  rw [respond, outcome]

/-- What comes through, if the target does: some of the accepted packets, and then a part of the
next one, or nothing. -/
theorem through_eq {plan : Plan}
    (behind : ∀ k, plan.cut = some k → plan.target.encodedLength ≤ k) :
    ∃ inside part, inside <+: plan.accepted ∧
      plan.through = plan.target.encode ++ Record.encodeAll inside ++ part ∧
      (part = [] ∨ ∃ next, inside ++ [next] <+: plan.accepted ∧
        Record.ProperPart part (Record.encode next)) := by
  cases cut : plan.cut with
  | none =>
    refine ⟨plan.accepted, [], List.prefix_rfl, ?_, Or.inl rfl⟩
    rw [Plan.through, cut, List.append_nil]
    rfl
  | some k =>
    have target_in := behind k cut
    rw [← Location.length_encode] at target_in
    -- The target is in front of the cut, so the cut falls among the records.
    obtain ⟨inside, part, taken, front, next⟩ :=
      Record.take_encodeAll (k - plan.target.encode.length) plan.accepted
    refine ⟨inside, part, front, ?_, next⟩
    show (plan.cut.map plan.wire.take).getD plan.wire = _
    rw [cut, List.append_assoc, ← taken]
    show plan.wire.take k = _
    rw [Plan.wire, List.take_append, List.take_of_length_le target_in]

/-- Accepted packets have records. -/
theorem length_accepted_le {plan : Plan} (valid : plan.config.validate = .ok plan.config)
    {packet : List UInt8} (mem : packet ∈ plan.accepted) :
    packet.length ≤ Record.maxPacketSize := by
  have short : packet.length ≤ plan.config.maxPayloadSize := by
    simpa using (List.mem_filter.1 mem).2
  exact Nat.le_trans (Nat.le_trans short (Config.le_of_validate valid))
    maxPayloadSize_le_maxPacketSize

/-- **What a relay brings.** If the configuration is not refused, there is a report. Every packet is
answered: it is sent, unless it is too long. The wire is the target and the records of the accepted
packets, in order, and nothing else.

If the wire is cut inside the target, the responder fails with what was cut off and receives
nothing. Otherwise it has the target, and what comes through of the rest of the wire are the records
of the first few accepted packets, and then a part of the next one's record, or nothing. However the
bytes are cut into pieces, the reads of the responder's stream show what is expected of these
packets and of this part, as often as it is read; the report tells of them up to the first end. -/
theorem relay_brings (plan : Plan) (valid : plan.config.validate = .ok plan.config) :
    ∃ report, run plan = .ok report ∧
      report.sent = plan.packets.map (answerTo plan.config.maxPayloadSize) ∧
      report.shutdown = .ok () ∧
      report.wire = plan.target.encode ++ Record.encodeAll plan.accepted ∧
      (∀ k, plan.cut = some k → k < plan.target.encodedLength →
        (∃ field : Location.Field, report.target = .error (.truncatedAddress field.cutOff)) ∧
          report.received = []) ∧
      ((∀ k, plan.cut = some k → plan.target.encodedLength ≤ k) →
        report.target = .ok plan.target ∧
        ∃ inside part, inside <+: plan.accepted ∧
          plan.through = plan.target.encode ++ Record.encodeAll inside ++ part ∧
          (part = [] ∨ ∃ next, inside ++ [next] <+: plan.accepted ∧
            Record.ProperPart part (Record.encode next) ∧
            Record.extent part = if part.length < Record.lengthSize then Record.lengthSize
              else Record.lengthSize + next.length) ∧
          report.received = untilEnded
            (expected plan.config.shortBufferPolicy plan.capacity part plan.maxReads inside) ∧
          ∃ r, (Handshake.respond plan.config 1 (freeTransport
              ((Text.chunks plan.chunk plan.through).map Arrival.data))).outcome = some (.ok r) ∧
            ∀ reads, shown plan.capacity reads r =
              expected plan.config.shortBufferPolicy plan.capacity part reads inside) := by
  obtain ⟨log, ran⟩ := run_eq valid
  refine ⟨_, ran, rfl, rfl, rfl, ?_, ?_⟩
  · intro k cut short
    rw [← Location.length_encode] at short
    -- The cut falls inside the target: some of it is missing, and nothing follows.
    have some_missing : plan.target.encode.drop k ≠ [] := by
      rw [Ne, List.drop_eq_nil_iff]
      omega
    have through : plan.through = plan.target.encode.take k := by
      show (plan.cut.map plan.wire.take).getD plan.wire = _
      rw [cut]
      show (plan.target.encode ++ _).take k = _
      rw [List.take_append_of_le_length (Nat.le_of_lt short)]
    have parts : plan.target.encode = plan.through ++ plan.target.encode.drop k := by
      rw [through, List.take_append_drop]
    obtain ⟨field, failed⟩ := respond_of_cut valid some_missing parts
    rw [failed]
    exact ⟨⟨field, rfl⟩, rfl⟩
  · intro behind
    obtain ⟨inside, part, front, through, next⟩ := through_eq behind
    have fit : ∀ p ∈ inside, p.length ≤ Record.maxPacketSize :=
      fun p mem => length_accepted_le valid (front.subset mem)
    -- The next packet fits a record, so a part of its record is not read as one.
    have next_fits {next : List UInt8} (front : inside ++ [next] <+: plan.accepted) :
        next.length ≤ Record.maxPacketSize :=
      length_accepted_le valid (front.subset (by simp))
    have incomplete : Record.split? part = none := by
      rcases next with rfl | ⟨next, front, proper⟩
      · rfl
      · exact Record.split?_part (next_fits front) proper
    obtain ⟨r, outcome, target, shows⟩ :=
      respond_shows valid plan.target fit incomplete plan.chunk
    rw [← through] at outcome
    have responded : respond plan plan.through =
        (.ok plan.target, (receiveAll plan.capacity plan.maxReads r).1,
          (receiveAll plan.capacity plan.maxReads r).2.log) := by
      simp only [respond, outcome, (receiveAll_spec _ _ r).2, target]
    rw [responded]
    refine ⟨rfl, inside, part, front, through, ?_, ?_, r, outcome, shows plan.capacity⟩
    · exact next.imp_right fun ⟨next, front, proper⟩ =>
        ⟨next, front, proper, Record.extent_part (next_fits front) proper⟩
    · exact (receiveAll_spec _ _ r).1.trans (congrArg _ (shows _ _))

/-- A packet that is too long is refused, and the wire is cut inside the record of the last one. -/
theorem relay_brings_cut :
    let target := Location.ofIpv4 ⟨[127, 0, 0, 1], rfl⟩ 53
    let plan : Plan :=
      { config := { maxPayloadSize := 3, shortBufferPolicy := .retain }, target,
        packets := [[1], [2, 3, 4, 5], [6, 7]], cut := some 13, chunk := 2, capacity := 1,
        maxReads := 3 }
    plan.config.validate = .ok plan.config ∧
      ∃ report, run plan = .ok report ∧
        report.sent = [.ok (), .error (.packetTooLarge 4 3), .ok ()] ∧
        report.wire = [1, 127, 0, 0, 1, 0, 53, 0, 1, 1, 0, 2, 6, 7] ∧
        report.target = .ok target ∧
        report.received = [.packet [1], .failed (.truncatedPacket 4 3 .endInsideRecord),
          .failed (.protocolState .reading)] := by
  intro target plan
  have valid : plan.config.validate = .ok plan.config := rfl
  obtain ⟨report, ran, sent, -, wire, -, arrived⟩ := relay_brings plan valid
  obtain ⟨target_eq, -⟩ := arrived (by
    intro k cut
    obtain rfl : 13 = k := Option.some.inj cut
    decide)
  have received : (run plan).map Report.received =
      .ok [.packet [1], .failed (.truncatedPacket 4 3 .endInsideRecord),
        .failed (.protocolState .reading)] := by
    simp only [plan, target]
    cbv
  rw [ran] at received
  refine ⟨valid, report, ran, sent, wire.trans (by decide +kernel), target_eq, ?_⟩
  exact Except.ok.inj received

end Relay

end DatagramTunnel
