import DatagramTunnel.Proofs.Reader.Refinement
import DatagramTunnel.Proofs.Records

/-!
# Reads of whole records

When a stream brings the records of some payloads, and then ends, at a record's end or inside one
more, `repliesTo` are the replies to reads into some buffers, and `replies_of_records` says so for
the reference decoder. With buffers that hold every payload they are the payloads in order, and then
the end or the error (`repliesTo_of_room`). `reads_of_records` carries this over to any calls on a
reader, some of which may be dropped.
-/

namespace DatagramTunnel

/-- The flow that ends, again and again. -/
def Flow.over : Flow := ⟨[], false⟩

theorem Flow.next?_over : Flow.over.next? = some (.stop none, Flow.over) := rfl

/-- The reply that hands out a payload. -/
def handedOut (payload buffer : List UInt8) : Stream.ReadReply :=
  ⟨some (.ok (some payload.length)), payload ++ buffer.drop payload.length⟩

/-- The replies at the end of a stream. Behind whole records it is the end, again and again; behind
a part of a record it is one error that tells of this part, and from then on another. -/
def closing (part : List UInt8) : List (List UInt8) → List Stream.ReadReply
  | [] => []
  | buffer :: buffers =>
    if part = [] then (buffer :: buffers).map fun buffer => ⟨some (.ok none), buffer⟩
    else
      ⟨some (.error (.truncatedPacket (Record.extent part) part.length .endInsideRecord)),
        buffer⟩ :: buffers.map fun buffer => ⟨some (.error (.protocolState .reading)), buffer⟩

/-- The replies to reads of the records of some payloads and then of a part of one more or of
nothing, where the stream ends. -/
def repliesTo (policy : ShortBufferPolicy) (part : List UInt8) :
    List (List UInt8) → List (List UInt8) → List Stream.ReadReply
  | [], buffers => closing part buffers
  | _ :: _, [] => []
  | payload :: payloads, buffer :: buffers =>
    if payload.length ≤ buffer.length then
      handedOut payload buffer :: repliesTo policy part payloads buffers
    else
      ⟨some (.error (.shortBuffer payload.length buffer.length)), buffer⟩ ::
        match policy with
        | .discard => repliesTo policy part payloads buffers
        | .retain => repliesTo policy part (payload :: payloads) buffers
termination_by structural _ buffers => buffers

/-- A read while a payload is in front. -/
theorem repliesTo_cons (policy : ShortBufferPolicy) (part payload buffer : List UInt8)
    (payloads buffers : List (List UInt8)) :
    repliesTo policy part (payload :: payloads) (buffer :: buffers) =
      if payload.length ≤ buffer.length then
        handedOut payload buffer :: repliesTo policy part payloads buffers
      else
        ⟨some (.error (.shortBuffer payload.length buffer.length)), buffer⟩ ::
          match policy with
          | .discard => repliesTo policy part payloads buffers
          | .retain => repliesTo policy part (payload :: payloads) buffers := rfl

/-- With room for every payload, each is handed out in turn. -/
theorem repliesTo_of_room (policy : ShortBufferPolicy) (part : List UInt8)
    {payloads buffers : List (List UInt8)}
    (room : ∀ payload ∈ payloads, ∀ buffer ∈ buffers, payload.length ≤ buffer.length) :
    repliesTo policy part payloads buffers =
      List.zipWith handedOut payloads buffers ++ closing part (buffers.drop payloads.length) := by
  -- The induction is on the payloads: with room for each, a read uses up one payload and one
  -- buffer.
  induction payloads generalizing buffers with
  | nil => simp [repliesTo]
  | cons payload payloads ih =>
    cases buffers with
    | nil => simp [repliesTo, closing]
    | cons buffer buffers =>
      have first := room payload List.mem_cons_self buffer List.mem_cons_self
      have others : ∀ payload ∈ payloads, ∀ buffer ∈ buffers, payload.length ≤ buffer.length :=
        fun p hp b hb => room p (List.mem_cons_of_mem _ hp) b (List.mem_cons_of_mem _ hb)
      rw [repliesTo_cons, if_pos first, ih others]
      rfl

/-- There is always a reply. -/
theorem answer_isSome_of_mem_repliesTo {policy : ShortBufferPolicy} {part : List UInt8}
    {payloads buffers : List (List UInt8)} {reply : Stream.ReadReply}
    (mem : reply ∈ repliesTo policy part payloads buffers) : reply.answer.isSome := by
  -- On the buffers, because a payload that is retained is not used up.
  induction buffers generalizing payloads with
  | nil => cases payloads <;> simp [repliesTo, closing] at mem
  | cons buffer buffers ih =>
    cases payloads with
    | nil =>
      rw [repliesTo, closing] at mem
      split at mem
      · obtain ⟨_, -, rfl⟩ := List.mem_map.1 mem
        rfl
      · rcases List.mem_cons.1 mem with rfl | later
        · rfl
        · obtain ⟨_, -, rfl⟩ := List.mem_map.1 later
          rfl
    | cons payload payloads =>
      rw [repliesTo_cons] at mem
      split at mem
      · rcases List.mem_cons.1 mem with rfl | later
        · rfl
        · exact ih later
      · rcases List.mem_cons.1 mem with rfl | later
        · rfl
        · cases policy with
          | discard => exact ih later
          | retain => exact ih later

namespace Decoder

variable (policy : ShortBufferPolicy)

/-- A decoder that has ended or lost its framing replies the same to every read. -/
theorem replies_of_settled (buffers : List (List UInt8)) (f : Flow) :
    (runAll read buffers ⟨policy, f, .ended⟩).1.map Prod.snd =
        (buffers.map fun buffer => ⟨some (.ok none), buffer⟩) ∧
      (runAll read buffers ⟨policy, f, .lost⟩).1.map Prod.snd =
        buffers.map fun buffer => ⟨some (.error (.protocolState .reading)), buffer⟩ := by
  constructor
  · have unchanged buffer : read buffer ⟨policy, f, .ended⟩ =
      (⟨some (.ok none), buffer⟩, ⟨policy, f, .ended⟩) := rfl
    rw [runAll_of_unchanged unchanged, List.map_map]
    rfl
  · have unchanged buffer : read buffer ⟨policy, f, .lost⟩ =
      (⟨some (.error (.protocolState .reading)), buffer⟩, ⟨policy, f, .lost⟩) := rfl
    rw [runAll_of_unchanged unchanged, List.map_map]
    rfl

/-- The replies at the end of a stream. -/
theorem replies_of_part {part : List UInt8} (incomplete : Record.split? part = none)
    (buffers : List (List UInt8)) :
    (runAll read buffers ⟨policy, Flow.over.prepend part, .reading⟩).1.map Prod.snd =
      closing part buffers := by
  cases buffers with
  | nil => rfl
  | cons buffer buffers =>
    by_cases nothing : part = []
    · subst nothing
      rw [runAll_cons, Flow.prepend_nil, read_of_stop _ _ Flow.next?_over, closing, if_pos rfl]
      exact congrArg _ (replies_of_settled policy buffers _).1
    · rw [runAll_cons, read_of_stop_inside _ _ incomplete nothing Flow.next?_over, closing,
        if_neg nothing]
      exact congrArg _ (replies_of_settled policy buffers _).2

/-- **The replies to reads of whole records and a part of one more.** The induction is on the reads:
each takes the record in front, unless it is retained. -/
theorem replies_of_records {part : List UInt8} (incomplete : Record.split? part = none)
    {payloads : List (List UInt8)} (fit : ∀ p ∈ payloads, p.length ≤ Record.maxPacketSize)
    (buffers : List (List UInt8)) :
    (runAll read buffers ⟨policy, Flow.over.prepend (Record.encodeAll payloads ++ part),
      .reading⟩).1.map Prod.snd = repliesTo policy part payloads buffers := by
  induction buffers generalizing payloads with
  | nil => cases payloads <;> rfl
  | cons buffer buffers ih =>
    cases payloads with
    | nil => exact replies_of_part policy incomplete (buffer :: buffers)
    | cons payload payloads =>
      have front := Record.split?_encode (fit payload List.mem_cons_self)
        (Record.encodeAll payloads ++ part)
      have others : ∀ p ∈ payloads, p.length ≤ Record.maxPacketSize :=
        fun p mem => fit p (List.mem_cons_of_mem _ mem)
      rw [Record.encodeAll_cons, List.append_assoc, runAll_cons, read_of_split _ _ front, handOut]
      by_cases room : payload.length ≤ buffer.length
      · rw [if_pos room, repliesTo_cons, if_pos room]
        exact congrArg _ (ih others)
      · rw [if_neg room, repliesTo_cons, if_neg room]
        cases policy with
        | discard => exact congrArg _ (ih others)
        | retain =>
          -- The record is still in front, so the hypothesis is applied to the same payloads.
          rw [← List.append_assoc, ← Record.encodeAll_cons]
          exact congrArg _ (ih fit)

/-- After any reads, one more has an answer. -/
theorem answer_isSome_after {part : List UInt8} (incomplete : Record.split? part = none)
    {payloads : List (List UInt8)} (fit : ∀ p ∈ payloads, p.length ≤ Record.maxPacketSize)
    (buffers : List (List UInt8)) (buffer : List UInt8) :
    let start : Decoder :=
      ⟨policy, Flow.over.prepend (Record.encodeAll payloads ++ part), .reading⟩
    (read buffer (runAll read buffers start).2).1.answer.isSome := by
  intro start
  -- One read more is one reply more of a list in which there is always a reply.
  have replies : (runAll read (buffers ++ [buffer]) start).1.map Prod.snd =
      repliesTo policy part payloads (buffers ++ [buffer]) :=
    replies_of_records policy incomplete fit (buffers ++ [buffer])
  rw [runAll_append, runAll_cons, List.map_append] at replies
  have mem : (read buffer (runAll read buffers start).2).1 ∈
      repliesTo policy part payloads (buffers ++ [buffer]) := by
    rw [← replies]
    simp
  exact answer_isSome_of_mem_repliesTo mem

end Decoder

namespace ReadSide

/-- What holds after any calls on a reader whose decoder always has an answer: it follows the
decoder, the inlet makes it wait no more often than at first, and only calls are dropped that were
not polled more often than that. -/
structure Answers (start : Decoder) (waits : Nat) (steps : List (ReadCall × Stream.ReadReply))
    (s : ReadSide) : Prop where
  followed : Followed start steps s
  fewer : s.inlet.waits ≤ waits
  answered : ∀ step ∈ steps, waits < step.1.polls → step.2.answer.isSome

/-- One more call. -/
theorem Answers.call {start : Decoder} {waits : Nat} {steps : List (ReadCall × Stream.ReadReply)}
    {s : ReadSide} (answers : Answers start waits steps s)
    (always : ∀ buffers buffer,
      ((runAll Decoder.read buffers start).2.read buffer).1.answer.isSome)
    (c : ReadCall) : Answers start waits (steps ++ [(c, (s.call c).1)]) (s.call c).2 := by
  obtain ⟨followed, fewer, answered⟩ := answers
  refine ⟨followed.call c, Nat.le_trans (call_follows followed.sound c).waits fewer, ?_⟩
  intro step mem often
  rcases List.mem_append.1 mem with earlier | last
  · exact answered step earlier often
  · obtain rfl := List.mem_singleton.1 last
    -- The decoder stands where some reads of its own have brought it, and there it has an answer.
    have next := always ((completed steps).map Prod.fst) c.buffer
    rw [followed.decoded] at next
    rw [reply_of_often followed.sound (Nat.lt_of_le_of_lt fewer often)]
    exact next

/-- **Reads of whole records and a part of one more**, where the inlet ends. The reads that are not
dropped have the replies that are expected, and a read that is polled more often than the inlet can
make it wait is not dropped. -/
theorem reads_of_records {s : ReadSide} (sound : s.Sound) {policy : ShortBufferPolicy}
    {part : List UInt8} (incomplete : Record.split? part = none) {payloads : List (List UInt8)}
    (fit : ∀ p ∈ payloads, p.length ≤ Record.maxPacketSize)
    (decoder : s.decoder =
      ⟨policy, Flow.over.prepend (Record.encodeAll payloads ++ part), .reading⟩)
    (calls : List ReadCall) :
    let steps := (runAll call calls s).1
    (completed steps).map Prod.snd =
        repliesTo policy part payloads ((completed steps).map Prod.fst) ∧
      ∀ step ∈ steps, s.inlet.waits < step.1.polls → step.2.answer.isSome := by
  have always buffers buffer :
      ((runAll Decoder.read buffers s.decoder).2.read buffer).1.answer.isSome := by
    rw [decoder]
    exact Decoder.answer_isSome_after policy incomplete fit buffers buffer
  have begun : Answers s.decoder s.inlet.waits [] s :=
    ⟨⟨sound, by simp, rfl⟩, Nat.le_refl _, by simp⟩
  obtain ⟨followed, -, answered⟩ :=
    runAll_induction (P := Answers s.decoder s.inlet.waits)
      (fun _ _ c answers => answers.call always c) calls begun
  refine ⟨?_, answered⟩
  have replies := Decoder.replies_of_records policy incomplete fit
    ((completed (runAll call calls s).1).map Prod.fst)
  rw [← decoder, followed.decoded] at replies
  exact replies

end ReadSide

end DatagramTunnel
