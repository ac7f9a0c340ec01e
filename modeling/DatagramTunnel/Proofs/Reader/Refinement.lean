import DatagramTunnel.Proofs.Reader.Decoder
import DatagramTunnel.Proofs.Records
import DatagramTunnel.Proofs.Sides

/-!
# Reads refine the reference decoder

A reader keeps what has arrived ahead of the records it hands out, and its calls wait and are
dropped at any poll. `ReadSide.decoder` is the reference decoder that such a reader and its inlet
stand for: what is buffered goes back in front of the flow. `fetch_refines` is the simulation for
one poll. By induction over the polls of a call (`call_follows`) and over the calls
(`reads_refine_decoder`), the replies of all calls that are not dropped are those of the decoder.
-/

namespace DatagramTunnel

/-- The decoder that a reader and its inlet stand for. A reader that has lost its framing makes no
more use of what it has buffered. -/
def ReadSide.decoder (s : ReadSide) : Decoder where
  policy := s.reader.policy
  flow := if s.reader.broken then s.inlet.flow else s.inlet.flow.prepend s.reader.buffered
  phase := if s.reader.broken then .lost else if s.reader.ended then .ended else .reading

/-- What holds of a reader between polls: it is not closed, and once its inlet has ended, nothing is
buffered unless the framing is lost. -/
structure ReadSide.Sound (s : ReadSide) : Prop where
  opened : s.reader.closed = false
  emptied : s.reader.ended = true → s.reader.broken = false → s.reader.buffered = []

/-- Soundness is about the reader alone. -/
theorem ReadSide.Sound.of_inlet {s : ReadSide} (sound : s.Sound) (inlet : Inlet) :
    ReadSide.Sound ⟨s.reader, inlet⟩ := ⟨sound.opened, sound.emptied⟩

namespace Reading

/-- A reader at work, without the caller's buffer. -/
def side (r : Reading) : ReadSide := ⟨r.reader, r.inlet⟩

@[simp] theorem reader_side (r : Reading) : r.side.reader = r.reader := rfl

@[simp] theorem inlet_side (r : Reading) : r.side.inlet = r.inlet := rfl

/-- The room of a reader is not used up while its first record is incomplete. -/
theorem room_pos {r : Reading} (h : Record.split? r.reader.buffered = none) :
    0 < readerRoom - r.reader.buffered.length := by
  have short := (Record.split?_eq_none_iff _).1 h
  have most : Record.extent r.reader.buffered ≤ readerRoom := Record.extent_le _
  omega

/-! ## One poll -/

/-- What a poll has to do with the decoder that the reader stands for: an answer is the decoder's
answer, with the same buffer and the same decoder left behind, and waiting changes neither. Where
the reader waits, it has used up one of the waits of the inlet, or the decoder has no answer. -/
def Refines (r : Reading) : Progress Unit ReadAnswer × Reading → Prop
  | (.ready answer, r') => r'.side.Sound ∧ r'.inlet.waits ≤ r.inlet.waits ∧
      r.side.decoder.read r.buffer = (⟨some answer, r'.buffer⟩, r'.side.decoder)
  | (.waiting _, r') => r'.side.Sound ∧ r'.buffer = r.buffer ∧ r'.side.decoder = r.side.decoder ∧
      (r'.inlet.waits < r.inlet.waits ∨
        r'.inlet.waits ≤ r.inlet.waits ∧ (r.side.decoder.read r.buffer).1.answer = none)

/-- A poll that goes on after a step that leaves the decoder as it is. -/
theorem Refines.of_step {r r' : Reading} {result : Progress Unit ReadAnswer × Reading}
    (later : r'.Refines result) (fewer : r'.inlet.waits ≤ r.inlet.waits)
    (buffer : r'.buffer = r.buffer) (decoder : r'.side.decoder = r.side.decoder) :
    r.Refines result := by
  match result, later with
  | (.ready answer, _), ⟨sound, fewer', read⟩ =>
    rw [decoder, buffer] at read
    exact ⟨sound, Nat.le_trans fewer' fewer, read⟩
  | (.waiting _, _), ⟨sound, buffer', decoder', waits⟩ =>
    rw [decoder, buffer] at waits
    refine ⟨sound, buffer'.trans buffer, decoder'.trans decoder, ?_⟩
    rcases waits with fewer' | ⟨fewer', nothing⟩
    · exact Or.inl (Nat.lt_of_lt_of_le fewer' fewer)
    · exact Or.inr ⟨Nat.le_trans fewer' fewer, nothing⟩

variable {r : Reading}

/-- The decoder of a reader that still reads records. -/
theorem decoder_of_reading (unbroken : r.reader.broken = false) (going : r.reader.ended = false) :
    r.side.decoder = ⟨r.reader.policy, r.inlet.flow.prepend r.reader.buffered, .reading⟩ := by
  simp [side, ReadSide.decoder, unbroken, going]

/-- A reader with a complete record in front has not seen the end of its inlet. -/
theorem going_of_split (sound : r.side.Sound) (unbroken : r.reader.broken = false)
    {payload rest : List UInt8} (h : Record.split? r.reader.buffered = some (payload, rest)) :
    r.reader.ended = false := by
  cases ended : r.reader.ended with
  | false => rfl
  | true =>
    have empty : r.reader.buffered = [] := sound.emptied ended unbroken
    rw [empty] at h
    exact absurd h (by simp [Record.split?])

/-- Handing out or dropping the record in front leaves the decoder with what follows it. -/
theorem sound_and_decoder_rest (sound : r.side.Sound) (unbroken : r.reader.broken = false)
    (going : r.reader.ended = false) (rest : List UInt8) :
    ReadSide.Sound ⟨{ r.reader with buffered := rest }, r.inlet⟩ ∧
      ReadSide.decoder ⟨{ r.reader with buffered := rest }, r.inlet⟩ =
        ⟨r.reader.policy, r.inlet.flow.prepend rest, .reading⟩ := by
  refine ⟨⟨sound.opened, ?_⟩, ?_⟩
  · intro ended
    exact absurd (going.symm.trans ended) (by simp)
  · simp [ReadSide.decoder, unbroken, going]

/-- A complete record that fits is handed out, as the decoder does. -/
theorem deliver_refines (sound : r.side.Sound) (unbroken : r.reader.broken = false)
    {payload rest : List UInt8} (h : Record.split? r.reader.buffered = some (payload, rest))
    (fits : payload.length ≤ r.buffer.length) :
    r.Refines (.ready (r.deliver payload rest).1, (r.deliver payload rest).2) := by
  have going := going_of_split sound unbroken h
  obtain ⟨sound_rest, decoder_rest⟩ := sound_and_decoder_rest sound unbroken going rest
  refine ⟨sound_rest, Nat.le_refl _, ?_⟩
  rw [decoder_of_reading unbroken going, Decoder.read_of_split _ _ h, Decoder.handOut, if_pos fits]
  exact Prod.ext rfl decoder_rest.symm

/-- A complete record that does not fit is refused, as the decoder does. -/
theorem refuse_refines (sound : r.side.Sound) (unbroken : r.reader.broken = false)
    {payload rest : List UInt8} (h : Record.split? r.reader.buffered = some (payload, rest))
    (small : r.buffer.length < payload.length) :
    r.Refines (.ready (r.refuse payload rest).1, (r.refuse payload rest).2) := by
  have going := going_of_split sound unbroken h
  have read := Decoder.read_of_split r.reader.policy r.buffer h r.inlet.flow
  rw [Decoder.handOut, if_neg (by omega), ← decoder_of_reading unbroken going] at read
  have policy_eq : r.side.decoder.policy = r.reader.policy := rfl
  rw [policy_eq] at read
  unfold refuse
  -- The policy decides whether the record stays in front; the answer is the same.
  cases policy : r.reader.policy with
  | retain =>
    refine ⟨sound, Nat.le_refl _, ?_⟩
    rw [read, policy]
  | discard =>
    obtain ⟨sound_rest, decoder_rest⟩ := sound_and_decoder_rest sound unbroken going rest
    refine ⟨sound_rest, Nat.le_refl _, ?_⟩
    rw [read, policy, decoder_of_reading unbroken going]
    exact Prod.ext rfl (decoder_rest.trans (by rw [policy])).symm

/-- A stop of the inlet inside a record loses the framing, as for the decoder, whether or not the
reader notes that the inlet has ended. -/
theorem lose_refines (sound : r.side.Sound) (unbroken : r.reader.broken = false)
    (going : r.reader.ended = false) (h : Record.split? r.reader.buffered = none)
    (inside : r.reader.buffered ≠ []) {inlet : Inlet} (fewer : inlet.waits ≤ r.inlet.waits)
    {cause : Option Failure} (stop : r.inlet.flow.next? = some (.stop cause, inlet.flow))
    (ended : Bool) :
    let lost := lose { r with inlet, reader := { r.reader with ended } }
      (cause.getD .endInsideRecord)
    r.Refines (.ready lost.1, lost.2) := by
  -- What is buffered may stay: soundness asks for nothing once the framing is lost.
  refine ⟨⟨sound.opened, ?_⟩, fewer, ?_⟩
  · intro _ unbroken'
    exact absurd unbroken' (by simp [lose])
  · rw [decoder_of_reading unbroken going, Decoder.read_of_stop_inside _ _ h inside stop]
    rfl

/-- A failure of the inlet means to the reader what it means to the decoder. -/
theorem fail_refines (sound : r.side.Sound) (unbroken : r.reader.broken = false)
    (going : r.reader.ended = false) (h : Record.split? r.reader.buffered = none) {inlet : Inlet}
    (fewer : inlet.waits ≤ r.inlet.waits) {cause : Failure}
    (stop : r.inlet.flow.next? = some (.stop (some cause), inlet.flow)) :
    r.Refines (.ready (fail { r with inlet } cause).1, (fail { r with inlet } cause).2) := by
  by_cases empty : r.reader.buffered = []
  · have between : fail { r with inlet } cause = (.error (.io cause), { r with inlet }) := by
      simp [fail, empty]
    rw [between]
    refine ⟨sound.of_inlet inlet, fewer, ?_⟩
    rw [decoder_of_reading unbroken going, empty, Flow.prepend_nil,
      Decoder.read_of_stop _ _ stop]
    simp [Decoder.pass, side, ReadSide.decoder, unbroken, going, empty]
  · have inside : fail { r with inlet } cause = lose { r with inlet } cause := by
      simp [fail, empty]
    rw [inside]
    exact lose_refines sound unbroken going h empty fewer stop r.reader.ended

/-- The end of the inlet means to the reader what it means to the decoder. -/
theorem finish_refines (sound : r.side.Sound) (unbroken : r.reader.broken = false)
    (going : r.reader.ended = false) (h : Record.split? r.reader.buffered = none) {inlet : Inlet}
    (fewer : inlet.waits ≤ r.inlet.waits)
    (stop : r.inlet.flow.next? = some (.stop none, inlet.flow)) :
    r.Refines (.ready (finish { r with inlet }).1, (finish { r with inlet }).2) := by
  by_cases empty : r.reader.buffered = []
  · have between : finish { r with inlet } =
        (.ok none, { r with inlet, reader := { r.reader with ended := true } }) := by
      simp [finish, empty]
    rw [between]
    refine ⟨⟨sound.opened, fun _ _ => empty⟩, fewer, ?_⟩
    rw [decoder_of_reading unbroken going, empty, Flow.prepend_nil,
      Decoder.read_of_stop _ _ stop]
    simp [Decoder.pass, side, ReadSide.decoder, unbroken, empty]
  · have inside : finish { r with inlet } =
        lose { r with inlet, reader := { r.reader with ended := true } } .endInsideRecord := by
      simp [finish, empty]
    rw [inside]
    exact lose_refines sound unbroken going h empty fewer stop true

/-- Bytes that arrive are bytes of the flow: buffering them does not change the decoder. -/
theorem decoder_receive (unbroken : r.reader.broken = false) (going : r.reader.ended = false)
    {b : UInt8} {bs : List UInt8} {inlet : Inlet}
    (arrived : r.inlet.flow = inlet.flow.prepend (b :: bs)) :
    (r.receive (b :: bs) inlet).side.decoder = r.side.decoder := by
  rw [decoder_of_reading unbroken going, arrived, ← Flow.prepend_append]
  simp [receive, side, ReadSide.decoder, unbroken, going]

/-- **The simulation for one poll.** The induction is on the reads of the inlet that the poll makes;
each of them that brings bytes leaves the decoder as it is. -/
theorem fetch_refines (sound : r.side.Sound) : r.Refines r.fetch := by
  fun_induction fetch r with
  | case1 r broken =>
    refine ⟨sound, Nat.le_refl _, ?_⟩
    simp [Decoder.read, ReadSide.decoder, broken]
  | case2 r broken payload rest front answer r' step =>
    have unbroken : r.reader.broken = false := by simpa using broken
    split at step
    · next small =>
      have refused := refuse_refines sound unbroken front small
      rwa [step] at refused
    · next fits =>
      have delivered := deliver_refines sound unbroken front (by omega)
      rwa [step] at delivered
  | case3 r broken front ended =>
    have unbroken : r.reader.broken = false := by simpa using broken
    refine ⟨sound, Nat.le_refl _, ?_⟩
    simp [Decoder.read, ReadSide.decoder, unbroken, ended]
  | case4 r broken front going inlet read =>
    have unbroken : r.reader.broken = false := by simpa using broken
    have going : r.reader.ended = false := by simpa using going
    -- The inlet makes the reader wait: its flow, and so the decoder, is what it was.
    have same : inlet.flow = r.inlet.flow := Inlet.read_flow (room_pos front) read
    refine ⟨sound.of_inlet inlet, rfl, ?_, ?_⟩
    · simp [side, ReadSide.decoder, unbroken, going, same]
    · rcases Inlet.waits_lt_of_pending read with fewer | nothing
      · exact Or.inl fewer
      · refine Or.inr ⟨Inlet.waits_read_le read, ?_⟩
        rw [decoder_of_reading unbroken going, Decoder.read_of_nothing _ _ front nothing]
  | case5 r broken front going cause inlet read answer r' step =>
    have unbroken : r.reader.broken = false := by simpa using broken
    have failed := fail_refines sound unbroken (by simpa using going) front
      (Inlet.waits_read_le read) (Inlet.read_flow (room_pos front) read)
    rwa [step] at failed
  | case6 r broken front going inlet read answer r' step =>
    have unbroken : r.reader.broken = false := by simpa using broken
    have finished := finish_refines sound unbroken (by simpa using going) front
      (Inlet.waits_read_le read) (Inlet.read_flow (room_pos front) read)
    rwa [step] at finished
  | case7 r broken front going b bs inlet read _ ih =>
    have unbroken : r.reader.broken = false := by simpa using broken
    have going : r.reader.ended = false := by simpa using going
    have arrived : r.inlet.flow = inlet.flow.prepend (b :: bs) :=
      Inlet.read_flow (room_pos front) read
    have fewer := Inlet.waits_read_le read
    have later := ih ⟨sound.opened, fun ended => absurd (going.symm.trans ended) (by simp)⟩
    have decoder := decoder_receive unbroken going arrived
    exact later.of_step fewer rfl decoder

/-- A sound reader is not closed, so a poll of a read is a poll for its record. -/
theorem poll_of_sound (sound : r.side.Sound) : r.poll () = r.fetch := by
  have opened : r.reader.closed = false := sound.opened
  rw [poll, opened]
  rfl

theorem poll_refines (sound : r.side.Sound) : r.Refines (r.poll ()) := by
  rw [poll_of_sound sound]
  exact fetch_refines sound

/-- A reader that reads no more records has its answer at once, and leaves its inlet alone. -/
theorem poll_of_settled (sound : r.side.Sound) (settled : r.side.decoder.phase ≠ .reading) :
    ∃ answer, r.poll () = (.ready answer, r) := by
  rw [poll_of_sound sound, fetch]
  -- Settled means that the framing is lost, or that the inlet has ended with nothing buffered.
  by_cases broken : r.reader.broken = true
  · exact ⟨_, by rw [if_pos broken]⟩
  · have unbroken : r.reader.broken = false := by simpa using broken
    have ended : r.reader.ended = true := by
      by_cases ended : r.reader.ended = true
      · exact ended
      · simp [ReadSide.decoder, unbroken, ended] at settled
    have empty : r.reader.buffered = [] := sound.emptied ended unbroken
    refine ⟨.ok none, ?_⟩
    simp [broken, ended, empty, Record.split?]

end Reading

/-! ## One call -/

namespace ReadSide

variable {s : ReadSide}

/-- What one call has to do with the decoder that the read side stands for. -/
structure Follows (s : ReadSide) (c : ReadCall) (reply : Stream.ReadReply) (s' : ReadSide) :
    Prop where
  sound : s'.Sound
  waits : s'.inlet.waits ≤ s.inlet.waits
  /-- A call that is dropped has written nothing, and the decoder has not moved. -/
  dropped : reply.answer = none → reply.buffer = c.buffer ∧ s'.decoder = s.decoder
  /-- A call that has its answer has it from the decoder, which has moved on with it. -/
  answered : reply.answer.isSome → s.decoder.read c.buffer = (reply, s'.decoder)

/-- The reader at work for a call, before it is polled. -/
def reading (s : ReadSide) (c : ReadCall) : Reading := ⟨s.reader, s.inlet, c.buffer, []⟩

theorem call_eq (s : ReadSide) (c : ReadCall) :
    s.call c = (⟨(drive Reading.poll c.polls () (s.reading c)).1,
      (drive Reading.poll c.polls () (s.reading c)).2.buffer⟩,
      (drive Reading.poll c.polls () (s.reading c)).2.side) := rfl

/-- **The simulation for one call.** The invariant over its polls is that nothing has been written
and that the decoder is where it was. -/
theorem call_follows (sound : s.Sound) (c : ReadCall) :
    s.Follows c (s.call c).1 (s.call c).2 := by
  rw [call_eq]
  refine drive_induction
    (I := fun _ r => r.side.Sound ∧ r.inlet.waits ≤ s.inlet.waits ∧ r.buffer = c.buffer ∧
      r.side.decoder = s.decoder)
    (Q := fun answer r => s.Follows c ⟨answer, r.buffer⟩ r.side)
    ?_ ?_ ?_ c.polls () (s.reading c) ⟨sound, Nat.le_refl _, rfl, rfl⟩
  · rintro - r ⟨sound, fewer, buffer, decoder⟩
    exact ⟨sound, fewer, fun _ => ⟨buffer, decoder⟩, by simp⟩
  · rintro _ r answer r' ⟨sound, fewer, buffer, decoder⟩ polled
    have refines := Reading.poll_refines sound
    rw [polled] at refines
    obtain ⟨sound', fewer', read⟩ := refines
    rw [buffer, decoder] at read
    exact ⟨sound', Nat.le_trans fewer' fewer, by simp, fun _ => read⟩
  · rintro _ r _ r' ⟨sound, fewer, buffer, decoder⟩ polled
    have refines := Reading.poll_refines sound
    rw [polled] at refines
    obtain ⟨sound', buffer', decoder', waits⟩ := refines
    refine ⟨sound', ?_, buffer'.trans buffer, decoder'.trans decoder⟩
    rcases waits with fewer' | ⟨fewer', -⟩
    · exact Nat.le_trans (Nat.le_of_lt fewer') fewer
    · exact Nat.le_trans fewer' fewer

/-- **A call that is polled often enough has the decoder's answer**, unless the decoder has none. -/
theorem answer_isSome_call (sound : s.Sound) {c : ReadCall} (often : s.inlet.waits < c.polls)
    (answer : (s.decoder.read c.buffer).1.answer ≠ none) : (s.call c).1.answer.isSome := by
  -- The measure is the waits of the inlet. A poll that waits without using one up would mean that
  -- the decoder has no answer.
  have kept (stage : Unit) (r : Reading) (stage' : Unit) (r' : Reading)
      (h : r.side.Sound ∧ r.buffer = c.buffer ∧ r.side.decoder = s.decoder)
      (polled : r.poll stage = (.waiting stage', r')) :
      (r'.side.Sound ∧ r'.buffer = c.buffer ∧ r'.side.decoder = s.decoder) ∧
        r'.inlet.waits < r.inlet.waits := by
    obtain ⟨sound, buffer, decoder⟩ := h
    have refines := Reading.poll_refines sound
    rw [polled] at refines
    obtain ⟨sound', buffer', decoder', waits⟩ := refines
    refine ⟨⟨sound', buffer'.trans buffer, decoder'.trans decoder⟩, ?_⟩
    rcases waits with fewer | ⟨-, nothing⟩
    · exact fewer
    · rw [buffer, decoder] at nothing
      exact absurd nothing answer
  obtain ⟨given, r, driven, -⟩ := drive_answers Reading.poll (Q := fun _ _ => True)
    (fun r => r.inlet.waits) (fun _ _ _ _ _ _ => trivial) kept () (s.reading c)
    ⟨sound, rfl, rfl⟩ often
  rw [call_eq, driven]
  rfl

/-- The reply to a call that is polled often enough is the decoder's, also where it has none. -/
theorem reply_of_often (sound : s.Sound) {c : ReadCall} (often : s.inlet.waits < c.polls) :
    (s.call c).1 = (s.decoder.read c.buffer).1 := by
  have follows := call_follows sound c
  by_cases nothing : (s.decoder.read c.buffer).1.answer = none
  · have unmoved := Decoder.read_of_unanswered nothing
    cases reply : (s.call c).1.answer with
    | some answer =>
      rw [follows.answered (by simp [reply])]
    | none =>
      obtain ⟨buffer, -⟩ := follows.dropped reply
      rw [unmoved, ← reply, ← buffer]
  · rw [follows.answered (answer_isSome_call sound often nothing)]

/-- A read side whose decoder reads no more records is not changed by a call. -/
theorem call_of_settled (sound : s.Sound) (settled : s.decoder.phase ≠ .reading) (c : ReadCall) :
    (s.call c).2 = s := by
  obtain ⟨answer, polled⟩ := Reading.poll_of_settled (r := s.reading c) sound settled
  rw [call_eq]
  cases c.polls with
  | zero => rfl
  | succ polls => rw [drive, polled]; rfl

/-! ## All calls -/

/-- The buffers and the replies of the calls that had their answer. -/
def completed (steps : List (ReadCall × Stream.ReadReply)) : List (List UInt8 × Stream.ReadReply) :=
  (steps.filter fun step => step.2.answer.isSome).map fun step => (step.1.buffer, step.2)

theorem completed_append (first second : List (ReadCall × Stream.ReadReply)) :
    completed (first ++ second) = completed first ++ completed second := by
  simp [completed]

/-- The buffers are those of calls that were made. -/
theorem mem_of_mem_completed {steps : List (ReadCall × Stream.ReadReply)} {buffer : List UInt8}
    (mem : buffer ∈ (completed steps).map Prod.fst) :
    ∃ c ∈ steps.map Prod.fst, c.buffer = buffer := by
  obtain ⟨entry, of_completed, rfl⟩ := List.mem_map.1 mem
  obtain ⟨step, of_answered, rfl⟩ := List.mem_map.1 of_completed
  exact ⟨step.1, List.mem_map_of_mem (List.mem_filter.1 of_answered).1, rfl⟩

/-- If every call had its answer, there is an entry for each. -/
theorem completed_of_answered {steps : List (ReadCall × Stream.ReadReply)}
    (answered : ∀ step ∈ steps, step.2.answer.isSome) :
    (completed steps).map Prod.fst = (steps.map Prod.fst).map ReadCall.buffer ∧
      (completed steps).map Prod.snd = steps.map Prod.snd := by
  rw [completed, List.filter_eq_self.2 answered]
  simp only [List.map_map]
  exact ⟨rfl, rfl⟩

/-- What holds after any calls, with the decoder that the first of them began with. -/
structure Followed (start : Decoder) (steps : List (ReadCall × Stream.ReadReply)) (s : ReadSide) :
    Prop where
  sound : s.Sound
  /-- A call that was dropped has written nothing. -/
  unwritten : ∀ step ∈ steps, step.2.answer = none → step.2.buffer = step.1.buffer
  /-- The other replies are those of the decoder, which is where the read side stands. -/
  decoded : runAll Decoder.read ((completed steps).map Prod.fst) start =
    (completed steps, s.decoder)

/-- One more call. -/
theorem Followed.call {start : Decoder} {steps : List (ReadCall × Stream.ReadReply)}
    (followed : Followed start steps s) (c : ReadCall) :
    Followed start (steps ++ [(c, (s.call c).1)]) (s.call c).2 := by
  have follows := call_follows followed.sound c
  refine ⟨follows.sound, ?_, ?_⟩
  · intro step mem unanswered
    rcases List.mem_append.1 mem with earlier | last
    · exact followed.unwritten step earlier unanswered
    · obtain rfl := List.mem_singleton.1 last
      exact (follows.dropped unanswered).1
  · rw [completed_append, List.map_append, runAll_append, followed.decoded]
    -- Only an answered call is entered among the completed, and only then has the decoder moved.
    cases reply : (s.call c).1.answer with
    | none =>
      obtain ⟨-, decoder⟩ := follows.dropped reply
      simp [completed, reply, decoder]
    | some answer =>
      have read := follows.answered (by simp [reply])
      simp [completed, reply, runAll_cons, read]

/-- The calls of a run, one after the other. -/
theorem followed_runAll (sound : s.Sound) (calls : List ReadCall) :
    Followed s.decoder (runAll call calls s).1 (runAll call calls s).2 := by
  have start : Followed s.decoder [] s := ⟨sound, by simp, rfl⟩
  exact runAll_induction (P := Followed s.decoder) (fun _ _ c followed => followed.call c) calls
    start

end ReadSide

/-- The read side of a new stream is sound, and stands for the decoder of its inlet's flow. -/
theorem sound_and_decoder_new (config : Config) (inlet : Inlet) :
    ReadSide.Sound ⟨.new config, inlet⟩ ∧
      ReadSide.decoder ⟨.new config, inlet⟩ = ⟨config.shortBufferPolicy, inlet.flow, .reading⟩ :=
  ⟨⟨rfl, fun _ _ => rfl⟩, rfl⟩

/-- **Reads refine the reference decoder.** Take any calls on the reader of a new stream, over any
inlet. The calls that had their answer have it from the decoder on the inlet's flow, and a call that
was dropped has written nothing. One more call that is polled more often than the inlet can still
make it wait has the decoder's reply. Once the decoder has ended or has lost its framing, no call
asks the inlet for anything. -/
theorem reads_refine_decoder (config : Config) (inlet : Inlet) (calls : List ReadCall) :
    let run := runAll ReadSide.call calls ⟨.new config, inlet⟩
    let completed := ReadSide.completed run.1
    runAll Decoder.read (completed.map Prod.fst) ⟨config.shortBufferPolicy, inlet.flow, .reading⟩ =
      (completed, run.2.decoder) ∧
    (∀ step ∈ run.1, step.2.answer = none → step.2.buffer = step.1.buffer) ∧
    (∀ c, run.2.inlet.waits < c.polls → (run.2.call c).1 = (run.2.decoder.read c.buffer).1) ∧
    (run.2.decoder.phase ≠ .reading → ∀ c, (run.2.call c).2 = run.2) := by
  intro run completed
  obtain ⟨sound, decoder⟩ := sound_and_decoder_new config inlet
  have followed := ReadSide.followed_runAll sound calls
  rw [decoder] at followed
  refine ⟨followed.decoded, followed.unwritten, ?_, ?_⟩
  · intro c often
    exact ReadSide.reply_of_often followed.sound often
  · intro settled c
    exact ReadSide.call_of_settled followed.sound settled c

/-- A read is dropped inside a length; later reads get the two packets and the end, where the reader
stays although more comes. -/
theorem reads_refine_decoder_across_chunks :
    let arrivals := [.data [0], .pending, .data [2, 7, 8, 0], .data [1, 9], .ended, .data [0]]
    let calls := [⟨[3, 4, 5], 1⟩, ⟨[3, 4, 5], 1⟩, ⟨[], 1⟩, ⟨[6], 1⟩]
    let run := runAll ReadSide.call calls ⟨.new {}, { arrivals }⟩
    (∃ step ∈ run.1, step.2.answer = none ∧ step.2.buffer = step.1.buffer) ∧
    (run.2.inlet.waits < 1 ∧ (run.2.call ⟨[6], 1⟩).1 = (run.2.decoder.read [6]).1) ∧
    (run.2.decoder.phase ≠ .reading ∧ (run.2.call ⟨[6], 1⟩).2 = run.2) := by
  intro arrivals calls run
  obtain ⟨-, unwritten, often, settled⟩ := reads_refine_decoder {} { arrivals } calls
  refine ⟨⟨_, List.mem_cons_self, ?_⟩, ?_, ?_⟩
  · have dropped : (ReadSide.call ⟨[3, 4, 5], 1⟩ ⟨.new {}, { arrivals }⟩).1.answer = none := by cbv
    exact ⟨dropped, unwritten _ List.mem_cons_self dropped⟩
  · have fewer : run.2.inlet.waits < 1 := by decide +kernel
    exact ⟨fewer, often ⟨[6], 1⟩ fewer⟩
  · have ended : run.2.decoder.phase ≠ .reading := by decide +kernel
    exact ⟨ended, settled ended ⟨[6], 1⟩⟩

end DatagramTunnel
