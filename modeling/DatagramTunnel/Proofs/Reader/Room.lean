import DatagramTunnel.Proofs.Reader.Refinement
import DatagramTunnel.Proofs.Records
import Mathlib.Data.List.Forall2

/-!
# The room of a reader

A reader keeps what has arrived and not been handed out, and asks its inlet for as much as fits
behind that. `reads_never_run_out_of_room` says that this is enough at every moment of every run.
What the inlet has given is the records that reads have taken, one after the other, and then what is
buffered. Whenever the inlet is read, the record in front is incomplete and there is room for the
rest of it, so a read that gets no byte tells of the end of the inlet, and never of a full buffer.

A poll is taken apart into the passes of its loop: `Reading.pass` is one pass, `Reading.fetch_eq`
says that a poll is its passes, and `Reading.requests` lists the reads of the inlet that they make.
`Reading.pass_does` is what one pass does. By induction over the passes, `Reading.fetch_leaves` says
what a poll leaves behind, `Reading.requests_sound` what holds at each read of the inlet, and
`Reading.length_requests_le` how many there are. `ReadSide.call_handled` goes on from polls to
calls, and `accounts_runAll` to runs.
-/

namespace DatagramTunnel

/-! ## Reads of the inlet -/

/-- A read of an inlet: what is buffered when it is made, and how much room it offers. -/
structure Request where
  buffered : List UInt8
  inlet : Inlet
  room : Nat

namespace Request

/-- What the inlet says to the request. -/
def reply (q : Request) : Reply (List UInt8) := (q.inlet.read q.room).1

/-- The inlet behind the request. -/
def left (q : Request) : Inlet := (q.inlet.read q.room).2

/-- The bytes that the request brings. -/
def bytes (q : Request) : List UInt8 := q.reply.bytes

theorem read_eq (q : Request) : q.inlet.read q.room = (q.reply, q.left) := rfl

/-- A request that is made only because bytes are missing, and with room for all of them. -/
structure Sound (q : Request) : Prop where
  /-- The record in front is incomplete. -/
  incomplete : Record.split? q.buffered = none
  /-- All the room that is not in use is offered. -/
  room : q.buffered.length + q.room = 65537
  some_room : 0 < q.room
  /-- The rest of the record in front has room, as far as its length is known. -/
  enough : Record.extent q.buffered - q.buffered.length ≤ q.room
  within : q.bytes.length ≤ q.room
  /-- A read that gets no byte has come to an end of the inlet. -/
  stop : q.reply = .done [] → q.inlet.flow.next? = some (.stop none, q.left.flow)

theorem length_bytes_le (q : Request) : q.bytes.length ≤ q.room := by
  cases reply : q.reply with
  | done chunk =>
    have read := q.read_eq
    rw [reply] at read
    rw [bytes, reply]
    exact Inlet.length_le_of_read read
  | failed cause => simp [bytes, reply, Reply.bytes]
  | pending => simp [bytes, reply, Reply.bytes]

end Request

/-- Bytes have moved from the front of what an inlet brings to the end of a buffer. -/
structure Moved (buffered : List UInt8) (inlet : Inlet) (now : List UInt8) (inlet' : Inlet) :
    Prop where
  bytes : buffered ++ inlet.rest = now ++ inlet'.rest
  taken : inlet'.taken + buffered.length = inlet.taken + now.length

namespace Moved

theorem refl (buffered : List UInt8) (inlet : Inlet) : Moved buffered inlet buffered inlet :=
  ⟨rfl, rfl⟩

theorem trans {first second third : List UInt8} {i j k : Inlet} (earlier : Moved first i second j)
    (later : Moved second j third k) : Moved first i third k := by
  refine ⟨earlier.bytes.trans later.bytes, ?_⟩
  have := earlier.taken
  have := later.taken
  omega

/-- What has left the front of the buffer can be counted in. -/
theorem append_left {buffered now : List UInt8} {i j : Inlet} (moved : Moved buffered i now j)
    (front : List UInt8) : Moved (front ++ buffered) i (front ++ now) j := by
  refine ⟨?_, ?_⟩
  · rw [List.append_assoc, moved.bytes, List.append_assoc]
  · have := moved.taken
    simp only [List.length_append]
    omega

end Moved

theorem Request.moved (q : Request) : Moved q.buffered q.inlet (q.buffered ++ q.bytes) q.left := by
  have bytes : q.bytes ++ q.left.rest = q.inlet.rest := Inlet.bytes_append_rest q.read_eq
  refine ⟨by rw [List.append_assoc, bytes], ?_⟩
  have conserved := Inlet.taken_read q.read_eq
  have lengths := congrArg List.length bytes
  simp only [List.length_append, Inlet.unread] at conserved lengths ⊢
  omega

/-- Requests that follow each other, up to what is buffered and to the inlet in the end. Each is
made where the one before has left the inlet, with what that one has brought in the buffer. -/
inductive InTurn : List UInt8 → Inlet → List Request → List UInt8 → Inlet → Prop where
  | done {buffered : List UInt8} {inlet : Inlet} : InTurn buffered inlet [] buffered inlet
  | next {q : Request} {later : List Request} {now : List UInt8} {inlet : Inlet}
      (follow : InTurn (q.buffered ++ q.bytes) q.left later now inlet) :
      InTurn q.buffered q.inlet (q :: later) now inlet

namespace InTurn

variable {buffered now : List UInt8} {i j : Inlet} {requests : List Request}

theorem moved (follow : InTurn buffered i requests now j) : Moved buffered i now j := by
  induction follow with
  | done => exact .refl _ _
  | next _ ih => exact .trans (Request.moved _) ih

theorem length_le (follow : InTurn buffered i requests now j) (sound : ∀ q ∈ requests, q.Sound)
    (room : buffered.length ≤ readerRoom) : now.length ≤ readerRoom := by
  induction follow with
  | done => exact room
  | @next q later now inlet follow ih =>
    obtain ⟨first, others⟩ := List.forall_mem_cons.1 sound
    -- What a request brings fits the room that it offered, and that was all there was.
    have brought := first.within
    have offered : q.buffered.length + q.room = readerRoom := first.room
    refine ih others ?_
    rw [List.length_append]
    omega

end InTurn

/-! ## Records that are taken -/

/-- Whether an answer is that of a read which takes the record in front. -/
def takesRecord (policy : ShortBufferPolicy) : Option ReadAnswer → Bool
  | some (.ok (some _)) => true
  | some (.error (.shortBuffer _ _)) => policy = .discard
  | _ => false

/-- The answer and the buffer of a read that takes a payload: it hands the payload out, or discards
it. -/
inductive Takes (policy : ShortBufferPolicy) (buffer payload : List UInt8) :
    Option ReadAnswer → List UInt8 → Prop where
  | delivered (fits : payload.length ≤ buffer.length) :
      Takes policy buffer payload (some (.ok (some payload.length)))
        (payload ++ buffer.drop payload.length)
  | discarded (small : buffer.length < payload.length) (discard : policy = .discard) :
      Takes policy buffer payload (some (.error (.shortBuffer payload.length buffer.length))) buffer

theorem Takes.takesRecord {policy : ShortBufferPolicy} {buffer payload buffer' : List UInt8}
    {answer : Option ReadAnswer} (taken : Takes policy buffer payload answer buffer') :
    takesRecord policy answer = true := by
  cases taken with
  | delivered fits => rfl
  | discarded small discard => exact decide_eq_true discard

/-- What a read does to `now`, all that it has had buffered: it takes the record in front, or keeps
everything. -/
inductive Handles (policy : ShortBufferPolicy) (buffer now : List UInt8) :
    Option ReadAnswer → List UInt8 → List UInt8 → Prop where
  | takes {payload rest buffer' : List UInt8} {answer : Option ReadAnswer}
      (front : Record.split? now = some (payload, rest))
      (taken : Takes policy buffer payload answer buffer') :
      Handles policy buffer now answer buffer' rest
  | keeps {answer : Option ReadAnswer} (kept : takesRecord policy answer = false) :
      Handles policy buffer now answer buffer now

namespace Handles

variable {policy : ShortBufferPolicy} {buffer now buffer' rest : List UInt8}
  {answer : Option ReadAnswer}

/-- Only what is buffered is removed from the buffer. -/
theorem rest_eq (handles : Handles policy buffer now answer buffer' rest) :
    if takesRecord policy answer then
      Record.extent now ≤ now.length ∧ rest = now.drop (Record.extent now)
    else rest = now := by
  cases handles with
  | takes front taken =>
    obtain ⟨within, dropped⟩ := Record.drop_extent_of_split? front
    rw [if_pos taken.takesRecord]
    exact ⟨within, dropped.symm⟩
  | keeps kept => rw [if_neg (by rw [kept]; exact Bool.false_ne_true)]

theorem taken_or_kept (handles : Handles policy buffer now answer buffer' rest) :
    (takesRecord policy answer = true ∧ ∃ payload, now = Record.encode payload ++ rest ∧
      Takes policy buffer payload answer buffer') ∨
    takesRecord policy answer = false ∧ rest = now := by
  cases handles with
  | takes front taken => exact Or.inl ⟨taken.takesRecord, _, Record.eq_of_split? front, taken⟩
  | keeps kept => exact Or.inr ⟨kept, rfl⟩

/-- A read without an answer has done nothing. -/
theorem of_none (handles : Handles policy buffer now none buffer' rest) :
    buffer' = buffer ∧ rest = now := by
  cases handles with
  | takes front taken => cases taken
  | keeps kept => exact ⟨rfl, rfl⟩

theorem length_le (handles : Handles policy buffer now answer buffer' rest) :
    rest.length ≤ now.length := by
  cases handles with
  | takes front taken =>
    obtain ⟨-, rfl⟩ := Record.drop_extent_of_split? front
    rw [List.length_drop]
    exact Nat.sub_le _ _
  | keeps kept => exact Nat.le_refl _

end Handles

namespace Reading

/-! ## One pass -/

/-- The request that a reader makes when the record in front is incomplete. -/
def request (r : Reading) : Request :=
  ⟨r.reader.buffered, r.inlet, readerRoom - r.reader.buffered.length⟩

/-- What comes of one pass of a poll's loop. -/
inductive Pass where
  /-- The poll is over, and the inlet was not read. -/
  | settled (result : Progress Unit ReadAnswer × Reading)
  /-- The poll is over with what the inlet has said. -/
  | stopped (q : Request) (result : Progress Unit ReadAnswer × Reading)
  /-- The loop goes on with what the inlet has brought. -/
  | goesOn (q : Request) (next : Reading)

/-- The first pass of a poll. -/
def pass (r : Reading) : Pass :=
  if r.reader.broken then .settled (.ready (.error (.protocolState .reading)), r)
  else match Record.split? r.reader.buffered with
  | some (payload, rest) =>
    let (answer, r) :=
      if r.buffer.length < payload.length then r.refuse payload rest else r.deliver payload rest
    .settled (.ready answer, r)
  | none =>
    if r.reader.ended then .settled (.ready (.ok none), r)
    else match r.inlet.read r.request.room with
      | (.pending, inlet) => .stopped r.request (.waiting (), { r with inlet })
      | (.failed cause, inlet) =>
        let (answer, r') := { r with inlet }.fail cause
        .stopped r.request (.ready answer, r')
      | (.done [], inlet) =>
        let (answer, r') := { r with inlet }.finish
        .stopped r.request (.ready answer, r')
      | (.done (b :: bs), inlet) => .goesOn r.request (r.receive (b :: bs) inlet)

/-- **A poll is its passes.** -/
theorem fetch_eq (r : Reading) : r.fetch = match r.pass with
    | .settled result => result
    | .stopped _ result => result
    | .goesOn _ next => next.fetch := by
  -- In each case of the loop's body, the pass takes the same branch.
  fun_cases fetch r <;> simp only [pass, request, Bool.false_eq_true, if_true, if_false, *]

theorem reply_and_left_of_read {r : Reading} {reply : Reply (List UInt8)} {inlet : Inlet}
    (read : r.inlet.read r.request.room = (reply, inlet)) :
    r.request.reply = reply ∧ inlet = r.request.left :=
  ⟨congrArg Prod.fst read, (congrArg Prod.snd read).symm⟩

theorem request_sound {r : Reading} (incomplete : Record.split? r.reader.buffered = none) :
    r.request.Sound := by
  have some_room := room_pos incomplete
  have extent : Record.extent r.reader.buffered ≤ readerRoom := Record.extent_le _
  refine ⟨incomplete, ?_, some_room, Nat.sub_le_sub_right extent _, r.request.length_bytes_le,
    fun nothing => ?_⟩
  · show r.reader.buffered.length + (readerRoom - r.reader.buffered.length) = readerRoom
    omega
  · -- With room offered, a read of no byte can only be an end.
    have read := r.request.read_eq
    rw [nothing] at read
    exact Inlet.read_flow some_room read

/-- The answer of a poll, if it has one. -/
def answer? : Progress Unit ReadAnswer → Option ReadAnswer
  | .ready answer => some answer
  | .waiting _ => none

/-- What a poll leaves in the reader and in the caller's buffer, where `now` is all that it has had
buffered. -/
structure Leaves (r : Reading) (now : List UInt8) (result : Progress Unit ReadAnswer × Reading) :
    Prop where
  policy : result.2.reader.policy = r.reader.policy
  handles : Handles r.reader.policy r.buffer now (answer? result.1) result.2.buffer
    result.2.reader.buffered

/-- What a pass does. -/
def Does (r : Reading) : Pass → Prop
  | .settled result => result.2.inlet = r.inlet ∧ r.Leaves r.reader.buffered result
  | .stopped q result => (q = r.request ∧ q.Sound) ∧ q.bytes = [] ∧ result.2.inlet = q.left ∧
      r.Leaves r.reader.buffered result
  | .goesOn q next => (q = r.request ∧ q.Sound) ∧ ∃ b bs, q.reply = .done (b :: bs) ∧
      next = r.receive (b :: bs) q.left

theorem deliver_leaves {r : Reading} {payload rest : List UInt8}
    (front : Record.split? r.reader.buffered = some (payload, rest))
    (fits : payload.length ≤ r.buffer.length) :
    (r.deliver payload rest).2.inlet = r.inlet ∧
      r.Leaves r.reader.buffered (.ready (r.deliver payload rest).1, (r.deliver payload rest).2) :=
  ⟨rfl, rfl, .takes front (.delivered fits)⟩

theorem refuse_leaves {r : Reading} {payload rest : List UInt8}
    (front : Record.split? r.reader.buffered = some (payload, rest))
    (small : r.buffer.length < payload.length) :
    (r.refuse payload rest).2.inlet = r.inlet ∧
      r.Leaves r.reader.buffered (.ready (r.refuse payload rest).1, (r.refuse payload rest).2) := by
  unfold refuse
  cases policy : r.reader.policy with
  | retain => exact ⟨rfl, rfl, .keeps (by rw [policy]; rfl)⟩
  | discard => exact ⟨rfl, rfl, .takes front (.discarded small policy)⟩

theorem fail_leaves (r : Reading) (inlet : Inlet) (cause : Failure) :
    let failed := { r with inlet }.fail cause
    failed.2.inlet = inlet ∧ r.Leaves r.reader.buffered (.ready failed.1, failed.2) := by
  simp only [fail]
  split
  · exact ⟨rfl, rfl, .keeps rfl⟩
  · exact ⟨rfl, rfl, .keeps rfl⟩

theorem finish_leaves (r : Reading) (inlet : Inlet) :
    let finished := { r with inlet }.finish
    finished.2.inlet = inlet ∧ r.Leaves r.reader.buffered (.ready finished.1, finished.2) := by
  simp only [finish]
  split
  · exact ⟨rfl, rfl, .keeps rfl⟩
  · exact ⟨rfl, rfl, .keeps rfl⟩

/-- **One pass.** It makes a request only while the record in front is incomplete, and it goes on
only with a byte that has come. -/
theorem pass_does (r : Reading) : r.Does r.pass := by
  fun_cases pass r with
  | case1 broken => exact ⟨rfl, rfl, .keeps rfl⟩
  | case2 unbroken payload rest front answer r' handed =>
    split at handed
    · next small =>
      have refused := refuse_leaves front small
      rwa [handed] at refused
    · next fits =>
      have delivered := deliver_leaves front (Nat.not_lt.1 fits)
      rwa [handed] at delivered
  | case3 unbroken incomplete ended => exact ⟨rfl, rfl, .keeps rfl⟩
  | case4 unbroken incomplete going inlet read =>
    obtain ⟨reply, left⟩ := reply_and_left_of_read read
    have nothing : r.request.bytes = [] := congrArg Reply.bytes reply
    exact ⟨⟨rfl, request_sound incomplete⟩, nothing, left, rfl, .keeps rfl⟩
  | case5 unbroken incomplete going cause inlet read answer r' failed =>
    obtain ⟨reply, left⟩ := reply_and_left_of_read read
    have nothing : r.request.bytes = [] := congrArg Reply.bytes reply
    obtain ⟨same, leaves⟩ := fail_leaves r inlet cause
    rw [failed] at same leaves
    exact ⟨⟨rfl, request_sound incomplete⟩, nothing, same.trans left, leaves⟩
  | case6 unbroken incomplete going inlet read answer r' finished =>
    obtain ⟨reply, left⟩ := reply_and_left_of_read read
    have nothing : r.request.bytes = [] := congrArg Reply.bytes reply
    obtain ⟨same, leaves⟩ := finish_leaves r inlet
    rw [finished] at same leaves
    exact ⟨⟨rfl, request_sound incomplete⟩, nothing, same.trans left, leaves⟩
  | case7 unbroken incomplete going b bs inlet read =>
    obtain ⟨brought, left⟩ := reply_and_left_of_read read
    exact ⟨⟨rfl, request_sound incomplete⟩, b, bs, brought, by rw [left]⟩

/-! ## One poll -/

theorem unread_lt_of_goesOn {r next : Reading} {q : Request} (passed : r.pass = .goesOn q next) :
    next.inlet.unread < r.inlet.unread := by
  have does := r.pass_does
  rw [passed] at does
  obtain ⟨⟨rfl, -⟩, b, bs, brought, rfl⟩ := does
  -- This is what makes the loop stop: a pass that goes on has taken a byte from the inlet.
  have read := r.request.read_eq
  rw [brought] at read
  exact Inlet.unread_lt_of_read read

/-- The reads of the inlet that a poll makes. -/
def requests (r : Reading) : List Request :=
  match passed : r.pass with
  | .settled _ => []
  | .stopped q _ => [q]
  | .goesOn q next =>
    have := unread_lt_of_goesOn passed
    q :: next.requests
termination_by r.inlet.unread

/-- **What a poll leaves behind.** Its requests have brought all that has been buffered. -/
theorem fetch_leaves (r : Reading) : ∃ now,
    InTurn r.reader.buffered r.inlet r.requests now r.fetch.2.inlet ∧ r.Leaves now r.fetch := by
  rw [fetch_eq]
  have does := r.pass_does
  fun_induction requests r with
  | case1 r result passed =>
    rw [passed] at does ⊢
    obtain ⟨same, leaves⟩ := does
    refine ⟨_, ?_, leaves⟩
    rw [← same]
    exact .done
  | case2 r q result passed =>
    rw [passed] at does ⊢
    obtain ⟨⟨rfl, -⟩, nothing, same, leaves⟩ := does
    have last := InTurn.next (q := r.request) .done
    rw [nothing, List.append_nil, ← same] at last
    exact ⟨_, last, leaves⟩
  | case3 r q next passed _ ih =>
    rw [passed] at does ⊢
    obtain ⟨⟨rfl, -⟩, b, bs, brought, rfl⟩ := does
    -- The next pass has the same policy and buffer, so what it leaves, this one leaves.
    obtain ⟨now, later, leaves⟩ := ih (pass_does _)
    rw [← fetch_eq] at later leaves
    refine ⟨now, .next (q := r.request) ?_, leaves.policy, leaves.handles⟩
    rw [Request.bytes, brought]
    exact later

theorem requests_sound (r : Reading) : ∀ q ∈ r.requests, q.Sound := by
  have does := r.pass_does
  fun_induction requests r with
  | case1 r result passed => exact List.forall_mem_nil _
  | case2 r q result passed =>
    rw [passed] at does
    obtain ⟨⟨-, sound⟩, -⟩ := does
    exact List.forall_mem_singleton.2 sound
  | case3 r q next passed _ ih =>
    rw [passed] at does
    obtain ⟨⟨-, sound⟩, -⟩ := does
    exact List.forall_mem_cons.2 ⟨sound, ih (pass_does next)⟩

/-- Another request is made only behind one that has brought a byte. -/
theorem requests_bring (r : Reading) : ∀ q ∈ r.requests.dropLast, q.bytes ≠ [] := by
  have does := r.pass_does
  fun_induction requests r with
  | case1 r result passed => exact List.forall_mem_nil _
  | case2 r q result passed => exact List.forall_mem_nil _
  | case3 r q next passed _ ih =>
    rw [passed] at does
    obtain ⟨-, b, bs, brought, -⟩ := does
    have some_bytes : q.bytes ≠ [] := by
      rw [Request.bytes, brought]
      exact List.cons_ne_nil b bs
    have others := ih (pass_does next)
    -- The request at hand is the last one exactly if no other follows.
    cases later : next.requests with
    | nil => exact List.forall_mem_nil _
    | cons q' qs =>
      rw [later] at others
      rw [List.dropLast_cons_cons]
      exact List.forall_mem_cons.2 ⟨some_bytes, others⟩

/-- **How many requests a poll makes.** Each of them finds some room, and one that is not the last
takes some of it up. -/
theorem length_requests_le (r : Reading) :
    r.requests.length ≤ readerRoom - r.reader.buffered.length := by
  have does := r.pass_does
  fun_induction requests r with
  | case1 r result passed => exact Nat.zero_le _
  | case2 r q result passed =>
    rw [passed] at does
    obtain ⟨⟨rfl, sound⟩, -⟩ := does
    exact sound.some_room
  | case3 r q next passed _ ih =>
    rw [passed] at does
    obtain ⟨⟨rfl, sound⟩, b, bs, -, rfl⟩ := does
    have fewer := ih (pass_does _)
    have some_room : 0 < readerRoom - r.reader.buffered.length := sound.some_room
    -- The byte that came has taken up a place that the later requests do not find.
    simp only [receive, List.length_append, List.length_cons] at fewer ⊢
    omega

end Reading

/-! ## One call -/

/-- What a read has done, where `now` is all that it has had buffered: bytes have come in, and then
a record may have been taken. -/
structure ReadSide.Handled (s : ReadSide) (buffer now : List UInt8) (answer : Option ReadAnswer)
    (buffer' : List UInt8) (s' : ReadSide) : Prop where
  policy : s'.reader.policy = s.reader.policy
  moved : Moved s.reader.buffered s.inlet now s'.inlet
  room : now.length ≤ readerRoom
  handles : Handles s.reader.policy buffer now answer buffer' s'.reader.buffered

namespace ReadSide.Handled

variable {s s' s'' : ReadSide} {buffer buffer' buffer'' now now' : List UInt8}
  {answer : Option ReadAnswer}

theorem length_le (handled : s.Handled buffer now answer buffer' s') :
    s'.reader.buffered.length ≤ readerRoom :=
  Nat.le_trans handled.handles.length_le handled.room

/-- A poll behind others that had to wait. -/
theorem trans (waited : s.Handled buffer now none buffer' s')
    (handled : s'.Handled buffer' now' answer buffer'' s'') :
    s.Handled buffer now' answer buffer'' s'' := by
  obtain ⟨policy, moved, -, nothing⟩ := waited
  -- A poll that waited has taken no record, so the next begins with all that has come.
  obtain ⟨rfl, rfl⟩ := nothing.of_none
  obtain ⟨policy', moved', room, handles⟩ := handled
  rw [policy] at handles
  exact ⟨policy'.trans policy, moved.trans moved', room, handles⟩

end ReadSide.Handled

theorem Reading.poll_handled (stage : Unit) {r : Reading}
    (room : r.reader.buffered.length ≤ readerRoom) : ∃ now,
    r.side.Handled r.buffer now (answer? (r.poll stage).1) (r.poll stage).2.buffer
      (r.poll stage).2.side := by
  unfold poll
  split
  · exact ⟨_, rfl, .refl _ _, room, .keeps rfl⟩
  · obtain ⟨now, follow, leaves⟩ := r.fetch_leaves
    have room' := follow.length_le r.requests_sound room
    exact ⟨now, leaves.policy, follow.moved, room', leaves.handles⟩

/-- **One call.** The invariant over its polls is that bytes have come in, and nothing else has been
done. -/
theorem ReadSide.call_handled (c : ReadCall) {s : ReadSide}
    (room : s.reader.buffered.length ≤ readerRoom) : ∃ now,
    s.Handled c.buffer now (s.call c).1.answer (s.call c).1.buffer (s.call c).2 := by
  rw [call_eq]
  refine drive_induction
    (I := fun _ r => ∃ now, s.Handled c.buffer now none r.buffer r.side)
    (Q := fun answer r => ∃ now, s.Handled c.buffer now answer r.buffer r.side)
    ?_ ?_ ?_ c.polls () (s.reading c) ⟨_, rfl, .refl _ _, room, .keeps rfl⟩
  · exact fun _ _ waited => waited
  · rintro stage r answer r' ⟨_, waited⟩ polled
    obtain ⟨now, handled⟩ := Reading.poll_handled stage waited.length_le
    rw [polled] at handled
    exact ⟨now, waited.trans handled⟩
  · rintro stage r stage' r' ⟨_, waited⟩ polled
    obtain ⟨now, handled⟩ := Reading.poll_handled stage waited.length_le
    rw [polled] at handled
    exact ⟨now, waited.trans handled⟩

/-! ## All calls -/

/-- What holds after any calls on the reader of a new stream. -/
structure Accounts (config : Config) (inlet : Inlet)
    (steps : List (ReadCall × Stream.ReadReply)) (s : ReadSide) : Prop where
  policy : s.reader.policy = config.shortBufferPolicy
  room : s.reader.buffered.length ≤ readerRoom
  /-- What has come is the records that were taken, and then what is buffered. -/
  records : ∃ payloads : List (List UInt8),
    List.Forall₂ (fun (step : ReadCall × Stream.ReadReply) payload =>
      Takes config.shortBufferPolicy step.1.buffer payload step.2.answer step.2.buffer)
      (steps.filter fun step => takesRecord config.shortBufferPolicy step.2.answer) payloads ∧
    Moved [] inlet (Record.encodeAll payloads ++ s.reader.buffered) s.inlet

/-- One more call. -/
theorem Accounts.call {config : Config} {inlet : Inlet}
    {steps : List (ReadCall × Stream.ReadReply)} {s : ReadSide}
    (accounts : Accounts config inlet steps s) (c : ReadCall) :
    Accounts config inlet (steps ++ [(c, (s.call c).1)]) (s.call c).2 := by
  obtain ⟨policy, room, payloads, taken, moved⟩ := accounts
  obtain ⟨now, handled⟩ := ReadSide.call_handled c room
  refine ⟨handled.policy.trans policy, handled.length_le, ?_⟩
  -- Bytes have moved to the end of the buffer; the records in front of it stay where they are.
  have moved' := moved.trans (handled.moved.append_left (Record.encodeAll payloads))
  have handles := handled.handles
  rw [policy] at handles
  rw [List.filter_append]
  rcases handles.taken_or_kept with ⟨takes, payload, front, last⟩ | ⟨keeps, same⟩
  · -- A record is taken: it goes from the front of the buffer to the end of the records.
    refine ⟨payloads ++ [payload], ?_, ?_⟩
    · rw [List.filter_cons_of_pos (by simpa using takes), List.filter_nil]
      exact List.rel_append taken (.cons last .nil)
    · rwa [Record.encodeAll_append, Record.encodeAll_cons, Record.encodeAll_nil, List.append_nil,
        List.append_assoc, ← front]
  · refine ⟨payloads, ?_, by rwa [same]⟩
    rwa [List.filter_cons_of_neg (by simpa using keeps), List.filter_nil, List.append_nil]

/-- The calls of a run, one after the other. -/
theorem accounts_runAll (config : Config) (inlet : Inlet) (calls : List ReadCall) :
    let run := runAll ReadSide.call calls ⟨.new config, inlet⟩
    Accounts config inlet run.1 run.2 := by
  have start : Accounts config inlet [] ⟨.new config, inlet⟩ :=
    ⟨rfl, Nat.zero_le _, [], .nil, .refl _ _⟩
  exact runAll_induction (P := Accounts config inlet) (fun _ _ c accounts => accounts.call c) calls
    start

/-- **Reads never run out of room.** Take any calls on the reader of a new stream, some of which may
be dropped, over any inlet. No more than 65537 bytes are buffered. The bytes that have been taken
from the inlet are the records of the payloads that were handed out or discarded, in the order of
these reads, and then those that are buffered. If the inlet has ended and the framing is not lost,
nothing is buffered.

Now poll one more read. Each request that it makes of the inlet is made with an incomplete record
in front and with room for what is missing, so that no byte comes only at an end of the inlet. Each
request but the last brings a byte, and there are no more of them than the reader has had room for
bytes. In the end the poll either keeps all that is buffered or removes the record in front, and
that one is complete. -/
theorem reads_never_run_out_of_room (config : Config) (inlet : Inlet) (calls : List ReadCall) :
    let run := runAll ReadSide.call calls ⟨.new config, inlet⟩
    let s := run.2
    s.reader.buffered.length ≤ 65537 ∧
    (∃ payloads : List (List UInt8),
      List.Forall₂ (fun (step : ReadCall × Stream.ReadReply) payload =>
        Takes config.shortBufferPolicy step.1.buffer payload step.2.answer step.2.buffer)
        (run.1.filter fun step => takesRecord config.shortBufferPolicy step.2.answer) payloads ∧
      inlet.rest = Record.encodeAll payloads ++ s.reader.buffered ++ s.inlet.rest ∧
      s.inlet.taken = inlet.taken + (Record.encodeAll payloads ++ s.reader.buffered).length) ∧
    (s.reader.ended = true → s.reader.broken = false → s.reader.buffered = []) ∧
    ∀ buffer : List UInt8,
      let r : Reading := ⟨s.reader, s.inlet, buffer, []⟩
      (∀ q ∈ r.requests, q.Sound) ∧ (∀ q ∈ r.requests.dropLast, q.bytes ≠ []) ∧
      r.requests.length ≤ 65537 - s.reader.buffered.length ∧
      ∃ now, InTurn s.reader.buffered s.inlet r.requests now (r.poll ()).2.inlet ∧
        if takesRecord config.shortBufferPolicy (Reading.answer? (r.poll ()).1) then
          Record.extent now ≤ now.length ∧
            (r.poll ()).2.reader.buffered = now.drop (Record.extent now)
        else (r.poll ()).2.reader.buffered = now := by
  intro run s
  obtain ⟨policy, room, payloads, taken, moved⟩ := accounts_runAll config inlet calls
  -- The end of the inlet is not a matter of room; the invariant of the simulation speaks of it.
  have sound := (ReadSide.followed_runAll (sound_and_decoder_new config inlet).1 calls).sound
  refine ⟨room, ⟨payloads, taken, moved.bytes, moved.taken⟩, sound.emptied, fun buffer => ?_⟩
  intro r
  obtain ⟨now, follow, leaves⟩ := r.fetch_leaves
  refine ⟨r.requests_sound, r.requests_bring, r.length_requests_le, now, ?_⟩
  rw [Reading.poll_of_sound (r := r) sound, ← policy]
  exact ⟨follow, leaves.handles.rest_eq⟩

/-- A read is dropped inside a packet, the next one delivers it, and the third discards the packet
behind it. One byte is left, while the inlet still brings the other one of a last length; two more
reads come to the end. -/
theorem one_byte_left_behind_discard :
    let inlet : Inlet :=
      { arrivals := [.data [0], .data [2, 7], .pending, .data [8, 0, 3, 1, 2], .data [3, 0],
          .data [0]] }
    let calls : List ReadCall := [⟨[9, 9, 9], 1⟩, ⟨[9, 9, 9], 1⟩, ⟨[9], 1⟩]
    let s := (runAll ReadSide.call calls ⟨.new {}, inlet⟩).2
    let r : Reading := ⟨s.reader, s.inlet, [9], []⟩
    let later := (runAll ReadSide.call (calls ++ [⟨[9], 1⟩, ⟨[9], 1⟩]) ⟨.new {}, inlet⟩).2
    (s.reader.buffered = [0] ∧ ∃ payloads : List (List UInt8), payloads.length = 2 ∧
      inlet.rest = Record.encodeAll payloads ++ s.reader.buffered ++ s.inlet.rest) ∧
    (r.requests.length = 1 ∧ ∀ q ∈ r.requests, q.Sound) ∧
    (later.reader.ended = true ∧ later.reader.broken = false ∧ later.reader.buffered = []) := by
  intro inlet calls s r later
  obtain ⟨-, ⟨payloads, taken, bytes, -⟩, -, polls⟩ := reads_never_run_out_of_room {} inlet calls
  obtain ⟨-, -, emptied, -⟩ :=
    reads_never_run_out_of_room {} inlet (calls ++ [⟨[9], 1⟩, ⟨[9], 1⟩])
  obtain ⟨sound, -⟩ := polls [9]
  have two_taken : ((runAll ReadSide.call calls ⟨.new {}, inlet⟩).1.filter fun step =>
      takesRecord .discard step.2.answer).length = 2 := by decide +kernel
  have one_made : r.requests.length = 1 := by decide +kernel
  have ended : later.reader.ended = true := by decide +kernel
  have unbroken : later.reader.broken = false := by decide +kernel
  refine ⟨⟨by decide +kernel, payloads, ?_, bytes⟩, ⟨one_made, sound⟩,
    ended, unbroken, emptied ended unbroken⟩
  exact taken.length_eq.symm.trans two_taken

end DatagramTunnel
