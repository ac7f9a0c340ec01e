import DatagramTunnel.Datagram
import DatagramTunnel.Proofs.Location.Outcome
import DatagramTunnel.Proofs.Sides
import Mathlib.Data.List.Forall2

/-!
# Datagrams that are read and sent

A datagram socket brings datagrams and failures, with waits in between. Each read that is answered
takes one of these and is answered by it alone, whatever came before, and a read that is dropped
takes none: `reads_take_events`. What a read makes of a datagram that does not fit, or is none of
ours, is part of that. The location is read off the front of the datagram as it is read from a
stream: `Unpacks.as_from_inlet`.

`datagram_round_trip` is about our own datagrams: what a send hands to its socket, and what a read
with a buffer of any size makes of it.
-/

namespace DatagramTunnel

namespace DatagramSocket

/-- What a socket still brings, waits forgotten. -/
def events (s : DatagramSocket) : List DatagramArrival := s.arrivals.filter fun a => a ≠ .pending

/-- How often a socket still makes its reader wait, before its arrivals are used up. -/
def waits (s : DatagramSocket) : Nat := s.arrivals.count .pending

/-- What a receive takes off a socket. If it waits, one of the waits is used up, unless the socket
brings nothing. Otherwise the next event is taken. -/
def Takes (room : Nat) (s : DatagramSocket) : Reply (List UInt8 × Peer) × DatagramSocket → Prop
  | (.pending, t) => t.events = s.events ∧ t.waits ≤ s.waits ∧ (t.waits < s.waits ∨ s.events = [])
  | (.failed cause, t) => s.events = .failed cause :: t.events ∧ t.waits = s.waits
  | (.done (bytes, peer), t) => t.waits = s.waits ∧ ∃ datagram, bytes = datagram.take room ∧
      s.events = .datagram datagram peer :: t.events

/-- **One receive.** -/
theorem receive_takes (room : Nat) (s : DatagramSocket) : Takes room s (s.receive room) := by
  obtain ⟨arrivals, intakes, sent⟩ := s
  cases arrivals with
  | nil => exact ⟨rfl, Nat.le_refl _, .inr rfl⟩
  | cons arrival later =>
    cases arrival with
    | datagram bytes peer =>
      refine ⟨?_, bytes, rfl, rfl⟩
      simp [waits]
    | failed cause =>
      refine ⟨rfl, ?_⟩
      simp [waits]
    | pending =>
      have fewer : later.count .pending < (DatagramArrival.pending :: later).count .pending := by
        rw [List.count_cons_self]
        exact Nat.lt_succ_self _
      exact ⟨rfl, Nat.le_of_lt fewer, .inl fewer⟩

/-- A socket that sends datagrams whole: it may hold its caller up, but does nothing else. -/
def SendsWhole (s : DatagramSocket) : Prop :=
  ∀ intake ∈ s.intakes, intake = .all ∨ intake = .pending

/-- How often a socket still makes its writer wait, before its intakes are used up. -/
def holdUps (s : DatagramSocket) : Nat := s.intakes.count .pending

/-- What a transmission makes of a socket: it sends the first bytes of the datagram, or nothing. -/
def Sends (bytes : List UInt8) (peer : Peer) (s : DatagramSocket) :
    Reply Nat × DatagramSocket → Prop
  | (.done count, t) => t.sent = s.sent ++ [(peer, bytes.take count)] ∧
      (s.SendsWhole → count = bytes.length)
  | (.failed _, t) => t.sent = s.sent ∧ ¬ s.SendsWhole
  | (.pending, t) => t.sent = s.sent ∧ (s.SendsWhole → t.SendsWhole) ∧ t.holdUps < s.holdUps

/-- The answer to a datagram that is taken is the number of its bytes that are sent. -/
theorem accept_sends (bytes : List UInt8) (peer : Peer) (intakes : List Intake) (most : Nat)
    (s : DatagramSocket) (whole : s.SendsWhole → bytes.length ≤ most) :
    Sends bytes peer s (s.accept bytes peer intakes most) := by
  refine ⟨?_, fun all => ?_⟩
  · show s.sent ++ [(peer, bytes.take most)] = _
    rw [List.length_take, ← List.take_take, List.take_length]
  · show (bytes.take most).length = _
    rw [List.take_of_length_le (whole all)]

/-- **One transmission.** -/
theorem transmit_sends (bytes : List UInt8) (peer : Peer) (s : DatagramSocket) :
    Sends bytes peer s (s.transmit bytes peer) := by
  obtain ⟨arrivals, intakes, sent⟩ := s
  cases intakes with
  | nil => exact accept_sends _ _ _ _ _ fun _ => Nat.le_refl _
  | cons intake later =>
    cases intake with
    | upTo most =>
      refine accept_sends _ _ _ _ _ fun whole => ?_
      rcases whole _ List.mem_cons_self with all | held
      · cases all
      · cases held
    | all => exact accept_sends _ _ _ _ _ fun _ => Nat.le_refl _
    | failed cause =>
      refine ⟨rfl, fun whole => ?_⟩
      rcases whole _ List.mem_cons_self with all | held
      · cases all
      · cases held
    | pending =>
      refine ⟨rfl, fun whole intake mem => whole intake (List.mem_cons_of_mem _ mem), ?_⟩
      show later.count .pending < (Intake.pending :: later).count .pending
      rw [List.count_cons_self]
      exact Nat.lt_succ_self _

end DatagramSocket

namespace DatagramWork

/-! ## The buffer -/

/-- What was written is in front. -/
theorem take_overwrite (front buffer : List UInt8) :
    (overwrite front buffer).take front.length = front :=
  List.take_left' rfl

/-- **The payload is moved to the front.** Behind it, the end of the datagram stays where it was,
and so does the rest of the buffer. -/
theorem moveToFront_overwrite (consumed : Nat) (front buffer : List UInt8) :
    moveToFront consumed front.length (overwrite front buffer) =
      front.drop consumed ++ front.drop (front.length - consumed) ++ buffer.drop front.length := by
  rw [moveToFront, take_overwrite, overwrite, List.length_drop, overwrite,
    List.drop_append_of_le_length (Nat.sub_le _ _), List.append_assoc]

/-! ## Reading -/

/-- How a read is answered of which `front` has been received, and `tail` is the rest of the buffer.
If a location is read off the front, the rest of the front is the payload. -/
def Unpacks (front tail : List UInt8) (peer : Peer) (reply : ReadReply) : Prop :=
  match (Location.decode front).1 with
  | .error e => reply = ⟨some (.error e), front ++ tail⟩
  | .ok (target, consumed) => consumed ≤ front.length ∧
    reply = ⟨some (.ok ⟨front.length - consumed, target, peer⟩),
      front.drop consumed ++ front.drop (front.length - consumed) ++ tail⟩

/-- **A location comes off a datagram as it comes from a stream.** What the answer tells of it, the
error or the target and the number of its bytes, is what a read of a location gives from an inlet
that brings in any pieces what has been received of the datagram, and then ends. -/
theorem Unpacks.as_from_inlet {front tail : List UInt8} {peer : Peer} {reply : ReadReply}
    (unpacks : Unpacks front tail peer reply) {i : Inlet} {f after : Flow} {polls : Nat}
    (ends : f.next? = some (.stop none, after)) (flow : i.flow = f.prepend front)
    (often : i.waits < polls) :
    ∃ result, (drive Location.receive polls [] i).1 = some result ∧ reply.answer =
      some (result.map fun (target, consumed) => ⟨front.length - consumed, target, peer⟩) := by
  obtain ⟨j, -, driven, -⟩ := Location.drive_eq_decode ends flow often
  refine ⟨(Location.decode front).1, by rw [driven], ?_⟩
  rw [Unpacks] at unpacks
  split at unpacks
  · next e decoded => rw [unpacks, decoded]; rfl
  · next target consumed decoded =>
    obtain ⟨-, rfl⟩ := unpacks
    rw [decoded]
    rfl

/-- How a read into a buffer is answered by what the socket brings. -/
def Answers (event : DatagramArrival) (buffer : List UInt8) (reply : ReadReply) : Prop :=
  match event with
  | .datagram bytes peer =>
    Unpacks (bytes.take buffer.length) (buffer.drop (min buffer.length bytes.length)) peer reply
  | .failed cause => reply = ⟨some (.error (.io cause)), buffer⟩
  | .pending => False

section Reading

variable {w : DatagramWork}

@[simp] theorem socket_stripTarget (w : DatagramWork) (received : Nat) (peer : Peer) :
    (w.stripTarget received peer).2.socket = w.socket := by
  unfold stripTarget
  split <;> rfl

/-- **Taking the location off the front of a datagram.** -/
theorem stripTarget_unpacks {front buffer : List UInt8}
    (written : w.buffer = overwrite front buffer) (peer : Peer) :
    Unpacks front (buffer.drop front.length) peer
      ⟨some (w.stripTarget front.length peer).1, (w.stripTarget front.length peer).2.buffer⟩ := by
  rw [stripTarget, written, take_overwrite, Unpacks]
  cases decoded : (Location.decode front).1 with
  | error e => exact congrArg _ written
  | ok read =>
    obtain ⟨target, consumed⟩ := read
    -- The location is in what was received, so that the payload can be moved over it.
    obtain ⟨le, -⟩ := Location.decode_ok decoded
    exact ⟨le, congrArg _ (moveToFront_overwrite consumed front buffer)⟩

/-- What a poll makes of a socket. If it waits, nothing happens but that a wait is used up, unless
the socket brings nothing. Otherwise the next event is taken, and answers. -/
def Polls (w : DatagramWork) : Progress Unit (Except Error DatagramRead) × DatagramWork → Prop
  | (.waiting _, w') => w'.buffer = w.buffer ∧ w'.socket.events = w.socket.events ∧
      w'.socket.waits ≤ w.socket.waits ∧
      (w'.socket.waits < w.socket.waits ∨ w.socket.events = [])
  | (.ready answer, w') => w'.socket.waits = w.socket.waits ∧
      ∃ event, w.socket.events = event :: w'.socket.events ∧
        Answers event w.buffer ⟨some answer, w'.buffer⟩

/-- **One poll.** -/
theorem pollRead_polls (w : DatagramWork) : Polls w (pollRead () w) := by
  have takes := w.socket.receive_takes w.buffer.length
  unfold pollRead
  split
  case h_1 socket received =>
    rw [received] at takes
    exact ⟨rfl, takes⟩
  case h_2 cause socket received =>
    rw [received] at takes
    obtain ⟨coming, waits⟩ := takes
    exact ⟨waits, .failed cause, coming, rfl⟩
  case h_3 bytes peer socket received =>
    rw [received] at takes
    obtain ⟨waits, datagram, rfl, coming⟩ := takes
    -- The datagram may be longer than the buffer; what does not fit is lost.
    have unpacked := stripTarget_unpacks (w := { w with
      socket, buffer := overwrite (datagram.take w.buffer.length) w.buffer }) rfl peer
    rw [List.length_take] at unpacked
    simp only [Polls, socket_stripTarget, List.length_take]
    exact ⟨waits, .datagram datagram peer, coming, unpacked⟩

/-- Makes a call of a read. -/
def readCall (c : ReadCall) (w : DatagramWork) : ReadReply × DatagramWork :=
  w.read c.buffer c.polls

/-- What a call does. It is dropped and does nothing, which happens only if it is not polled often
enough or nothing comes; or it takes the next event and is answered by it. -/
def Reads (w : DatagramWork) (c : ReadCall) (reply : ReadReply) (w' : DatagramWork) : Prop :=
  w'.socket.waits ≤ w.socket.waits ∧
    ((reply = ⟨none, c.buffer⟩ ∧ w'.socket.events = w.socket.events ∧
        (w.socket.waits < c.polls → w.socket.events = [])) ∨
      ∃ event, reply.answer.isSome ∧ w.socket.events = event :: w'.socket.events ∧
        Answers event c.buffer reply)

theorem drive_pollRead (polls : Nat) (w : DatagramWork) :
    Reads w ⟨w.buffer, polls⟩
      ⟨(drive pollRead polls () w).1, (drive pollRead polls () w).2.buffer⟩
      (drive pollRead polls () w).2 := by
  induction polls generalizing w with
  | zero => exact ⟨Nat.le_refl _, .inl ⟨rfl, rfl, fun few => absurd few (Nat.not_lt_zero _)⟩⟩
  | succ polls ih =>
    have polled := w.pollRead_polls
    rw [drive]
    split
    · next answer w' ready =>
      rw [ready] at polled
      obtain ⟨waits, event, coming, answers⟩ := polled
      exact ⟨Nat.le_of_eq waits, .inr ⟨event, rfl, coming, answers⟩⟩
    · next w' waiting =>
      rw [waiting] at polled
      obtain ⟨buffer, coming, waits, fewer⟩ := polled
      -- Nothing has been written, so the polls that are left are a call with the same buffer.
      obtain ⟨waits', later⟩ := ih w'
      rw [buffer, coming] at later
      refine ⟨Nat.le_trans waits' waits, later.imp_left ?_⟩
      rintro ⟨dropped, left, often⟩
      refine ⟨dropped, left, fun enough => fewer.elim (fun used => often ?_) id⟩
      show w'.socket.waits < polls
      have enough : w.socket.waits < polls + 1 := enough
      omega

/-- **One call.** -/
theorem readCall_reads (c : ReadCall) (w : DatagramWork) :
    Reads w c (readCall c w).1 (readCall c w).2 :=
  drive_pollRead c.polls { w with buffer := c.buffer }

/-- **Reads of whatever a socket brings.** Each call that has its answer takes just one datagram or
failure, in the order in which they come, and this alone and the call's own buffer decide the answer
and what is in the buffer (`Answers`); the location in front of a datagram is read as one is from a
stream (`Unpacks.as_from_inlet`). A call that is dropped takes nothing and writes nothing, and
a call that is polled more often than the socket can make it wait is dropped only when the socket
brings nothing any more. -/
theorem reads_take_events (w : DatagramWork) (calls : List ReadCall) :
    let run := runAll readCall calls w
    let completed := run.1.filter fun step => step.2.answer.isSome
    (∃ taken, w.socket.events = taken ++ run.2.socket.events ∧
      List.Forall₂ (fun event step => Answers event step.1.buffer step.2) taken completed) ∧
    ∀ step ∈ run.1, step.2.answer = none → step.2.buffer = step.1.buffer ∧
      (w.socket.waits < step.1.polls → run.2.socket.events = []) := by
  -- Each call takes one event or none, and what is left is for the calls behind it.
  induction calls generalizing w with
  | nil => exact ⟨⟨[], rfl, .nil⟩, fun _ mem => absurd mem List.not_mem_nil⟩
  | cons c calls ih =>
    intro run completed
    obtain ⟨waits, happened⟩ := w.readCall_reads c
    obtain ⟨⟨taken, coming, answers⟩, dropped⟩ := ih (readCall c w).2
    have later step (mem : step ∈ (runAll readCall calls (readCall c w).2).1)
        (unanswered : step.2.answer = none) : step.2.buffer = step.1.buffer ∧
          (w.socket.waits < step.1.polls → run.2.socket.events = []) :=
      (dropped step mem unanswered).imp_right fun nothing often =>
        nothing (Nat.lt_of_le_of_lt waits often)
    -- A dropped call is not among the completed ones, and leaves all events to the later calls.
    rcases happened with ⟨none_taken, same, often⟩ | ⟨event, answered, next, answer⟩
    · have all_coming : w.socket.events = taken ++ run.2.socket.events := same.symm.trans coming
      have unanswered : (readCall c w).1.answer = none := congrArg ReadReply.answer none_taken
      have passed_over : completed = _ := List.filter_cons_of_neg fun answered =>
        Option.isSome_iff_ne_none.1 answered unanswered
      refine ⟨⟨taken, all_coming, passed_over ▸ answers⟩, fun step mem => ?_⟩
      rcases List.mem_cons.1 mem with rfl | mem
      · refine fun _ => ⟨congrArg ReadReply.buffer none_taken, fun enough => ?_⟩
        exact (List.append_eq_nil_iff.1 (all_coming.symm.trans (often enough))).2
      · exact later step mem
    · have all_coming : w.socket.events = event :: taken ++ run.2.socket.events :=
        next.trans (congrArg (event :: ·) coming)
      have listed : completed = _ := List.filter_cons_of_pos answered
      refine ⟨⟨event :: taken, all_coming, listed ▸ .cons answer answers⟩, fun step mem => ?_⟩
      rcases List.mem_cons.1 mem with rfl | mem
      · exact fun unanswered => absurd unanswered (Option.isSome_iff_ne_none.1 answered)
      · exact later step mem

/-- A call is dropped, the next one is told that a datagram is of no known type, and the last one
still gets the datagram behind it. -/
theorem reads_take_events_past_unknown :
    let source : Peer := .ipv4 ⟨[127, 0, 0, 1], rfl⟩ 9
    let events := [.datagram [7, 9] source, .datagram [3, 1, 97, 0, 80, 1, 2] source]
    let w : DatagramWork := { socket := { arrivals := .pending :: events } }
    let run := runAll readCall [⟨[0], 1⟩, ⟨[5, 6, 5], 1⟩, ⟨[0, 0, 0, 0, 0, 0, 0, 0], 1⟩] w
    (∃ taken, events = taken ++ run.2.socket.events ∧ taken.length = 2) ∧
    ∃ step ∈ run.1, step.2.answer = none ∧ step.2.buffer = step.1.buffer := by
  intro source events w run
  obtain ⟨⟨taken, coming, answers⟩, dropped⟩ :=
    reads_take_events w [⟨[0], 1⟩, ⟨[5, 6, 5], 1⟩, ⟨[0, 0, 0, 0, 0, 0, 0, 0], 1⟩]
  refine ⟨⟨taken, coming, answers.length_eq.trans ?_⟩, _, List.mem_cons_self, rfl, ?_⟩
  · rfl
  · exact (dropped _ List.mem_cons_self rfl).1

end Reading

/-! ## Sending -/

section Sending

/-- What a write of a datagram leads to: it is sent, as far as the socket takes it, and answered
with how far; or it is dropped or fails, and nothing is sent, which does not happen with a socket
that sends datagrams whole and a write that is polled often enough. -/
def Writes (bytes : List UInt8) (peer : Peer) (polls : Nat) (s : DatagramSocket)
    (answer : Option (Except Error Nat)) (t : DatagramSocket) : Prop :=
  (∃ count, answer = some (.ok count) ∧ t.sent = s.sent ++ [(peer, bytes.take count)] ∧
    (s.SendsWhole → count = bytes.length)) ∨
  ((answer = none ∨ ∃ cause, answer = some (.error (.io cause))) ∧ t.sent = s.sent ∧
    (s.SendsWhole → polls ≤ s.holdUps))

theorem drive_pollWrite (bytes : List UInt8) (target : Location) (peer : Peer) (polls : Nat)
    (w : DatagramWork) :
    Writes bytes peer polls w.socket (drive (pollWrite bytes target peer) polls () w).1
      (drive (pollWrite bytes target peer) polls () w).2.socket := by
  induction polls generalizing w with
  | zero => exact .inr ⟨.inl rfl, rfl, fun _ => Nat.zero_le _⟩
  | succ polls ih =>
    have sends := w.socket.transmit_sends bytes peer
    rw [drive, pollWrite]
    rcases transmitted : w.socket.transmit bytes peer with ⟨count | cause | _, socket⟩
    · rw [transmitted] at sends
      exact .inl ⟨count, rfl, sends⟩
    · rw [transmitted] at sends
      obtain ⟨nothing, partly⟩ := sends
      exact .inr ⟨.inr ⟨cause, rfl⟩, nothing, fun whole => absurd whole partly⟩
    · rw [transmitted] at sends
      obtain ⟨nothing, whole, fewer⟩ := sends
      -- The socket has only held the writer up, so the polls that are left begin as this one did.
      have later := ih { w with socket }
      simp only [Writes, nothing] at later
      rcases later with ⟨count, answered, sent, all⟩ | ⟨no_count, sent, few⟩
      · exact .inl ⟨count, answered, sent, fun h => all (whole h)⟩
      · refine .inr ⟨no_count, sent, fun h => ?_⟩
        have held := few (whole h)
        omega

end Sending

/-! ## Round trip -/

section RoundTrip

variable {target : Location} {payload tail : List UInt8} {source : Peer} {reply : ReadReply}
  {room : Nat}

/-- Room for the location is left for the first bytes of the payload. -/
theorem unpacks_of_room (enough : target.encodedLength ≤ room)
    (unpacks : Unpacks ((Datagram.encode target payload).take room) tail source reply) :
    let size := min payload.length (room - target.encodedLength)
    reply.answer = some (.ok ⟨size, target, source⟩) ∧
      reply.buffer.take size = payload.take size := by
  intro size
  -- What is received is the location and the first `size` bytes of the payload.
  have fits : payload.take size = payload.take (room - target.encodedLength) := by
    rw [← List.take_take, List.take_of_length_le (List.length_take_le' _ _)]
  have count : (payload.take size).length = size := List.length_take_of_le (Nat.min_le_left _ _)
  have front : (Datagram.encode target payload).take room = target.encode ++ payload.take size := by
    rw [Datagram.encode, List.take_append, Location.length_encode, fits,
      List.take_of_length_le (by rwa [Location.length_encode])]
  have left : (target.encode ++ payload.take size).length - target.encodedLength = size := by
    rw [List.length_append, Location.length_encode, count, Nat.add_sub_cancel_left]
  rw [front, Unpacks, Location.decode_encode] at unpacks
  obtain ⟨-, rfl⟩ := unpacks
  refine ⟨by rw [left], ?_⟩
  rw [List.drop_left' target.length_encode, List.append_assoc]
  exact List.take_left' count

/-- Without room for the location, it is cut off. -/
theorem unpacks_of_no_room (short : room < target.encodedLength)
    (unpacks : Unpacks ((Datagram.encode target payload).take room) tail source reply) :
    ∃ cause, reply.answer = some (.error (.truncatedAddress cause)) := by
  have front : (Datagram.encode target payload).take room = target.encode.take room :=
    List.take_append_of_le_length (by rw [Location.length_encode]; omega)
  have some_missing : target.encode.drop room ≠ [] := by
    rw [ne_eq, List.drop_eq_nil_iff, Location.length_encode]
    omega
  obtain ⟨cause, decoded, -⟩ :=
    Location.decode_part (List.take_append_drop room target.encode).symm some_missing
  rw [front, Unpacks, decoded] at unpacks
  exact ⟨cause, congrArg ReadReply.answer unpacks⟩

end RoundTrip

/-- **Our own datagrams.** A send hands its socket the location of the target and then the payload,
once if it is answered with a number of bytes, and not at all otherwise. Whatever the size of its
buffer, a read that gets this datagram never tells another target. With room for the location, it
tells this one, who has sent the datagram, and as much of the payload as there is room for; without,
it is refused. -/
theorem datagram_round_trip (target : Location) (payload : List UInt8) :
    (∀ (w : DatagramWork) (destination : Peer) (polls : Nat),
      let answer := (w.send payload target destination polls).1
      let sent := (w.send payload target destination polls).2.socket.sent
      let datagram := Datagram.encode target payload
      ((∃ count, answer = some (.ok count) ∧
          sent = w.socket.sent ++ [(destination, datagram.take count)]) ∨
        (answer = none ∨ ∃ cause, answer = some (.error (.io cause))) ∧ sent = w.socket.sent) ∧
      (w.socket.SendsWhole → w.socket.holdUps < polls →
        answer = some (.ok datagram.length) ∧
          sent = w.socket.sent ++ [(destination, datagram)])) ∧
    ∀ (w : DatagramWork) (source : Peer) (later : List DatagramArrival) (c : ReadCall),
      w.socket.events = .datagram (Datagram.encode target payload) source :: later →
      w.socket.waits < c.polls →
      let reply := (readCall c w).1
      let size := min payload.length (c.buffer.length - target.encodedLength)
      if target.encodedLength ≤ c.buffer.length then
        reply.answer = some (.ok ⟨size, target, source⟩) ∧
          reply.buffer.take size = payload.take size ∧
          (target.encodedLength + payload.length ≤ c.buffer.length → size = payload.length)
      else ∃ cause, reply.answer = some (.error (.truncatedAddress cause)) := by
  constructor
  · intro w destination polls answer sent datagram
    rcases drive_pollWrite datagram target destination polls w with
      ⟨count, answered, handed, whole⟩ | ⟨no_count, nothing, few⟩
    · refine ⟨.inl ⟨count, answered, handed⟩, fun all _ => ?_⟩
      obtain rfl := whole all
      rw [List.take_length] at handed
      exact ⟨answered, handed⟩
    · exact ⟨.inr ⟨no_count, nothing⟩, fun all often => absurd (few all) (Nat.not_le.2 often)⟩
  · intro w source later c coming often reply size
    obtain ⟨-, ⟨-, -, nothing⟩ | ⟨event, -, next, answers⟩⟩ := w.readCall_reads c
    · -- Polled often enough, it is dropped only if nothing comes.
      rw [nothing often] at coming
      cases coming
    · rw [coming] at next
      cases next
      by_cases enough : target.encodedLength ≤ c.buffer.length
      · obtain ⟨answer, front⟩ := unpacks_of_room enough answers
        rw [if_pos enough]
        refine ⟨answer, front, fun room => ?_⟩
        show min _ _ = _
        omega
      · rw [if_neg enough]
        exact unpacks_of_no_room (Nat.not_le.1 enough) answers

/-- A datagram is sent at the second poll; its reader waits once, too, and has room for the location
and one byte more. -/
theorem datagram_round_trip_cut :
    let target : Location := ⟨.hostname [97], 80, rfl⟩
    let peer : Peer := .ipv4 ⟨[127, 0, 0, 1], rfl⟩ 9
    let sender : DatagramWork := { socket := { arrivals := [], intakes := [.pending] } }
    let receiver : DatagramWork := { socket := { arrivals :=
      [.pending, .datagram (Datagram.encode target [1, 2]) peer] } }
    let reply := (readCall ⟨[0, 0, 0, 0, 0, 0], 2⟩ receiver).1
    (sender.send [1, 2] target peer 2).2.socket.sent = [(peer, [3, 1, 97, 0, 80, 1, 2])] ∧
      reply.answer = some (.ok ⟨1, target, peer⟩) ∧ reply.buffer.take 1 = [1] := by
  intro target peer sender receiver reply
  obtain ⟨sends, reads⟩ := datagram_round_trip target [1, 2]
  obtain ⟨-, whole⟩ := sends sender peer 2
  have holds : sender.socket.SendsWhole := by simp [sender, DatagramSocket.SendsWhole]
  obtain ⟨-, handed⟩ := whole holds (by decide)
  obtain ⟨answer, front, -⟩ := reads receiver peer [] ⟨[0, 0, 0, 0, 0, 0], 2⟩ rfl (by decide)
  exact ⟨handed.trans (by decide), answer, front⟩

end DatagramWork

end DatagramTunnel
