import DatagramTunnel.Handshake
import DatagramTunnel.Proofs.Location.Receiving
import DatagramTunnel.Proofs.Transport.Push

/-!
# What a handshake does to the transport

The initiator has a stream only if the outlet has taken all bytes of the target, and no others:
`initiate_ok`. The responder of an inlet that brings these bytes has a stream for that target, and
its inlet brings what follows: `respond_of_bytes`; an inlet that ends inside them gives it no
stream: `respond_of_part`.
-/

namespace DatagramTunnel

/-- A configuration that is not refused is used as it is. -/
theorem Config.eq_of_validate {c c' : Config} (h : c.validate = .ok c') : c' = c := by
  unfold validate at h
  split at h
  · simp at h
  · exact (Except.ok.inj h).symm

/-- A configuration that is not refused asks for no larger payloads than there can be. -/
theorem Config.le_of_validate {c c' : Config} (h : c.validate = .ok c') :
    c.maxPayloadSize ≤ DatagramTunnel.maxPayloadSize := by
  unfold validate fault? at h
  by_cases large : c.maxPayloadSize > DatagramTunnel.maxPayloadSize
  · simp [large] at h
  · exact Nat.le_of_not_lt large

namespace Sending

/-- **Sending a target offers its bytes until all are taken.** -/
theorem pollWrite_eq (unsent : List UInt8) (o : Outlet) :
    pollWrite unsent o = match o.push unsent with
      | (.whole, o) => pollFlush o
      | (.waiting unsent, o) => (.waiting (.writing unsent), o)
      | (.refused _ cause, o) => (.ready (.error (cause.getD .nothingTaken)), o) := by
  fun_induction pollWrite unsent o with
  | case1 o => rw [Outlet.push]
  | case2 o b bs o' write => rw [Outlet.push, write]
  | case3 o b bs cause o' write => rw [Outlet.push, write]; rfl
  | case4 o b bs o' write => rw [Outlet.push, write]; rfl
  | case5 o b bs count o' write ih => rw [ih, Outlet.push, write]

/-- The bytes that are not taken yet. -/
def unsent : Sending → List UInt8
  | .writing unsent => unsent
  | .flushing => []

/-- What a poll leads to when `bytes` were to be taken and `count` flushes had succeeded before: the
bytes are divided up into those taken and those that are not. With success none is left, and the
outlet has been flushed; otherwise it has not been flushed. -/
def Leads (bytes : List UInt8) (count : Nat) :
    Progress Sending (Except Failure Unit) × Outlet → Prop
  | (.waiting stage, o) => bytes = o.accepted ++ stage.unsent ∧ o.flushes = count
  | (.ready (.ok ()), o) => bytes = o.accepted ∧ o.flushes = count + 1
  | (.ready (.error _), o) => (∃ unsent, bytes = o.accepted ++ unsent) ∧ o.flushes = count

theorem pollFlush_leads {bytes : List UInt8} {o : Outlet} (all : bytes = o.accepted) :
    Leads bytes o.flushes (pollFlush o) := by
  have kept := o.flush_keeps.1
  have counted := o.flushes_flush
  unfold pollFlush
  generalize o.flush = result at kept counted ⊢
  obtain ⟨_ | cause | _, o'⟩ := result
  · exact ⟨all.trans kept.symm, counted⟩
  · exact ⟨⟨[], by rw [List.append_nil, all, kept]⟩, counted⟩
  · refine ⟨?_, counted⟩
    show bytes = o'.accepted ++ []
    rw [List.append_nil, all, kept]

/-- **One poll.** -/
theorem poll_leads {bytes : List UInt8} {stage : Sending} {o : Outlet}
    (h : bytes = o.accepted ++ stage.unsent) : Leads bytes o.flushes (poll stage o) := by
  cases stage with
  | flushing => exact pollFlush_leads (h.trans (List.append_nil _))
  | writing unsent =>
    -- Writing and then flushing are one poll, so the bytes are divided up by what the push took.
    obtain ⟨signals, ⟨sent, offered, taken⟩, -, -⟩ := o.push_spec unsent
    have divided : bytes = (o.push unsent).2.accepted ++ (o.push unsent).1.unsent := by
      rw [h, taken, List.append_assoc, ← offered, Sending.unsent]
    simp only [Outlet.signals, Prod.mk.injEq] at signals
    obtain ⟨-, -, flushes, -⟩ := signals
    rw [poll, pollWrite_eq, ← flushes]
    generalize o.push unsent = result at divided ⊢
    obtain ⟨_ | left | ⟨left, cause⟩, o'⟩ := result
    · exact pollFlush_leads (divided.trans (List.append_nil _))
    · exact ⟨divided, rfl⟩
    · exact ⟨⟨left, divided⟩, rfl⟩

/-- What is left behind by sending `bytes`: the outlet has taken a first part of them. With success
it has taken all, and has been flushed once; otherwise it has not been flushed. -/
structure Sends (o : Outlet) (bytes : List UInt8) (answer : Option (Except Failure Unit))
    (o' : Outlet) : Prop where
  part : ∃ unsent, o.accepted ++ bytes = o'.accepted ++ unsent
  whole : answer = some (.ok ()) → o'.accepted = o.accepted ++ bytes ∧ o'.flushes = o.flushes + 1
  unflushed : answer ≠ some (.ok ()) → o'.flushes = o.flushes

/-- **Sending takes no other bytes**, and with success all of them. -/
theorem drive_sends (bytes : List UInt8) (polls : Nat) (o : Outlet) :
    Sends o bytes (drive poll polls (.writing bytes) o).1
      (drive poll polls (.writing bytes) o).2 := by
  -- The invariant over the polls: taken and unsent bytes make up the target, and nothing was
  -- flushed.
  refine drive_induction
    (I := fun (stage : Sending) o' =>
      o.accepted ++ bytes = o'.accepted ++ stage.unsent ∧ o'.flushes = o.flushes)
    (Q := Sends o bytes) ?_ ?_ ?_ polls (Sending.writing bytes) o ⟨rfl, rfl⟩
  · rintro stage o' ⟨divided, unflushed⟩
    exact ⟨⟨_, divided⟩, by simp, fun _ => unflushed⟩
  · rintro stage o' answer o'' ⟨divided, unflushed⟩ polled
    have leads := poll_leads divided
    rw [polled, unflushed] at leads
    match answer, leads with
    | .ok (), ⟨all, flushed⟩ =>
      exact ⟨⟨[], by rw [List.append_nil]; exact all⟩, fun _ => ⟨all.symm, flushed⟩,
        fun failed => absurd rfl failed⟩
    | .error _, ⟨some_left, unflushed⟩ => exact ⟨some_left, by simp, fun _ => unflushed⟩
  · rintro stage o' stage' o'' ⟨divided, unflushed⟩ polled
    have leads := poll_leads divided
    rwa [polled, unflushed] at leads

end Sending

namespace Handshake

/-- **An initiator's stream.** The outlet has taken the bytes of the target. -/
theorem initiate_ok {config : Config} {target : Location} {polls : Nat} {transport : Transport}
    {s : Stream} (h : (initiate config target polls transport).outcome = some (.ok s)) :
    ∃ outlet, outlet.accepted = transport.outlet.accepted ++ target.encode ∧
      s = Stream.new config target { transport with outlet } (.handshakeSent target) := by
  obtain ⟨-, all, -⟩ := Sending.drive_sends target.encode polls transport.outlet
  unfold initiate at h
  split at h
  · simp [refuse] at h
  · next config' valid =>
    rw [Config.eq_of_validate valid] at h
    generalize drive Sending.poll polls (.writing target.encode) transport.outlet = result at all h
    obtain ⟨_ | cause | _, outlet⟩ := result
    · simp at h
    · simp at h
    · obtain rfl : Stream.new config target { transport with outlet }
          (.handshakeSent target) = s := by
        simpa using h
      exact ⟨outlet, (all rfl).1, rfl⟩

variable {config : Config} {target : Location} {polls : Nat} {transport : Transport}
  {f after : Flow}

/-- **A responder's stream.** The inlet brings the target and then what the stream reads. -/
theorem respond_of_bytes (valid : config.validate = .ok config) {more : List UInt8}
    (flow : transport.inlet.flow = f.prepend (target.encode ++ more))
    (often : transport.inlet.waits < polls) :
    ∃ inlet, inlet.flow = f.prepend more ∧ inlet.waits ≤ transport.inlet.waits ∧
      (respond config polls transport).outcome = some (.ok
        (Stream.new config target { transport with inlet } (.handshakeReceived target))) := by
  obtain ⟨inlet, received, -, flow', waits⟩ := Location.drive_receive flow often
  refine ⟨inlet, flow', waits, ?_⟩
  rw [respond, valid]
  simp only [received]

/-- A responder whose inlet ends inside the target. -/
theorem respond_of_part (valid : config.validate = .ok config) {part missing : List UInt8}
    (h : target.encode = part ++ missing) (some_missing : missing ≠ [])
    (flow : transport.inlet.flow = f.prepend part) (ends : f.next? = some (.stop none, after))
    (often : transport.inlet.waits < polls) :
    ∃ field : Location.Field, (respond config polls transport).outcome =
      some (.error (.truncatedAddress field.cutOff)) := by
  obtain ⟨inlet, field, received⟩ :=
    Location.drive_receive_cut h some_missing flow ends often
  refine ⟨field, ?_⟩
  rw [respond, valid]
  simp only [received]

end Handshake

end DatagramTunnel
