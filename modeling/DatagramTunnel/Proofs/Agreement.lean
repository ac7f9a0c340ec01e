import DatagramTunnel.Proofs.Handshake
import DatagramTunnel.Proofs.Reader.Deliveries

/-!
# The two sides of a handshake agree

Whatever becomes of an initiator's handshake, the transport has taken a first part of its target,
and all of it if the handshake succeeds (`initiate_leaves`). A responder that gets these bytes, in
any pieces, either finds that target or finds that it was cut off, and it takes nothing of what
comes behind: `handshakes_agree`.
-/

namespace DatagramTunnel

namespace Handshake

variable {config : Config} {target : Location} {polls : Nat} {transport : Transport}

/-- Whether a handshake ended with a stream. -/
def succeeded (h : Handshake) : Bool :=
  match h.outcome with
  | some (.ok _) => true
  | some (.error _) | none => false

/-- **What an initiator leaves behind**: the outlet has taken a first part of the target. If the
handshake succeeds, it has taken all and was flushed once; otherwise it was not flushed. -/
theorem initiate_leaves (config : Config) (target : Location) (polls : Nat)
    (transport : Transport) :
    let h := initiate config target polls transport
    (∃ unsent, transport.outlet.accepted ++ target.encode =
      h.transport.outlet.accepted ++ unsent) ∧
    (h.succeeded = true →
      h.transport.outlet.accepted = transport.outlet.accepted ++ target.encode) ∧
    h.transport.outlet.flushes = transport.outlet.flushes + if h.succeeded then 1 else 0 := by
  have sends := Sending.drive_sends target.encode polls transport.outlet
  unfold initiate
  split
  · exact ⟨⟨target.encode, rfl⟩, by simp [refuse, succeeded], rfl⟩
  · generalize drive Sending.poll polls (.writing target.encode) transport.outlet = result at sends
    obtain ⟨answer, outlet⟩ := result
    obtain ⟨part, whole, unflushed⟩ := sends
    rcases answer with _ | cause | ⟨⟩
    · exact ⟨part, by simp [succeeded], unflushed (by simp)⟩
    · exact ⟨part, by simp [succeeded], unflushed (by simp)⟩
    · exact ⟨part, fun _ => (whole rfl).1, (whole rfl).2⟩

/-- A responder that has its answer has the same one if it would be polled more often. -/
theorem respond_of_le {more : Nat} {answer : Except Error Stream}
    (answered : (respond config polls transport).outcome = some answer) (le : polls ≤ more) :
    (respond config more transport).outcome = some answer := by
  unfold respond at answered ⊢
  split at answered
  · exact answered
  · rcases driven : drive Location.receive polls [] transport.inlet with ⟨_ | received, inlet⟩
    · simp [driven] at answered
    · rw [driven] at answered
      rw [drive_of_le driven le]
      exact answered

/-- The answer that a responder has if it is polled just often enough, it has in any case, unless it
is dropped first. -/
theorem respond_or_dropped {answer : Except Error Stream}
    (just : (respond config (transport.inlet.waits + 1) transport).outcome = some answer)
    (polls : Nat) :
    (polls ≤ transport.inlet.waits ∧ (respond config polls transport).outcome = none) ∨
      (respond config polls transport).outcome = some answer := by
  cases outcome : (respond config polls transport).outcome with
  | none =>
    refine Or.inl ⟨Nat.le_of_not_lt fun enough => ?_, rfl⟩
    rw [respond_of_le just enough] at outcome
    simp at outcome
  | some early =>
    have later := respond_of_le outcome (Nat.le_max_left polls (transport.inlet.waits + 1))
    rw [respond_of_le just (Nat.le_max_right polls _)] at later
    exact Or.inr later.symm

/-- **The target, and more.** A responder whose inlet brings a target has a stream for it, and what
comes behind the target is still to come. -/
theorem respond_of_more (valid : config.validate = .ok config) {more : List UInt8} {f : Flow}
    (flow : transport.inlet.flow = f.prepend (target.encode ++ more)) (polls : Nat) :
    (polls ≤ transport.inlet.waits ∧ (respond config polls transport).outcome = none) ∨
      ∃ inlet, inlet.flow = f.prepend more ∧ (respond config polls transport).outcome = some (.ok
        (Stream.new config target { transport with inlet } (.handshakeReceived target))) := by
  obtain ⟨inlet, left, -, just⟩ := respond_of_bytes valid flow (Nat.lt_succ_self _)
  exact (respond_or_dropped just polls).imp_right fun outcome => ⟨inlet, left, outcome⟩

/-- **A part of the target, and the end.** -/
theorem respond_of_cut (valid : config.validate = .ok config) {part missing : List UInt8}
    {f after : Flow} (h : target.encode = part ++ missing) (some_missing : missing ≠ [])
    (flow : transport.inlet.flow = f.prepend part) (ends : f.next? = some (.stop none, after))
    (polls : Nat) :
    (polls ≤ transport.inlet.waits ∧ (respond config polls transport).outcome = none) ∨
      ∃ field : Location.Field, (respond config polls transport).outcome =
        some (.error (.truncatedAddress field.cutOff)) := by
  obtain ⟨field, just⟩ := respond_of_part valid h some_missing flow ends (Nat.lt_succ_self _)
  exact (respond_or_dropped just polls).imp_right fun outcome => ⟨field, outcome⟩

end Handshake

/-- **The two sides of a handshake agree.** Take an initiator's handshake for a target, over any
transport, which may be dropped after any number of polls. The bytes that the transport has taken
are a first part of the target. If the handshake succeeds, they are all of it, and the transport was
flushed once; otherwise it was not flushed.

Let a responder get these bytes in any pieces, with waits anywhere, and then the end. If it is not
dropped, its handshake gives a stream for the same target if the bytes are all of it, and otherwise
fails because the target was cut off; and it can only be dropped if it is polled no more often than
it can be made to wait.

Let a responder get the target, then more bytes, in the same pieces or not, and then anything. If it
is not dropped, it has a stream for the target, from which these bytes, and what comes behind them,
are still to be read. -/
theorem handshakes_agree (config : Config) (target : Location) (polls : Nat) (inlet : Inlet)
    (intakes : List Intake) (flushSignals shutdownSignals : List Signal) :
    let opened := Handshake.initiate config target polls
      ⟨inlet, { intakes, flushSignals, shutdownSignals }⟩
    let wire := opened.transport.outlet.accepted
    wire <+: target.encode ∧
    (opened.succeeded = true → wire = target.encode) ∧
    opened.transport.outlet.flushes = (if opened.succeeded then 1 else 0) ∧
    ∀ (config' : Config) (transport : Transport) (polls' : Nat), config'.validate = .ok config' →
      let outcome := (Handshake.respond config' polls' transport).outcome
      let dropped := polls' ≤ transport.inlet.waits ∧ outcome = none
      (∀ f after : Flow, f.next? = some (.stop none, after) →
        transport.inlet.flow = f.prepend wire →
        dropped ∨
        (wire = target.encode ∧ ∃ s, outcome = some (.ok s) ∧ s.target = target) ∨
        (wire ≠ target.encode ∧ ∃ field : Location.Field,
          outcome = some (.error (.truncatedAddress field.cutOff)))) ∧
      ∀ (f : Flow) (more : List UInt8), transport.inlet.flow = f.prepend (target.encode ++ more) →
        dropped ∨ ∃ inlet, inlet.flow = f.prepend more ∧ outcome = some (.ok
          (Stream.new config' target { transport with inlet } (.handshakeReceived target))) := by
  intro opened wire
  obtain ⟨⟨missing, divided⟩, whole, flushed⟩ := Handshake.initiate_leaves config target polls
    ⟨inlet, { intakes, flushSignals, shutdownSignals }⟩
  have divided : target.encode = wire ++ missing := divided
  refine ⟨⟨missing, divided.symm⟩, whole, flushed.trans (Nat.zero_add _), ?_⟩
  intro config' transport polls' valid outcome dropped
  refine ⟨?_, fun f more flow => Handshake.respond_of_more valid flow polls'⟩
  intro f after ends flow
  by_cases complete : missing = []
  · have all : wire = target.encode := by rw [divided, complete, List.append_nil]
    have flow' : transport.inlet.flow = f.prepend (target.encode ++ []) := by
      rw [flow, all, List.append_nil]
    refine (Handshake.respond_of_more valid flow' polls').imp_right ?_
    rintro ⟨inlet, -, ok⟩
    exact Or.inl ⟨all, _, ok, rfl⟩
  · have part : wire ≠ target.encode := by
      rw [divided]
      exact fun h => complete (List.append_right_eq_self.1 h.symm)
    exact (Handshake.respond_of_cut valid divided complete flow ends polls').imp_right
      fun cut => Or.inr ⟨part, cut⟩

/-- Three of the seven bytes of a target are taken, and the handshake is dropped. A responder that
gets them one after the other finds that the target was cut off. One that gets all seven, the last
in one piece with a record, has a stream from which the record is still to be read. -/
theorem handshakes_agree_when_dropped :
    let outlet : Outlet :=
      { intakes := [.upTo 3, .pending], flushSignals := [], shutdownSignals := [] }
    let target := Location.ofIpv4 ⟨[127, 0, 0, 1], rfl⟩ 53
    let part : Inlet := { arrivals := [.data [1], .data [127], .pending, .data [0]] }
    let all : Inlet := { arrivals := [.data [1, 127, 0, 0], .data [1, 0, 53, 0, 2, 7, 8]] }
    let opened := Handshake.initiate {} target 1 ⟨part, outlet⟩
    let responded inlet := (Handshake.respond {} 2 ⟨inlet, outlet⟩).outcome
    opened.transport.outlet.accepted = [1, 127, 0] ∧ part.flow = Flow.over.prepend [1, 127, 0] ∧
    all.flow = Flow.over.prepend (target.encode ++ [0, 2, 7, 8]) ∧
    (∃ field : Location.Field,
      responded part = some (.error (.truncatedAddress field.cutOff))) ∧
    ∃ inlet, inlet.flow = Flow.over.prepend [0, 2, 7, 8] ∧ responded all = some (.ok
      (Stream.new {} target ⟨inlet, outlet⟩ (.handshakeReceived target))) := by
  intro outlet target part all opened responded
  have taken : opened.transport.outlet.accepted = [1, 127, 0] := by decide +kernel
  have part_flow : part.flow = Flow.over.prepend [1, 127, 0] := rfl
  have all_flow : all.flow = Flow.over.prepend (target.encode ++ [0, 2, 7, 8]) := by decide +kernel
  obtain ⟨-, -, -, responder⟩ :=
    handshakes_agree {} target 1 part [.upTo 3, .pending] [] []
  refine ⟨taken, part_flow, all_flow, ?_, ?_⟩
  · obtain ⟨cut, -⟩ := responder {} ⟨part, outlet⟩ 2 rfl
    rcases cut Flow.over Flow.over rfl (part_flow.trans (by rw [← taken])) with
      ⟨seldom, -⟩ | ⟨whole, -⟩ | ⟨-, truncated⟩
    · exact absurd seldom (by decide)
    · exact absurd (taken.symm.trans whole) (by decide)
    · exact truncated
  · obtain ⟨-, more⟩ := responder {} ⟨all, outlet⟩ 2 rfl
    rcases more Flow.over [0, 2, 7, 8] all_flow with ⟨seldom, -⟩ | stream
    · exact absurd seldom (by decide)
    · exact stream

end DatagramTunnel
