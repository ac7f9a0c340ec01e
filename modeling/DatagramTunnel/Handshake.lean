import DatagramTunnel.Location.Receiving
import DatagramTunnel.Stream

/-!
# Handshakes

Before the first record, the initiator sends its target and flushes, and the responder receives it.
The handshake owns the transport: if it fails or is dropped, there is no stream.
-/

namespace DatagramTunnel

/-- Where sending a target goes on. -/
inductive Sending where
  /-- These bytes of the target are not taken yet. -/
  | writing (unsent : List UInt8)
  | flushing
  deriving DecidableEq

namespace Sending

/-- Flushes the outlet. -/
def pollFlush (o : Outlet) : Progress Sending (Except Failure Unit) × Outlet :=
  match o.flush with
  | (.pending, o) => (.waiting .flushing, o)
  | (.failed cause, o) => (.ready (.error cause), o)
  | (.done (), o) => (.ready (.ok ()), o)

/-- Offers bytes until all are taken, then flushes. -/
def pollWrite (unsent : List UInt8) (o : Outlet) :
    Progress Sending (Except Failure Unit) × Outlet :=
  match unsent with
  | [] => pollFlush o
  | b :: bs => match o.write (b :: bs) with
    | (.pending, o) => (.waiting (.writing (b :: bs)), o)
    | (.failed cause, o) => (.ready (.error cause), o)
    | (.done 0, o) => (.ready (.error .nothingTaken), o)
    | (.done (count + 1), o) => pollWrite (bs.drop count) o
termination_by unsent.length
decreasing_by simp only [List.length_drop, List.length_cons]; omega

/-- Polls the sending of a target. -/
def poll (stage : Sending) (o : Outlet) : Progress Sending (Except Failure Unit) × Outlet :=
  match stage with
  | .writing unsent => pollWrite unsent o
  | .flushing => pollFlush o

end Sending

/-- How a handshake ended: with a stream, with an error, or dropped without an answer; and how it
left the transport. -/
structure Handshake where
  outcome : Option (Except Error Stream)
  transport : Transport

namespace Handshake

/-- A handshake that is refused before it begins. -/
def refuse (e : Error) (transport : Transport) : Handshake := ⟨some (.error e), transport⟩

/-- The initiator's side, polled at most `polls` times. -/
def initiate (config : Config) (target : Location) (polls : Nat) (transport : Transport) :
    Handshake :=
  match config.validate with
  | .error e => refuse e transport
  | .ok config =>
    let (sent, outlet) := drive Sending.poll polls (.writing target.encode) transport.outlet
    let transport := { transport with outlet }
    match sent with
    | none => ⟨none, transport⟩
    | some (.error cause) => ⟨some (.error (.io cause)), transport⟩
    | some (.ok ()) =>
      ⟨some (.ok (Stream.new config target transport (.handshakeSent target))), transport⟩

/-- The initiator's side for a target given as text, polled at most `polls` times. -/
def initiateText (config : Config) (target : String) (polls : Nat) (transport : Transport) :
    Handshake :=
  match config.validate with
  | .error e => refuse e transport
  | .ok config => match polls with
    -- The text is looked at when the call is first polled.
    | 0 => ⟨none, transport⟩
    | polls + 1 => match Location.ofText target none with
      | .error fault => refuse (.invalidHandshakeInput target fault) transport
      | .ok location => initiate config location (polls + 1) transport

/-- The responder's side, polled at most `polls` times. -/
def respond (config : Config) (polls : Nat) (transport : Transport) : Handshake :=
  match config.validate with
  | .error e => refuse e transport
  | .ok config =>
    let (received, inlet) := drive Location.receive polls [] transport.inlet
    let transport := { transport with inlet }
    match received with
    | none => ⟨none, transport⟩
    | some (.error e) => ⟨some (.error e), transport⟩
    | some (.ok (target, _)) =>
      ⟨some (.ok (Stream.new config target transport (.handshakeReceived target))), transport⟩

end Handshake

end DatagramTunnel
