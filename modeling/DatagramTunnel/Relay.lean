import DatagramTunnel.Handshake
import DatagramTunnel.Text.Cut

/-!
# Relays

A relay is a whole journey: an initiator sends datagrams for a target over a transport that takes
everything, and a responder reads what has come through of the bytes, in chunks of some size.
-/

namespace DatagramTunnel.Relay

/-- What a relay is made of. -/
structure Plan where
  config : Config
  target : Location
  packets : List (List UInt8)
  /-- How many bytes come through; all, if not given. -/
  cut : Option Nat := none
  /-- How many bytes arrive at a time. -/
  chunk : Nat
  /-- The size of the reading buffer. -/
  capacity : Nat
  /-- How often is read at most. -/
  maxReads : Nat

/-- What came of one read. -/
inductive Received where
  | packet (payload : List UInt8)
  | failed (e : Error)
  | ended

/-- What came of a relay. -/
structure Report where
  sent : List WriteAnswer
  shutdown : WriteAnswer
  wire : List UInt8
  target : Except Error Location
  received : List Received
  log : List Note

/-- A transport that brings these arrivals and takes everything. -/
def freeTransport (arrivals : List Arrival) : Transport where
  inlet := { arrivals }
  outlet := { intakes := [], flushSignals := [], shutdownSignals := [] }

/-- The answer of a call on a transport that never makes it wait. -/
def answered : Option (Option WriteAnswer) → WriteAnswer
  | some (some answer) => answer
  | _ => .error .closed

/-- Writes the packets one after the other, whatever comes of each. -/
def sendAll : List (List UInt8) → Stream → List WriteAnswer × Stream
  | [], s => ([], s)
  | packet :: later, s =>
    let (answer, s) := s.write packet 1
    let (answers, s) := sendAll later s
    (answered answer :: answers, s)

/-- Reads until the stream ends, at most `reads` times. -/
def receiveAll (capacity : Nat) : Nat → Stream → List Received × Stream
  | 0, s => ([], s)
  | reads + 1, s => match s.read (List.replicate capacity 0) 1 with
    | (some ⟨some (.ok (some size)), buffer⟩, s) =>
      let (received, s) := receiveAll capacity reads s
      (.packet (buffer.take size) :: received, s)
    | (some ⟨some (.error e), _⟩, s) =>
      let (received, s) := receiveAll capacity reads s
      (.failed e :: received, s)
    | (_, s) => ([.ended], s)

/-- Runs the responder's side on the bytes that come through. -/
def respond (plan : Plan) (bytes : List UInt8) :
    Except Error Location × List Received × List Note :=
  let arrivals := (Text.chunks plan.chunk bytes).map Arrival.data
  match (Handshake.respond plan.config 1 (freeTransport arrivals)).outcome with
  | some (.ok stream) =>
    let (received, stream) := receiveAll plan.capacity plan.maxReads stream
    (.ok stream.target, received, stream.log)
  | some (.error e) => (.error e, [], [])
  | none => (.error .closed, [], [])

/-- Runs a relay. There is no report if the initiator cannot begin. -/
def run (plan : Plan) : Except Error Report :=
  match (Handshake.initiate plan.config plan.target 1 (freeTransport [])).outcome with
  | some (.ok stream) =>
    let (sent, stream) := sendAll plan.packets stream
    let (shutdown, stream) := stream.shutdown 1
    let wire := stream.transport.outlet.accepted
    let (target, received, log) := respond plan ((plan.cut.map wire.take).getD wire)
    .ok ⟨sent, answered shutdown, wire, target, received, stream.log ++ log⟩
  | some (.error e) => .error e
  | none => .error .closed

end DatagramTunnel.Relay
