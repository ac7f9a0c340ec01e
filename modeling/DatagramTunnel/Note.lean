import DatagramTunnel.Failure
import DatagramTunnel.Location
import DatagramTunnel.Peer

/-!
# Notes

What the library notes down about its work, in order, for whoever looks for the cause of a failure.
A note has a level and a wording.
-/

namespace DatagramTunnel

/-- How much a note matters. -/
inductive Level where
  | trace
  | debug
  | warn
  deriving DecidableEq, Repr

/-- The name of a level. -/
def Level.name : Level → String
  | .trace => "TRACE"
  | .debug => "DEBUG"
  | .warn => "WARN"

/-- One thing that was noted. -/
inductive Note where
  | handshakeSent (target : Location)
  | handshakeReceived (target : Location)
  /-- A payload was dropped because it did not fit the buffer. -/
  | discarded (size capacity : Nat)
  | packetRead (size : Nat)
  /-- The stream failed inside a record. -/
  | readFailed (received expected : Nat) (cause : Failure)
  | packetWritten (size : Nat)
  /-- A write failed after part of a record. -/
  | writeFailed (written total : Nat) (cause : Failure)
  | shuttingDown (target : Location)
  /-- The write half of a split stream is being shut down. -/
  | shuttingDownWriteHalf (target : Location)
  | datagramReceived (size : Nat) (target : Location) (peer : Peer)
  | datagramSent (size : Nat) (target : Location) (peer : Peer)
  deriving DecidableEq

namespace Note

/-- The level of a note. -/
def level : Note → Level
  | handshakeSent _ | handshakeReceived _ | discarded .. | shuttingDown _
  | shuttingDownWriteHalf _ => .debug
  | packetRead _ | packetWritten _ | datagramReceived .. | datagramSent .. => .trace
  | readFailed .. | writeFailed .. => .warn

/-- The wording of a note. -/
def message : Note → String
  | handshakeSent target => s!"UoT handshake sent target {target.render}"
  | handshakeReceived target => s!"UoT handshake received target {target.render}"
  | discarded size capacity =>
    s!"Discarding {size} byte packet, read buffer holds {capacity}"
  | packetRead size => s!"Read {size} byte packet"
  | readFailed received expected cause =>
    s!"UoT stream failed after {received} of {expected} packet bytes: {cause.text}"
  | packetWritten size => s!"Wrote {size} byte packet"
  | writeFailed written total cause =>
    s!"UoT packet write failed after {written} of {total} bytes: {cause.text}"
  | shuttingDown target => s!"Shutting down UoT stream for {target.render}"
  | shuttingDownWriteHalf target => s!"Shutting down UoT write half for {target.render}"
  | datagramReceived size target peer =>
    s!"Received {size} byte datagram for {target.render} from {peer.render}"
  | datagramSent size target peer =>
    s!"Sent {size} byte datagram from {target.render} to {peer.render}"

/-- The line that a note makes in a log. -/
def line (n : Note) : String := n.level.name ++ " " ++ n.message

end Note

end DatagramTunnel
