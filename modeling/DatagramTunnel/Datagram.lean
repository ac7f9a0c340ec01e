import DatagramTunnel.Location.Encoding
import DatagramTunnel.Note
import DatagramTunnel.Transport.Outlet

/-!
# Datagrams

On a datagram socket no record is needed: each datagram is a location and then the payload.
`Datagram.encode` writes one. A `DatagramSocket` is known by what it will do, as a transport is. A
read receives a datagram, takes the location off its front and moves the payload to the front of the
caller's buffer; a write sends bytes as they are, or a payload behind its location.
-/

namespace DatagramTunnel

/-- The datagram that carries a payload for a target. -/
def Datagram.encode (target : Location) (payload : List UInt8) : List UInt8 :=
  target.encode ++ payload

/-- What a datagram socket does at one receive. -/
inductive DatagramArrival where
  | datagram (bytes : List UInt8) (peer : Peer)
  | failed (cause : Failure)
  | pending
  deriving DecidableEq

/-- A datagram socket, known by what it will do at each receive and each send. After the last
arrival nothing comes; after the last intake every datagram is sent whole. -/
structure DatagramSocket where
  arrivals : List DatagramArrival
  intakes : List Intake := []
  /-- What has been sent, and to whom. -/
  sent : List (Peer × List UInt8) := []
  deriving DecidableEq

namespace DatagramSocket

/-- Receives a datagram; what is past the room is lost. -/
def receive (room : Nat) (s : DatagramSocket) :
    Reply (List UInt8 × Peer) × DatagramSocket :=
  match s.arrivals with
  | [] => (.pending, s)
  | .datagram bytes peer :: later => (.done (bytes.take room, peer), { s with arrivals := later })
  | .failed cause :: later => (.failed cause, { s with arrivals := later })
  | .pending :: later => (.pending, { s with arrivals := later })

/-- Sends the first bytes of a datagram. -/
def accept (s : DatagramSocket) (bytes : List UInt8) (peer : Peer) (intakes : List Intake)
    (most : Nat) : Reply Nat × DatagramSocket :=
  let taken := bytes.take most
  (.done taken.length, { s with intakes, sent := s.sent ++ [(peer, taken)] })

/-- Sends a datagram; the answer is how many of its bytes were sent. -/
def transmit (bytes : List UInt8) (peer : Peer) (s : DatagramSocket) :
    Reply Nat × DatagramSocket :=
  match s.intakes with
  | [] => s.accept bytes peer [] bytes.length
  | .all :: later => s.accept bytes peer later bytes.length
  | .upTo most :: later => s.accept bytes peer later most
  | .failed cause :: later => (.failed cause, { s with intakes := later })
  | .pending :: later => (.pending, { s with intakes := later })

end DatagramSocket

/-- A socket at work: for a caller's buffer, with what is noted down. -/
structure DatagramWork where
  socket : DatagramSocket
  buffer : List UInt8 := []
  log : List Note := []
  deriving DecidableEq

/-- A datagram that was read: the payload is the first `size` bytes of the buffer. -/
structure DatagramRead where
  size : Nat
  target : Location
  peer : Peer
  deriving DecidableEq

namespace DatagramWork

/-- The buffer with bytes written over its front. -/
def overwrite (bytes buffer : List UInt8) : List UInt8 := bytes ++ buffer.drop bytes.length

/-- The buffer with its bytes from `start` up to `stop` copied to its front. -/
def moveToFront (start stop : Nat) (buffer : List UInt8) : List UInt8 :=
  overwrite ((buffer.take stop).drop start) buffer

/-- Takes the location off the front of a datagram of which `received` bytes are in the buffer. -/
def stripTarget (w : DatagramWork) (received : Nat) (peer : Peer) :
    Except Error DatagramRead × DatagramWork :=
  match (Location.decode (w.buffer.take received)).1 with
  | .error e => (.error e, w)
  | .ok (target, consumed) =>
    let size := received - consumed
    (.ok ⟨size, target, peer⟩,
      { w with
        buffer := moveToFront consumed received w.buffer
        log := w.log ++ [.datagramReceived size target peer] })

/-- Polls a read. -/
def pollRead (_ : Unit) (w : DatagramWork) :
    Progress Unit (Except Error DatagramRead) × DatagramWork :=
  match w.socket.receive w.buffer.length with
  | (.pending, socket) => (.waiting (), { w with socket })
  | (.failed cause, socket) => (.ready (.error (.io cause)), { w with socket })
  | (.done (bytes, peer), socket) =>
    let (answer, w) :=
      { w with socket, buffer := overwrite bytes w.buffer }.stripTarget bytes.length peer
    (.ready answer, w)

/-- What a read leaves in the caller's hands: its answer, unless it was dropped first, and the
buffer. -/
structure ReadReply where
  answer : Option (Except Error DatagramRead)
  buffer : List UInt8

/-- Reads a datagram into the buffer, polled at most `polls` times. -/
def read (buffer : List UInt8) (polls : Nat) (w : DatagramWork) : ReadReply × DatagramWork :=
  let (answer, w) := drive pollRead polls () { w with buffer }
  (⟨answer, w.buffer⟩, w)

/-- Polls a write of bytes that already are a datagram; the target only shows in the log. -/
def pollWrite (bytes : List UInt8) (target : Location) (peer : Peer) (_ : Unit)
    (w : DatagramWork) : Progress Unit (Except Error Nat) × DatagramWork :=
  match w.socket.transmit bytes peer with
  | (.pending, socket) => (.waiting (), { w with socket })
  | (.failed cause, socket) => (.ready (.error (.io cause)), { w with socket })
  | (.done count, socket) =>
    (.ready (.ok count),
      { w with socket, log := w.log ++ [.datagramSent count target peer] })

/-- Polls the sending of a payload to a target. -/
def pollSend (payload : List UInt8) (target : Location) (peer : Peer) :
    Unit → DatagramWork → Progress Unit (Except Error Nat) × DatagramWork :=
  pollWrite (Datagram.encode target payload) target peer

/-- Sends a payload to a target, polled at most `polls` times. -/
def send (payload : List UInt8) (target : Location) (peer : Peer) (polls : Nat)
    (w : DatagramWork) : Option (Except Error Nat) × DatagramWork :=
  drive (pollSend payload target peer) polls () w

end DatagramWork

end DatagramTunnel
