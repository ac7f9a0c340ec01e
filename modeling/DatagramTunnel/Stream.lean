import DatagramTunnel.Location
import DatagramTunnel.Reader
import DatagramTunnel.Transport
import DatagramTunnel.Writer

/-!
# Streams

A stream carries the datagrams for one target over one transport. It can be split into a read half
and a write half, which are used and dropped independently. Reading uses the reader and the inlet
only, writing the writer and the outlet only. The two sides meet in one place: shutting down a
stream that is not split also closes its reader, once the shutdown has its answer.

An operation on a half that does not exist is skipped, which is the answer `none`.
-/

namespace DatagramTunnel

/-- Who holds the two sides of a stream. -/
inductive Ends where
  /-- One owner. -/
  | whole (reader : Reader) (writer : Writer)
  /-- One owner for each half that has not been dropped. -/
  | halves (reader : Option Reader) (writer : Option Writer)
  /-- Nobody: the stream was dropped before a split. -/
  | dropped
  deriving DecidableEq

namespace Ends

/-- The reader, if its holder is there. -/
def reader? : Ends → Option Reader
  | whole reader _ => some reader
  | halves reader _ => reader
  | dropped => none

/-- The writer, if its holder is there. -/
def writer? : Ends → Option Writer
  | whole _ writer => some writer
  | halves _ writer => writer
  | dropped => none

/-- Replaces the reader. -/
def setReader (reader : Reader) : Ends → Ends
  | whole _ writer => whole reader writer
  | halves _ writer => halves (some reader) writer
  | dropped => dropped

/-- Replaces the writer. -/
def setWriter (writer : Writer) : Ends → Ends
  | whole reader _ => whole reader writer
  | halves reader _ => halves reader (some writer)
  | dropped => dropped

/-- Closes the reader of a stream that is not split. -/
def closeWhole : Ends → Ends
  | whole reader writer => whole { reader with closed := true } writer
  | ends => ends

/-- Whether nobody holds the transport any more. -/
def released : Ends → Bool
  | whole _ _ => false
  | halves reader writer => reader.isNone && writer.isNone
  | dropped => true

end Ends

/-- A stream after its handshake, with all that was noted down about it. -/
structure Stream where
  target : Location
  ends : Ends
  transport : Transport
  log : List Note := []
  deriving DecidableEq

namespace Stream

/-- A new stream; `note` tells of its handshake. -/
def new (config : Config) (target : Location) (transport : Transport) (note : Note) : Stream where
  target
  ends := .whole (.new config) (.new config)
  transport
  log := [note]

/-! ## Reading and writing -/

/-- What a read leaves in the caller's hands: its answer, unless it was dropped first, and the
buffer. -/
structure ReadReply where
  answer : Option ReadAnswer
  buffer : List UInt8

/-- Reads into the buffer, polled at most `polls` times. -/
def read (buffer : List UInt8) (polls : Nat) (s : Stream) : Option ReadReply × Stream :=
  match s.ends.reader? with
  | none => (none, s)
  | some reader =>
    let (answer, r) := drive Reading.poll polls () ⟨reader, s.transport.inlet, buffer, []⟩
    (some ⟨answer, r.buffer⟩,
      { s with
        ends := s.ends.setReader r.reader
        transport := { s.transport with inlet := r.inlet }
        log := s.log ++ r.log })

/-- The stream after work on its write side. -/
def withWriting (s : Stream) (w : Writing) : Stream :=
  { s with
    ends := s.ends.setWriter w.writer
    transport := { s.transport with outlet := w.outlet }
    log := s.log ++ w.log }

/-- Writes a payload, polled at most `polls` times; the inner `none` is a call that was dropped. -/
def write (payload : List UInt8) (polls : Nat) (s : Stream) :
    Option (Option WriteAnswer) × Stream :=
  match s.ends.writer? with
  | none => (none, s)
  | some writer =>
    let (answer, w) :=
      drive (Writing.pollWrite payload) polls .starting ⟨writer, s.transport.outlet, []⟩
    (some answer, s.withWriting w)

/-! ## Shutting down -/

/-- What is noted when a shutdown begins. -/
def shutdownNote (s : Stream) : Note :=
  match s.ends with
  | .halves _ _ => .shuttingDownWriteHalf s.target
  | _ => .shuttingDown s.target

/-- Shuts the write side down, polled at most `polls` times; the inner `none` is a call that was
dropped. -/
def shutdown (polls : Nat) (s : Stream) : Option (Option WriteAnswer) × Stream :=
  match s.ends.writer? with
  | none => (none, s)
  | some writer =>
    let (answer, w) :=
      drive (Writing.pollShutdown s.shutdownNote) polls .starting ⟨writer, s.transport.outlet, []⟩
    let s := s.withWriting w
    (some answer, if answer.isSome then { s with ends := s.ends.closeWhole } else s)

/-! ## Halves -/

/-- Splits the stream. -/
def split (s : Stream) : Option Unit × Stream :=
  match s.ends with
  | .whole reader writer => (some (), { s with ends := .halves (some reader) (some writer) })
  | _ => (none, s)

/-- A half of a stream. -/
inductive Half where
  | read
  | write
  deriving DecidableEq, Repr

/-- Drops one half of a split stream. -/
def dropHalf (half : Half) (s : Stream) : Option Unit × Stream :=
  match half, s.ends with
  | .read, .halves (some _) writer => (some (), { s with ends := .halves none writer })
  | .write, .halves reader (some _) => (some (), { s with ends := .halves reader none })
  | _, _ => (none, s)

/-- Drops the stream, or the halves that are left of it. -/
def drop (s : Stream) : Option Unit × Stream :=
  match s.ends with
  | .whole _ _ => (some (), { s with ends := .dropped })
  | .halves none none => (none, s)
  | .halves _ _ => (some (), { s with ends := .halves none none })
  | .dropped => (none, s)

/-- The targets that the holders of a stream see. -/
inductive Targets where
  | whole (target : Location)
  | halves (read write : Option Location)

/-- The targets that the holders of the stream see. -/
def targets (s : Stream) : Option Targets :=
  match s.ends with
  | .whole _ _ => some (.whole s.target)
  | .halves reader writer =>
    some (.halves (reader.map fun _ => s.target) (writer.map fun _ => s.target))
  | .dropped => none

/-- How many bytes are still to come, as the one owner of a stream can see. -/
def unread (s : Stream) : Option Nat :=
  match s.ends with
  | .whole _ _ => some s.transport.inlet.unread
  | _ => none

end Stream

end DatagramTunnel
