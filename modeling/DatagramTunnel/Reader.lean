import DatagramTunnel.Config
import DatagramTunnel.Note
import DatagramTunnel.Record
import DatagramTunnel.Transport.Inlet

/-!
# Reading records

A reader keeps the bytes that have arrived and not been handed out. It asks the inlet for more only
while the record in front is incomplete, and then for as much as its room allows, so one read can
bring in many records. All that a read has received is in the reader: a call that is dropped between
two polls loses nothing.

A read ends with the payload in the caller's buffer, with the end of the stream, or with an error.
An end or a failure of the inlet inside a record breaks the reader for good; between records a
failure passes and the end stays.
-/

namespace DatagramTunnel

/-- The room that a reader has: one complete record of the largest size. -/
def readerRoom : Nat := Record.lengthSize + Record.maxPacketSize

/-- The read side of a stream. -/
structure Reader where
  policy : ShortBufferPolicy
  /-- The bytes that have arrived and not been handed out. -/
  buffered : List UInt8 := []
  /-- The inlet has ended. -/
  ended : Bool := false
  /-- The inlet has ended or failed inside a record. -/
  broken : Bool := false
  closed : Bool := false
  deriving DecidableEq

/-- The reader of a new stream. -/
def Reader.new (config : Config) : Reader := { policy := config.shortBufferPolicy }

/-- A reader at work: on an inlet, for a caller's buffer. -/
structure Reading where
  reader : Reader
  inlet : Inlet
  buffer : List UInt8
  log : List Note := []
  deriving DecidableEq

/-- The answer to a read: the length of the payload, or `none` at the end of the stream. -/
abbrev ReadAnswer := Except Error (Option Nat)

namespace Reading

/-- Hands out a payload, which fits the buffer; the rest of the buffer stays as it is. -/
def deliver (r : Reading) (payload rest : List UInt8) : ReadAnswer × Reading :=
  (.ok (some payload.length),
    { r with
      reader := { r.reader with buffered := rest }
      buffer := payload ++ r.buffer.drop payload.length
      log := r.log ++ [.packetRead payload.length] })

/-- Refuses to hand out a payload that does not fit the buffer. -/
def refuse (r : Reading) (payload rest : List UInt8) : ReadAnswer × Reading :=
  (.error (.shortBuffer payload.length r.buffer.length),
    match r.reader.policy with
    | .retain => r
    | .discard =>
      { r with
        reader := { r.reader with buffered := rest }
        log := r.log ++ [.discarded payload.length r.buffer.length] })

/-- Gives up the framing: the inlet has failed or ended inside a record. -/
def lose (r : Reading) (cause : Failure) : ReadAnswer × Reading :=
  let received := r.reader.buffered.length
  let expected := Record.extent r.reader.buffered
  (.error (.truncatedPacket expected received cause),
    { r with
      reader := { r.reader with broken := true }
      log := r.log ++ [.readFailed received expected cause] })

/-- What a reader with an incomplete record makes of a failure of the inlet. -/
def fail (r : Reading) (cause : Failure) : ReadAnswer × Reading :=
  if r.reader.buffered.isEmpty then (.error (.io cause), r) else r.lose cause

/-- What a reader with an incomplete record makes of the end of the inlet. -/
def finish (r : Reading) : ReadAnswer × Reading :=
  let r := { r with reader := { r.reader with ended := true } }
  if r.reader.buffered.isEmpty then (.ok none, r) else r.lose .endInsideRecord

/-- Adds bytes that have arrived. -/
def receive (r : Reading) (bytes : List UInt8) (inlet : Inlet) : Reading :=
  { r with inlet, reader := { r.reader with buffered := r.reader.buffered ++ bytes } }

/-- Reads until there is an answer or the inlet makes it wait. -/
def fetch (r : Reading) : Progress Unit ReadAnswer × Reading :=
  if r.reader.broken then (.ready (.error (.protocolState .reading)), r)
  else match Record.split? r.reader.buffered with
  | some (payload, rest) =>
    let (answer, r) :=
      if r.buffer.length < payload.length then r.refuse payload rest else r.deliver payload rest
    (.ready answer, r)
  | none =>
    if r.reader.ended then (.ready (.ok none), r)
    -- The record in front is incomplete, so the room is not used up.
    else match h : r.inlet.read (readerRoom - r.reader.buffered.length) with
      | (.pending, inlet) => (.waiting (), { r with inlet })
      | (.failed cause, inlet) =>
        let (answer, r) := { r with inlet }.fail cause
        (.ready answer, r)
      | (.done [], inlet) =>
        let (answer, r) := { r with inlet }.finish
        (.ready answer, r)
      | (.done (b :: bs), inlet) =>
        have := Inlet.unread_lt_of_read h
        fetch (r.receive (b :: bs) inlet)
termination_by r.inlet.unread

/-- Polls a read. -/
def poll (_ : Unit) (r : Reading) : Progress Unit ReadAnswer × Reading :=
  if r.reader.closed then (.ready (.error .closed), r) else r.fetch

end Reading

end DatagramTunnel
