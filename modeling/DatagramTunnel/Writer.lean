import DatagramTunnel.Config
import DatagramTunnel.Note
import DatagramTunnel.Record
import DatagramTunnel.Transport.Outlet

/-!
# Writing records

A writer stages one record at a time and offers it to the outlet until all of it is taken; then the
outlet is flushed. What the outlet has taken of the staged record, and what it has not, is in the
writer: a call that is dropped between two polls leaves its record staged, and the next call first
brings that record to its end.

A failure after part of a record breaks the writer for good. A failure before its first byte, or of
the flush, only drops what is staged.
-/

namespace DatagramTunnel

/-- The write side of a stream. -/
structure Writer where
  /-- The largest payload that is written. -/
  limit : Nat
  /-- The part of the staged record that the outlet has taken. -/
  sent : List UInt8 := []
  /-- The part of the staged record that it has not. -/
  unsent : List UInt8 := []
  /-- A record has been taken in part and given up. -/
  broken : Bool := false
  closed : Bool := false
  deriving DecidableEq

namespace Writer

/-- The writer of a new stream. No configuration raises the limit past what a record can hold. -/
def new (config : Config) : Writer := { limit := min config.maxPayloadSize maxPayloadSize }

/-- The staged record; empty if there is none. -/
def staged (w : Writer) : List UInt8 := w.sent ++ w.unsent

/-- Stages nothing. -/
def clear (w : Writer) : Writer := { w with sent := [], unsent := [] }

/-- Stages the record of a payload. -/
def stage (w : Writer) (payload : List UInt8) : Writer :=
  { w with sent := [], unsent := Record.encode payload }

/-- Moves on by as many bytes as the outlet has taken. -/
def advance (w : Writer) (count : Nat) : Writer :=
  { w with sent := w.sent ++ w.unsent.take count, unsent := w.unsent.drop count }

/-- Why a payload is not written at all, if so. -/
def refusal? (w : Writer) (payload : List UInt8) : Option Error :=
  if w.closed then some .closed
  else if w.broken then some (.protocolState .writing)
  else if payload.length > w.limit then some (.packetTooLarge payload.length w.limit)
  else none

end Writer

/-- A writer at work on an outlet. -/
structure Writing where
  writer : Writer
  outlet : Outlet
  log : List Note := []
  deriving DecidableEq

/-- The answer to a write or a shutdown. -/
abbrev WriteAnswer := Except Error Unit

namespace Writing

/-! ## The staged record -/

/-- Gives up the staged record. -/
def abandon (w : Writing) (cause : Failure) : WriteAnswer × Writing :=
  (.error (.io cause),
    if w.writer.sent.isEmpty then { w with writer := w.writer.clear }
    else
      { w with
        writer := { w.writer.clear with broken := true }
        log := w.log ++ [.writeFailed w.writer.sent.length w.writer.staged.length cause] })

/-- Flushes the outlet; nothing is staged any more. -/
def settle (w : Writing) : Progress Unit WriteAnswer × Writing :=
  let w := { w with writer := w.writer.clear }
  match w.outlet.flush with
  | (.pending, outlet) => (.waiting (), { w with outlet })
  | (.failed cause, outlet) => (.ready (.error (.io cause)), { w with outlet })
  | (.done (), outlet) => (.ready (.ok ()), { w with outlet })

/-- Brings the staged record to its end and flushes. -/
def flush (w : Writing) : Progress Unit WriteAnswer × Writing :=
  if w.writer.unsent.isEmpty then w.settle
  else match w.outlet.write w.writer.unsent with
    | (.pending, outlet) => (.waiting (), { w with outlet })
    | (.failed cause, outlet) =>
      let (answer, w) := { w with outlet }.abandon cause
      (.ready answer, w)
    | (.done 0, outlet) =>
      let (answer, w) := { w with outlet }.abandon .recordNotTaken
      (.ready answer, w)
    | (.done (count + 1), outlet) =>
      flush { w with outlet, writer := w.writer.advance (count + 1) }
termination_by w.writer.unsent.length
decreasing_by
  rename_i h
  simp only [Writer.advance, List.length_drop]
  cases hu : w.writer.unsent with
  | nil => simp [hu] at h
  | cons b bs => simp only [List.length_cons]; omega

/-! ## Writing a payload -/

/-- Where a write goes on. -/
inductive WriteStage where
  /-- It has not begun. -/
  | starting
  /-- It brings the record of an earlier, dropped call to its end. -/
  | finishing
  /-- It brings its own record to its end. -/
  | sending
  deriving DecidableEq

/-- Brings the record of the payload to its end. -/
def send (payload : List UInt8) (w : Writing) : Progress WriteStage WriteAnswer × Writing :=
  match w.flush with
  | (.waiting (), w) => (.waiting .sending, w)
  | (.ready (.error e), w) => (.ready (.error e), w)
  | (.ready (.ok ()), w) =>
    (.ready (.ok ()), { w with log := w.log ++ [.packetWritten payload.length] })

/-- Stages the record of the payload and brings it to its end. -/
def begin (payload : List UInt8) (w : Writing) : Progress WriteStage WriteAnswer × Writing :=
  send payload { w with writer := w.writer.stage payload }

/-- Brings the record of an earlier call to its end, then begins. -/
def finish (payload : List UInt8) (w : Writing) : Progress WriteStage WriteAnswer × Writing :=
  match w.flush with
  | (.waiting (), w) => (.waiting .finishing, w)
  | (.ready (.error e), w) => (.ready (.error e), w)
  | (.ready (.ok ()), w) => begin payload w

/-- Polls a write of a payload. -/
def pollWrite (payload : List UInt8) (stage : WriteStage) (w : Writing) :
    Progress WriteStage WriteAnswer × Writing :=
  match stage with
  | .starting => match w.writer.refusal? payload with
    | some e => (.ready (.error e), w)
    | none => if w.writer.staged.isEmpty then begin payload w else finish payload w
  | .finishing => finish payload w
  | .sending => send payload w

/-! ## Shutting down -/

/-- Where a shutdown goes on. -/
inductive ShutdownStage where
  /-- It has not begun. -/
  | starting
  /-- It brings the record of an earlier, dropped call to its end. -/
  | finishing
  /-- It shuts the outlet down; `finished` is how the staged record ended. -/
  | closing (finished : WriteAnswer)

/-- Shuts the outlet down. The answer is the first error. -/
def close (finished : WriteAnswer) (w : Writing) : Progress ShutdownStage WriteAnswer × Writing :=
  match w.outlet.shutdown with
  | (.pending, outlet) => (.waiting (.closing finished), { w with outlet })
  | (.failed cause, outlet) =>
    (.ready (match finished with | .ok () => .error (.io cause) | .error e => .error e),
      { w with outlet })
  | (.done (), outlet) => (.ready finished, { w with outlet })

/-- Brings the staged record to its end, then shuts the outlet down, whatever came of the record. -/
def finishAndClose (w : Writing) : Progress ShutdownStage WriteAnswer × Writing :=
  match w.flush with
  | (.waiting (), w) => (.waiting .finishing, w)
  | (.ready finished, w) => close finished w

/-- Begins a shutdown. The writer is closed from here on; a second shutdown does nothing. -/
def startShutdown (w : Writing) : Progress ShutdownStage WriteAnswer × Writing :=
  if w.writer.closed then (.ready (.ok ()), w)
  else
    -- Closed before anything can wait: a shutdown that is dropped leaves the writer closed.
    let w := { w with writer := { w.writer with closed := true } }
    if !w.writer.broken && !w.writer.staged.isEmpty then finishAndClose w else close (.ok ()) w

/-- Polls a shutdown, which is announced in the log when it begins. -/
def pollShutdown (announcement : Note) (stage : ShutdownStage) (w : Writing) :
    Progress ShutdownStage WriteAnswer × Writing :=
  match stage with
  | .starting => startShutdown { w with log := w.log ++ [announcement] }
  | .finishing => finishAndClose w
  | .closing finished => close finished w

end Writing

end DatagramTunnel
