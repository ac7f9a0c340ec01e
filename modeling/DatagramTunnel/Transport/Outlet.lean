import DatagramTunnel.Call

/-!
# The write side of a transport

An outlet is known by what it will do at each write, flush and shutdown; when a list is used up,
every further request succeeds, and a write then takes all bytes. It keeps the bytes it has taken.
-/

namespace DatagramTunnel

/-- What the write side of a transport does at one write. -/
inductive Intake where
  /-- It takes at most so many bytes. -/
  | upTo (most : Nat)
  /-- It takes all bytes. -/
  | all
  | failed (cause : Failure)
  | pending
  deriving DecidableEq

/-- What the write side of a transport does at one flush or shutdown. -/
inductive Signal where
  | done
  | failed (cause : Failure)
  | pending
  deriving DecidableEq

/-- The write side of a transport. -/
structure Outlet where
  intakes : List Intake
  flushSignals : List Signal
  shutdownSignals : List Signal
  /-- The bytes taken so far. -/
  accepted : List UInt8 := []
  /-- How many flushes have succeeded. -/
  flushes : Nat := 0
  /-- How many shutdowns have succeeded. -/
  shutdowns : Nat := 0
  deriving DecidableEq

namespace Outlet

/-- Takes some of the offered bytes. -/
def accept (o : Outlet) (bytes : List UInt8) (intakes : List Intake) (most : Nat) :
    Reply Nat × Outlet :=
  let taken := bytes.take most
  (.done taken.length, { o with intakes, accepted := o.accepted ++ taken })

/-- Offers bytes; the answer is how many of them were taken. -/
def write (o : Outlet) (bytes : List UInt8) : Reply Nat × Outlet :=
  match o.intakes with
  | [] => o.accept bytes [] bytes.length
  | .all :: later => o.accept bytes later bytes.length
  | .upTo most :: later => o.accept bytes later most
  | .failed cause :: later => (.failed cause, { o with intakes := later })
  | .pending :: later => (.pending, { o with intakes := later })

/-- Asks for all bytes taken to be passed on. -/
def flush (o : Outlet) : Reply Unit × Outlet :=
  match o.flushSignals with
  | [] => (.done (), { o with flushes := o.flushes + 1 })
  | .done :: later => (.done (), { o with flushSignals := later, flushes := o.flushes + 1 })
  | .failed cause :: later => (.failed cause, { o with flushSignals := later })
  | .pending :: later => (.pending, { o with flushSignals := later })

/-- Asks for the write side to be closed. -/
def shutdown (o : Outlet) : Reply Unit × Outlet :=
  match o.shutdownSignals with
  | [] => (.done (), { o with shutdowns := o.shutdowns + 1 })
  | .done :: later => (.done (), { o with shutdownSignals := later, shutdowns := o.shutdowns + 1 })
  | .failed cause :: later => (.failed cause, { o with shutdownSignals := later })
  | .pending :: later => (.pending, { o with shutdownSignals := later })

/-- More will follow. -/
def feed (o : Outlet) (intakes : List Intake) (flushSignals shutdownSignals : List Signal) :
    Outlet :=
  { o with
    intakes := o.intakes ++ intakes
    flushSignals := o.flushSignals ++ flushSignals
    shutdownSignals := o.shutdownSignals ++ shutdownSignals }

end Outlet

end DatagramTunnel
