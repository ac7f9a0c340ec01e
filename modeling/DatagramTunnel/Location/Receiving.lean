import DatagramTunnel.Location.Encoding
import DatagramTunnel.Transport.Inlet

/-!
# Reading a location from a stream

The stage of the call is the bytes of the location read so far, so nothing is asked of the stream
twice and nothing past the location. A read that is interrupted is not always a failure: see
`Field.triesAgain`.
-/

namespace DatagramTunnel.Location

/-- Polls a read of a location; `taken` are its bytes read so far. The answer is the location and
how many bytes it takes. -/
def receive (taken : List UInt8) (i : Inlet) :
    Progress (List UInt8) (Except Error (Location × Nat)) × Inlet :=
  match demand taken with
  | .settled result => (.ready result, i)
  | .more field count => match h : i.read count with
    | (.pending, j) => (.waiting taken, j)
    | (.failed cause, j) =>
      have := Inlet.supply_lt_of_failed h
      if field.triesAgain cause then receive taken j
      else (.ready (.error (.truncatedAddress cause)), j)
    | (.done [], j) => (.ready (.error (.truncatedAddress field.cutOff)), j)
    | (.done (b :: bs), j) =>
      have := Inlet.supply_lt_of_read h
      receive (taken ++ b :: bs) j
termination_by i.supply

end DatagramTunnel.Location
