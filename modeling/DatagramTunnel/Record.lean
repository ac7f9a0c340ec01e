import DatagramTunnel.BigEndian

/-!
# Records

On a stream each datagram is a record: its length in two bytes, then its payload. `encode` writes a
record. `split?` takes a complete record off the front of a byte sequence, and `extent` says how
long the record in front will be, as far as its bytes tell. `split?_encode` says that a record is
read back whatever follows it, and `split?_eq_none_iff` that only a record that has not fully
arrived is not read.
-/

namespace DatagramTunnel.Record

/-- How many bytes the length takes. -/
def lengthSize : Nat := 2

/-- The longest payload that the length can count. -/
def maxPacketSize : Nat := 65535

/-- The record of a payload. -/
def encode (payload : List UInt8) : List UInt8 := BigEndian.encode payload.length ++ payload

/-- How long the record in front is, as far as its bytes tell. -/
def extent : List UInt8 → Nat
  | high :: low :: _ => lengthSize + BigEndian.decode high low
  | _ => lengthSize

/-- The payload of the record in front, and what follows the record. -/
def split? : List UInt8 → Option (List UInt8 × List UInt8)
  | high :: low :: rest =>
    let size := BigEndian.decode high low
    if size ≤ rest.length then some (rest.take size, rest.drop size) else none
  | _ => none

@[simp] theorem length_encode (payload : List UInt8) :
    (encode payload).length = lengthSize + payload.length := by
  simp [encode, lengthSize]

/-- A record is read back, whatever follows it. -/
theorem split?_encode {payload : List UInt8} (h : payload.length ≤ maxPacketSize)
    (rest : List UInt8) : split? (encode payload ++ rest) = some (payload, rest) := by
  simp only [maxPacketSize] at h
  simp only [encode, BigEndian.encode, List.cons_append, List.nil_append, split?,
    BigEndian.decode_encode (show payload.length < 65536 by omega), List.length_append]
  rw [if_pos (Nat.le_add_right _ _), List.take_left', List.drop_left'] <;> rfl

/-- A record is not read exactly if it has not fully arrived. -/
theorem split?_eq_none_iff (bytes : List UInt8) :
    split? bytes = none ↔ bytes.length < extent bytes := by
  match bytes with
  | [] => simp [split?, extent, lengthSize]
  | [_] => simp [split?, extent, lengthSize]
  | high :: low :: rest =>
    simp only [split?, extent, lengthSize, List.length_cons]
    split
    · simp; omega
    · simp; omega

end DatagramTunnel.Record
