/-!
# Two-byte words, most significant byte first

Ports and record lengths travel as two bytes. `decode_encode` says that every number below 65536
comes back from its two bytes, and `encode_decode` that every two bytes come back from their number.
-/

namespace DatagramTunnel.BigEndian

/-- The two bytes of a number below 65536; a larger number is taken modulo 65536. -/
def encode (n : Nat) : List UInt8 := [UInt8.ofNat (n / 256), UInt8.ofNat n]

/-- The number that two bytes stand for. -/
def decode (high low : UInt8) : Nat := high.toNat * 256 + low.toNat

@[simp] theorem length_encode (n : Nat) : (encode n).length = 2 := rfl

theorem decode_lt (high low : UInt8) : decode high low < 65536 := by
  have h := high.toNat_lt
  have l := low.toNat_lt
  simp only [decode]
  omega

/-- A number below 65536 is what its two bytes stand for. -/
theorem decode_encode {n : Nat} (h : n < 65536) :
    decode (UInt8.ofNat (n / 256)) (UInt8.ofNat n) = n := by
  simp only [decode, UInt8.toNat_ofNat']
  omega

/-- Two bytes are the encoding of the number they stand for. -/
theorem encode_decode (high low : UInt8) : encode (decode high low) = [high, low] := by
  have h := high.toNat_lt
  have l := low.toNat_lt
  simp only [encode, decode, List.cons.injEq, and_true, ← UInt8.toNat_inj, UInt8.toNat_ofNat']
  omega

end DatagramTunnel.BigEndian
