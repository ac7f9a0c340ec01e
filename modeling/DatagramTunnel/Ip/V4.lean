import DatagramTunnel.Text.Cut
import DatagramTunnel.Text.Numeral

/-!
# IPv4 addresses

An address is its four bytes. Its text is four decimal numbers with points between them; `ofText?`
accepts only that text, so a number has no leading zero and no sign.
-/

namespace DatagramTunnel

/-- An IPv4 address. -/
structure Ipv4 where
  /-- The four bytes, in network order. -/
  octets : List UInt8
  length_octets : octets.length = 4
  deriving DecidableEq

namespace Ipv4

open Text

/-- The address of four bytes. -/
def ofOctets? (octets : List UInt8) : Option Ipv4 :=
  if h : octets.length = 4 then some ⟨octets, h⟩ else none

/-- The text of the bytes of an address. -/
def renderOctets (octets : List UInt8) : List Char :=
  join ['.'] (octets.map fun b => Numeral.decimal b.toNat)

/-- The text of an address. -/
def render (a : Ipv4) : List Char := renderOctets a.octets

/-- Reads one byte of an address: one to three digits, the first of several not zero. -/
def octet? (text : List Char) : Option UInt8 :=
  if text.length > 3 ∨ (text.length > 1 ∧ text.head? = some '0') then none
  else match Numeral.read 10 255 text with
    | .ok n => some (UInt8.ofNat n)
    | .error _ => none

/-- Reads an address. -/
def ofText? (text : List Char) : Option Ipv4 :=
  (fields '.' text).mapM octet? >>= ofOctets?

end Ipv4

end DatagramTunnel
