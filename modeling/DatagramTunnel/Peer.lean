import DatagramTunnel.Ip.V6

/-!
# Peers

A peer is the IP address and port that a datagram comes from or goes to. Its text is `ip:port`, or
`[ip]:port` for IPv6, where `%` and a number may name the scope of a link-local address.
-/

namespace DatagramTunnel

/-- The other end of a datagram socket. -/
inductive Peer where
  | ipv4 (address : Ipv4) (port : UInt16)
  | ipv6 (address : Ipv6) (scope : UInt32) (port : UInt16)
  deriving DecidableEq

namespace Peer

open Text

/-- The text of a peer. -/
def renderChars : Peer → List Char
  | .ipv4 address port => address.render ++ ':' :: Numeral.decimal port.toNat
  | .ipv6 address scope port =>
    let scopeText := if scope = 0 then [] else '%' :: Numeral.decimal scope.toNat
    '[' :: address.render ++ scopeText ++ ']' :: ':' :: Numeral.decimal port.toNat

/-- The text of a peer, as a string. -/
def render (p : Peer) : String := String.ofList p.renderChars

/-- Reads a number without a sign. -/
def number? (limit : Nat) (text : List Char) : Option Nat :=
  match Numeral.read 10 limit text with
  | .ok n => some n
  | .error _ => none

/-- Reads an IPv6 address with or without a scope. -/
def scoped? (text : List Char) : Option (Ipv6 × UInt32) :=
  match splitFirst '%' text with
  | none => (Ipv6.ofText? text).map (·, 0)
  | some (address, scope) => do
    return (← Ipv6.ofText? address, UInt32.ofNat (← number? 4294967295 scope))

/-- Reads a peer. -/
def ofChars? : List Char → Option Peer
  | '[' :: inner => match splitFirst ']' inner with
    | some (host, ':' :: port) => do
      let (address, scope) ← scoped? host
      return .ipv6 address scope (UInt16.ofNat (← number? Numeral.max16 port))
    | _ => none
  | text => match splitLast ':' text with
    | some (host, port) => do
      return .ipv4 (← Ipv4.ofText? host) (UInt16.ofNat (← number? Numeral.max16 port))
    | none => none

/-- Reads a peer from a string. -/
def ofText? (text : String) : Option Peer := ofChars? text.toList

end Peer

end DatagramTunnel
