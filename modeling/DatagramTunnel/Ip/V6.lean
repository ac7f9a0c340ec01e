import DatagramTunnel.BigEndian
import DatagramTunnel.Ip.V4

/-!
# IPv6 addresses

An address is its sixteen bytes, or eight 16-bit groups. Its text is the groups in hexadecimal with
colons between them. In writing, the longest run of at least two zero groups (the first of equal
runs) becomes a double colon, and an address that holds an IPv4 address behind `::ffff:` shows it in
decimal. In reading, a double colon stands for one or more zero groups anywhere, and the last two
groups may always be written as an IPv4 address.
-/

namespace DatagramTunnel

/-- An IPv6 address. -/
structure Ipv6 where
  /-- The sixteen bytes, in network order. -/
  octets : List UInt8
  length_octets : octets.length = 16
  deriving DecidableEq

namespace Ipv6

open Text

/-- The address of sixteen bytes. -/
def ofOctets? (octets : List UInt8) : Option Ipv6 :=
  if h : octets.length = 16 then some ⟨octets, h⟩ else none

/-- Bytes taken two by two as 16-bit groups. -/
def groupsOf : List UInt8 → List Nat
  | high :: low :: rest => BigEndian.decode high low :: groupsOf rest
  | _ => []

/-- The eight groups of an address. -/
def groups (a : Ipv6) : List Nat := groupsOf a.octets

/-- The address of eight groups. -/
def ofGroups? (groups : List Nat) : Option Ipv6 := ofOctets? (groups.flatMap BigEndian.encode)

/-! ## Writing -/

/-- Groups in hexadecimal with colons between them. -/
def renderGroups (groups : List Nat) : List Char := join [':'] (groups.map Numeral.hex)

/-- How many zero groups stand in front. -/
def leadingZeros (groups : List Nat) : Nat := (groups.takeWhile (· = 0)).length

/-- Where the longest run of zero groups starts and how long it is; the first of equal runs. -/
def longestZeros : List Nat → Nat × Nat
  | [] => (0, 0)
  | group :: rest =>
    let here := leadingZeros (group :: rest)
    let (start, length) := longestZeros rest
    if length ≤ here then (0, here) else (start + 1, length)

/-- The bytes in front of an IPv4 address held in an IPv6 one. -/
def mappedLead : List UInt8 := [0, 0, 0, 0, 0, 0, 0, 0, 0, 0, 0xFF, 0xFF]

/-- The text of an address. -/
def render (a : Ipv6) : List Char :=
  if a.octets.take 12 = mappedLead then
    "::ffff:".toList ++ Ipv4.renderOctets (a.octets.drop 12)
  else
    let groups := a.groups
    let (start, length) := longestZeros groups
    if length < 2 then renderGroups groups
    else renderGroups (groups.take start) ++ "::".toList
      ++ renderGroups (groups.drop (start + length))

/-! ## Reading -/

/-- Reads one group: one to four hexadecimal digits. -/
def group? (text : List Char) : Option Nat :=
  if text.length > 4 then none
  else match Numeral.read 16 Numeral.max16 text with
    | .ok n => some n
    | .error _ => none

/-- Reads groups; if `tail`, the last two may be written as an IPv4 address. -/
def groups? (tail : Bool) : List (List Char) → Option (List Nat)
  | [] => some []
  | [last] =>
    match if tail then Ipv4.ofText? last else none with
    | some address => some (groupsOf address.octets)
    | none => (group? last).map ([·])
  | part :: parts => do
    let group ← group? part
    return group :: (← groups? tail parts)

/-- Reads what stands on one side of a double colon: nothing, or groups. -/
def side? (tail : Bool) (text : List Char) : Option (List Nat) :=
  if text.isEmpty then some [] else groups? tail (fields ':' text)

/-- The parts before and after the first double colon. -/
def splitDoubleColon : List Char → Option (List Char × List Char)
  | [] => none
  | ':' :: ':' :: rest => some ([], rest)
  | c :: rest => (splitDoubleColon rest).map fun (before, after) => (c :: before, after)

/-- Reads an address. -/
def ofText? (text : List Char) : Option Ipv6 :=
  match splitDoubleColon text with
  | none => groups? true (fields ':' text) >>= ofGroups?
  | some (before, after) => do
    let head ← side? false before
    let tail ← side? true after
    if head.length + tail.length > 7 then none
    else ofGroups? (head ++ List.replicate (8 - head.length - tail.length) 0 ++ tail)

end Ipv6

end DatagramTunnel
