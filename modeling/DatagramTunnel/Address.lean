import DatagramTunnel.Ip.V6
import DatagramTunnel.Text.Utf8

/-!
# Addresses

An address is an IPv4 address, an IPv6 address, or a hostname of arbitrary bytes. `Address.ofText`
reads a text: it first looks once over the text (`Shape.ofText`) to see which kinds are possible,
and then tries those kinds in order.
-/

namespace DatagramTunnel

/-- Why a text or a byte string names no host. The constructors that carry a text carry the one
that was read. -/
inductive HostFault where
  /-- A hostname has no byte. -/
  | empty
  /-- A hostname has more bytes than the one-byte length field can count. -/
  | tooLong (size : Nat)
  /-- A text with a colon is no IPv6 address. -/
  | unparsable (text : List Char)
  /-- An opening bracket has no closing one. -/
  | unclosedBracket (text : List Char)
  /-- The text after a bracket and a colon is no port. -/
  | badPort (text : List Char) (fault : Text.Numeral.Fault)
  /-- Something other than a colon follows a closing bracket. -/
  | afterBracket (text : List Char)
  /-- A host that has to be an IPv6 address is none. -/
  | notIpv6 (text : List Char)
  /-- There is no port and no default. -/
  | noPort (text : List Char)
  deriving DecidableEq, Repr

/-- The most bytes a hostname has. -/
def maxHostnameLength : Nat := 255

/-- The wording of the fault. -/
def HostFault.message : HostFault → String
  | .empty => "empty hostname"
  | .tooLong size => s!"hostname is {size} bytes, max is {maxHostnameLength}"
  | .unparsable text => "failed to parse address: " ++ String.ofList text
  | .unclosedBracket text => "unclosed bracket: " ++ String.ofList text
  | .badPort text fault => "invalid port " ++ String.ofList text ++ ": " ++ fault.message
  | .afterBracket text => "unexpected characters after bracket: " ++ String.ofList text
  | .notIpv6 text => "invalid location: " ++ String.ofList text
  | .noPort text => "no port: " ++ String.ofList text

/-- Where a datagram can go. -/
inductive Address where
  | ipv4 (address : Ipv4)
  | ipv6 (address : Ipv6)
  /-- The bytes of a hostname; they need not be UTF-8. -/
  | hostname (name : List UInt8)
  deriving DecidableEq

namespace Address

open Text

/-- Whether the address is an IPv6 address. -/
def isIpv6 : Address → Bool
  | .ipv6 _ => true
  | _ => false

/-- The bytes of the address. -/
def bytes : Address → List UInt8
  | .ipv4 address => address.octets
  | .ipv6 address => address.octets
  | .hostname name => name

/-- Whether the length field can count a hostname. -/
def fits : Address → Bool
  | .hostname name => 1 ≤ name.length && name.length ≤ maxHostnameLength
  | _ => true

/-- What is wrong with the address as a target, if anything. -/
def fault? : Address → Option HostFault
  | .hostname name =>
    if name.length = 0 then some .empty
    else if name.length > maxHostnameLength then some (.tooLong name.length)
    else none
  | _ => none

/-- An address has no fault exactly if the length field can count it. -/
theorem fault?_eq_none_iff (a : Address) : a.fault? = none ↔ a.fits = true := by
  cases a with
  | ipv4 a => simp [fault?, fits]
  | ipv6 a => simp [fault?, fits]
  | hostname name =>
    simp only [fault?, fits, Bool.and_eq_true, decide_eq_true_eq]
    split
    · simp; omega
    · split
      · simp; omega
      · simp; omega

/-- The address of a hostname that the length field can count. -/
def ofHostname (name : List UInt8) : Except HostFault Address :=
  match (Address.hostname name).fault? with
  | some fault => .error fault
  | none => .ok (.hostname name)

/-- The hostname is one that the length field can count. -/
theorem fits_of_ofHostname {name : List UInt8} {address : Address}
    (found : ofHostname name = .ok address) : address.fits = true := by
  unfold ofHostname at found
  split at found
  · cases found
  · next faultless =>
    cases found
    exact (fault?_eq_none_iff _).1 faultless

/-- The text of an address; ill-formed parts of a hostname show as replacement characters. -/
def render : Address → List Char
  | .ipv4 address => address.render
  | .ipv6 address => address.render
  | .hostname name => Utf8.lossy name

/-! ## Reading -/

/-- Which kinds of address a look over a text leaves possible, and how many points it saw. -/
structure Shape where
  ipv4 : Bool := true
  ipv6 : Bool := true
  hostname : Bool := true
  points : Nat := 0
  deriving DecidableEq, Repr

/-- Looks on over a text. The look ends at the first colon, at the fourth point, and at the first
character that is neither a point nor a hexadecimal digit. -/
def Shape.look (seen : Shape) : List Char → Shape
  | [] => seen
  | c :: rest =>
    if c = ':' then { seen with ipv4 := false, hostname := false }
    else if c = '.' then
      -- With a fourth point only a hostname is left, since an IPv4 address has three.
      let seen := { seen with ipv6 := false, points := seen.points + 1 }
      if seen.points > 3 then seen else look seen rest
    else if Numeral.isDigit c then look seen rest
    else if Numeral.isHexDigit c then look { seen with ipv4 := false } rest
    else { seen with ipv4 := false, ipv6 := false }

/-- Which kinds of address a text can be. -/
def Shape.ofText (text : List Char) : Shape := look {} text

/-- Reads an address. -/
def ofText (text : List Char) : Except HostFault Address :=
  let shape := Shape.ofText text
  match if shape.ipv4 && shape.points == 3 then Ipv4.ofText? text else none with
  | some address => .ok (.ipv4 address)
  | none => match if shape.ipv6 then Ipv6.ofText? text else none with
    | some address => .ok (.ipv6 address)
    | none =>
      if shape.hostname then ofHostname (Utf8.encode text)
      else .error (.unparsable text)

/-- The length field can count every hostname that is read. -/
theorem fits_of_ofText {text : List Char} {address : Address}
    (found : ofText text = .ok address) : address.fits = true := by
  simp only [ofText] at found
  split at found
  · cases found
    rfl
  · split at found
    · cases found
      rfl
    · split at found
      · exact fits_of_ofHostname found
      · cases found

end Address

end DatagramTunnel
