import DatagramTunnel.Address

/-!
# Locations

A location is an address and a port. Its hostname, if it has one, always fits the length field of
the wire format, which is part of the type. `Location.ofText` reads `host:port`, `[ipv6]:port`,
and, with a default port, a bare host; `Location.render` writes `host:port` or `[ipv6]:port`.
-/

namespace DatagramTunnel

/-- The host and port that datagrams are for. -/
structure Location where
  address : Address
  port : UInt16
  address_fits : address.fits = true
  deriving DecidableEq

namespace Location

open Text

/-- The location of an address and a port. -/
def new (address : Address) (port : UInt16) : Except HostFault Location :=
  match h : address.fault? with
  | some fault => .error fault
  | none => .ok ⟨address, port, (address.fault?_eq_none_iff).1 h⟩

/-- The location of an IPv4 address and a port. -/
def ofIpv4 (address : Ipv4) (port : UInt16) : Location := ⟨.ipv4 address, port, rfl⟩

/-- The location of an IPv6 address and a port. -/
def ofIpv6 (address : Ipv6) (port : UInt16) : Location := ⟨.ipv6 address, port, rfl⟩

/-- The text of a location. -/
def renderChars (l : Location) : List Char :=
  match l.address with
  | .ipv6 address => '[' :: address.render ++ ']' :: ':' :: Numeral.decimal l.port.toNat
  | address => address.render ++ ':' :: Numeral.decimal l.port.toNat

/-- The text of a location, as a string. -/
def render (l : Location) : String := String.ofList l.renderChars

/-! ## Reading -/

/-- What a text gives of a location before its host is read. -/
structure Parts where
  host : List Char
  port : Option UInt16
  /-- The host has to be an IPv6 address. -/
  needsIpv6 : Bool
  deriving DecidableEq

/-- Reads a port that has to be there. -/
def portOfText (text : List Char) : Except HostFault UInt16 :=
  match Numeral.readWord16 text with
  | .ok port => .ok port
  | .error fault => .error (.badPort text fault)

/-- Reads what follows a closing bracket of the text. -/
def afterBracket (text : List Char) (default : Option UInt16) :
    List Char → Except HostFault (Option UInt16)
  | [] => .ok default
  | ':' :: port => some <$> portOfText port
  | _ => .error (.afterBracket text)

/-- Tells the host of a text from its port. Without brackets, the text after the last colon is the
port if it reads as one; otherwise the colon has to be part of an IPv6 address. -/
def Parts.ofText (text : List Char) (default : Option UInt16) : Except HostFault Parts :=
  match text with
  -- The first closing bracket ends the host.
  | '[' :: inner => match splitFirst ']' inner with
    | none => .error (.unclosedBracket text)
    | some (host, tail) =>
      (fun port => ⟨host, port, true⟩) <$> afterBracket text default tail
  | _ => match splitLast ':' text with
    | none => .ok ⟨text, default, false⟩
    | some (host, tail) => match Numeral.readWord16 tail with
      | .ok port => .ok ⟨host, some port, false⟩
      | .error _ => .ok ⟨text, default, true⟩

/-- Puts a location together. -/
def ofParts (text : List Char) (parts : Parts) : Except HostFault Location :=
  match found : Address.ofText parts.host with
  | .error fault => .error fault
  | .ok address =>
    if parts.needsIpv6 && !address.isIpv6 then .error (.notIpv6 text)
    else match parts.port with
      | none => .error (.noPort text)
      -- The length of a hostname has been looked at when it was read.
      | some port => .ok ⟨address, port, Address.fits_of_ofText found⟩

/-- Reads a location; `default` is the port of a text that gives none. -/
def ofChars (text : List Char) (default : Option UInt16) : Except HostFault Location :=
  match Parts.ofText text default with
  | .error fault => .error fault
  | .ok parts => ofParts text parts

/-- Reads a location from a string; `default` is the port of a string that gives none. -/
def ofText (text : String) (default : Option UInt16) : Except HostFault Location :=
  ofChars text.toList default

end Location

end DatagramTunnel
