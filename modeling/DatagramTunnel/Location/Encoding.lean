import DatagramTunnel.BigEndian
import DatagramTunnel.Error
import DatagramTunnel.Location

/-!
# The wire form of a location

```text
| type | host                               | port |
| u8   | 4 / 16 / one length byte and bytes | u16  |
```

`encode` writes this form. `decode` reads it from the front of a byte sequence that is all there is;
`demand` reads it from a stream, where it says after each byte how many more are needed. Neither
asks for a byte past the location, and both look at the host only once the port is there. What is
read comes with the number of bytes that it takes.
-/

namespace DatagramTunnel

/-- The first byte of an encoded location says how the host is written. -/
inductive AddressType where
  | ipv4
  | domainName
  | ipv6
  deriving DecidableEq, Repr

namespace AddressType

/-- The byte that stands for the type. -/
def code : AddressType → UInt8
  | ipv4 => 0x01
  | domainName => 0x03
  | ipv6 => 0x04

/-- The type that a byte stands for. -/
def ofCode? (byte : UInt8) : Option AddressType :=
  if byte = code ipv4 then some ipv4
  else if byte = code domainName then some domainName
  else if byte = code ipv6 then some ipv6
  else none

@[simp] theorem ofCode?_code (type : AddressType) : ofCode? type.code = some type := by
  cases type <;> rfl

end AddressType

namespace Location

/-! ## Writing -/

/-- The type byte, the length byte if there is one, and the host. -/
def encodeAddress : Address → List UInt8
  | .ipv4 address => AddressType.ipv4.code :: address.octets
  | .ipv6 address => AddressType.ipv6.code :: address.octets
  | .hostname name => AddressType.domainName.code :: UInt8.ofNat name.length :: name

/-- The bytes of a location. -/
def encode (l : Location) : List UInt8 :=
  encodeAddress l.address ++ BigEndian.encode l.port.toNat

/-- Writes a location, part by part, behind bytes that are already there. -/
def appendTo (l : Location) (bytes : List UInt8) : List UInt8 :=
  let written := match l.address with
    | .ipv4 address => bytes ++ [AddressType.ipv4.code] ++ address.octets
    | .ipv6 address => bytes ++ [AddressType.ipv6.code] ++ address.octets
    | .hostname name =>
      bytes ++ [AddressType.domainName.code] ++ [UInt8.ofNat name.length] ++ name
  written ++ BigEndian.encode l.port.toNat

/-- Writing behind bytes leaves them and adds the bytes of the location. -/
theorem appendTo_eq (l : Location) (bytes : List UInt8) : l.appendTo bytes = bytes ++ l.encode := by
  simp only [appendTo, encode]
  cases l.address <;> simp [encodeAddress]

/-- How many bytes a location takes. -/
def encodedLength (l : Location) : Nat :=
  match l.address with
  | .ipv4 _ => 1 + 4 + 2
  | .ipv6 _ => 1 + 16 + 2
  | .hostname name => 1 + 1 + name.length + 2

@[simp] theorem length_encode (l : Location) : l.encode.length = l.encodedLength := by
  simp only [encode, encodedLength, List.length_append, BigEndian.length_encode]
  cases l.address with
  | ipv4 a => simp [encodeAddress, a.length_octets]
  | ipv6 a => simp [encodeAddress, a.length_octets]
  | hostname name => simp only [encodeAddress, List.length_cons]; omega

/-! ## Reading -/

/-- The parts of an encoded location. -/
inductive Field where
  | type
  | length
  | host
  | port
  deriving DecidableEq, Repr

/-- What the end of a stream inside a part reports. -/
def Field.cutOff : Field → Failure
  | .host => .earlyEnd
  | _ => .endOfStream

/-- Whether a part is one number. The host is not: it is a run of bytes. -/
def Field.isNumber : Field → Bool
  | .host => false
  | .type | .length | .port => true

/-- Whether a failed read of a part is tried again at once: an interruption does not end the read of
a number. Every other failure ends the read of the location, and so does one inside the host. -/
def Field.triesAgain (field : Field) (cause : Failure) : Bool :=
  field.isNumber && decide (cause.kind = .interrupted)

/-- What the first bytes of an encoded location say about the rest. -/
inductive Header where
  /-- A part in front of the host is still missing. -/
  | incomplete (field : Field)
  /-- There is no such address type. -/
  | unknown (type : UInt8)
  /-- A host of a known length and a port follow, of which `body` is there. -/
  | known (type : AddressType) (hostLength : Nat) (body : List UInt8)

/-- Reads the bytes in front of the host. -/
def header : List UInt8 → Header
  | [] => .incomplete .type
  | byte :: rest => match AddressType.ofCode? byte with
    | none => .unknown byte
    | some .ipv4 => .known .ipv4 4 rest
    | some .ipv6 => .known .ipv6 16 rest
    | some .domainName => match rest with
      | [] => .incomplete .length
      | length :: rest => .known .domainName length.toNat rest

/-- The address of a host of a type. A host that is no IP address stays a hostname, whatever its
bytes look like; an IP address of the wrong length counts as cut off. -/
def hostAddress (type : AddressType) (host : List UInt8) : Except Error Address :=
  match type with
  | .domainName => .ok (.hostname host)
  | .ipv4 => match Ipv4.ofOctets? host with
    | some address => .ok (.ipv4 address)
    | none => .error (.truncatedAddress Field.host.cutOff)
  | .ipv6 => match Ipv6.ofOctets? host with
    | some address => .ok (.ipv6 address)
    | none => .error (.truncatedAddress Field.host.cutOff)

/-- The port in front of a byte sequence. -/
def portOfBytes : List UInt8 → UInt16
  | high :: low :: _ => UInt16.ofNat (BigEndian.decode high low)
  | _ => 0

/-- The location of a complete body, and how many bytes it takes. -/
def ofBody (type : AddressType) (hostLength : Nat) (body : List UInt8) :
    Except Error (Location × Nat) :=
  match hostAddress type (body.take hostLength) with
  | .error e => .error e
  | .ok address => match Location.new address (portOfBytes (body.drop hostLength)) with
    | .error fault => .error (.invalidHostname fault)
    | .ok location => .ok (location, location.encodedLength)

/-- Reads a location from the front of a byte sequence, with how many bytes it takes; also the bytes
that were not read. -/
def decode (bytes : List UInt8) : Except Error (Location × Nat) × List UInt8 :=
  match header bytes with
  | .incomplete field => (.error (.truncatedAddress field.cutOff), [])
  | .unknown type => (.error (.invalidAddressType type), bytes.drop 1)
  | .known type hostLength body =>
    if body.length < hostLength then (.error (.truncatedAddress Field.host.cutOff), [])
    else if body.length < hostLength + 2 then (.error (.truncatedAddress Field.port.cutOff), [])
    else (ofBody type hostLength body, body.drop (hostLength + 2))

/-- What the bytes of a location read so far call for. -/
inductive Demand where
  /-- More bytes of a part. -/
  | more (field : Field) (count : Nat)
  /-- Nothing: the location is complete, and takes so many bytes, or it is refused. -/
  | settled (result : Except Error (Location × Nat))

/-- What the bytes read so far call for. -/
def demand (taken : List UInt8) : Demand :=
  match header taken with
  | .incomplete field => .more field 1
  | .unknown type => .settled (.error (.invalidAddressType type))
  | .known type hostLength body =>
    if body.length < hostLength then .more .host (hostLength - body.length)
    else if body.length < hostLength + 2 then .more .port (hostLength + 2 - body.length)
    else .settled (ofBody type hostLength body)

end Location

end DatagramTunnel
