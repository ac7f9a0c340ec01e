import DatagramTunnel.Address
import DatagramTunnel.Failure
import DatagramTunnel.Yaml.Mismatch

/-!
# Errors

Every operation of the library that can go wrong reports an `Error`. `Error.message` is its wording.
`Error.failure` is the same error as an I/O failure, for callers that know only those: an error that
already is an I/O failure stays what it is, and any other keeps its wording.
-/

namespace DatagramTunnel

/-- The largest payload of a record. -/
def maxPayloadSize : Nat := 65533

/-- What is wrong with a configuration. -/
inductive ConfigFault where
  /-- The payload limit is past the largest payload. -/
  | limitTooLarge (limit : Nat)
  /-- The file cannot be read. -/
  | unreadable (path : String) (cause : Failure)
  /-- The file is not UTF-8. -/
  | notUtf8 (path : String) (found : Text.Utf8.Invalid)
  /-- The text is no YAML document of the right shape. -/
  | document (fault : Yaml.Fault)
  deriving DecidableEq, Repr

/-- The wording of the fault. -/
def ConfigFault.message : ConfigFault → String
  | .limitTooLarge limit => s!"max_payload_size {limit} exceeds {maxPayloadSize}"
  | .unreadable path cause => s!"could not read config file {path}: {cause.text}"
  | .notUtf8 path found => s!"could not parse config file {path} as UTF8: {found.message}"
  | .document .malformed => "could not parse config YAML"
  | .document (.mismatch what) => s!"could not parse config YAML: {what.message}"

/-- How the framing of one direction of a stream was lost. -/
inductive LostFraming where
  /-- A read failed inside a record. -/
  | reading
  /-- A write failed inside a record. -/
  | writing
  deriving DecidableEq, Repr

/-- The wording of the loss. -/
def LostFraming.message : LostFraming → String
  | .reading => "packet framing was lost by an earlier read failure"
  | .writing => "a partially written packet left the stream unusable"

/-- What can go wrong. -/
inductive Error where
  /-- An encoded address starts with a byte that is no address type. -/
  | invalidAddressType (type : UInt8)
  /-- An encoded address ends early. -/
  | truncatedAddress (source : Failure)
  /-- A text or a byte string names no host. -/
  | invalidHostname (fault : HostFault)
  /-- A record ends early. -/
  | truncatedPacket (expected received : Nat) (source : Failure)
  /-- A payload does not fit the caller's buffer. -/
  | shortBuffer (needed available : Nat)
  /-- A payload is longer than the configuration allows. -/
  | packetTooLarge (size limit : Nat)
  /-- The target given as text names no location. -/
  | invalidHandshakeInput (target : String) (fault : HostFault)
  /-- One direction of the stream has lost its framing. -/
  | protocolState (lost : LostFraming)
  /-- The stream is closed. -/
  | closed
  /-- The configuration is refused. -/
  | config (fault : ConfigFault)
  /-- The transport or the socket failed. -/
  | io (cause : Failure)
  deriving DecidableEq

namespace Error

/-- The wording of the error. -/
def message : Error → String
  | invalidAddressType type =>
    "invalid address type: 0x" ++ String.ofList (Text.Numeral.paddedHex 2 type.toNat)
  | truncatedAddress _ => "truncated address"
  | invalidHostname fault => "invalid hostname: " ++ fault.message
  | truncatedPacket expected received _ =>
    s!"truncated packet: expected {expected} bytes, received {received}"
  | shortBuffer needed available =>
    s!"buffer too small: packet is {needed} bytes, buffer holds {available}"
  | packetTooLarge size limit => s!"packet too large: {size} bytes exceeds limit of {limit}"
  | invalidHandshakeInput target fault =>
    "invalid handshake input: " ++ target ++ ": invalid hostname: " ++ fault.message
  | protocolState lost => "protocol state error: " ++ lost.message
  | closed => "stream is closed"
  | config fault => "invalid config: " ++ fault.message
  | io cause => "IO error: " ++ cause.text

/-- The kind of I/O failure that stands for the error. -/
def failureKind : Error → FailureKind
  | io cause => cause.kind
  | truncatedAddress _ | truncatedPacket .. => .unexpectedEof
  | invalidAddressType _ | invalidHostname _ => .invalidData
  | shortBuffer .. | packetTooLarge .. | invalidHandshakeInput .. | config _ => .invalidInput
  | protocolState _ => .brokenPipe
  | closed => .notConnected

/-- The error as an I/O failure. -/
def failure : Error → Failure
  | io cause => cause
  | e => ⟨e.failureKind, e.message⟩

@[simp] theorem failure_io (cause : Failure) : (io cause).failure = cause := rfl

/-- The kind survives the conversion. -/
@[simp] theorem kind_failure (e : Error) : e.failure.kind = e.failureKind := by
  cases e <;> rfl

/-- The lower-level failure that the error reports as its source. -/
def source? : Error → Option Failure
  | truncatedAddress source => some source
  | truncatedPacket _ _ source => some source
  | _ => none

end Error

end DatagramTunnel
