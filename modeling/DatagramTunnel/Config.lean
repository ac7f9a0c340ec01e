import DatagramTunnel.Error

/-!
# Configurations

A configuration limits the payloads that are written, and says what happens to a payload that does
not fit the reader's buffer.
-/

namespace DatagramTunnel

/-- What a read does with a payload that does not fit the caller's buffer. -/
inductive ShortBufferPolicy where
  /-- The payload is dropped; the next read gets the next one. -/
  | discard
  /-- The payload is kept for a read with a larger buffer. -/
  | retain
  deriving DecidableEq, Repr

namespace ShortBufferPolicy

/-- The name of a policy. -/
def name : ShortBufferPolicy → String
  | .discard => "discard"
  | .retain => "retain"

/-- Every policy, each once. -/
def all : List ShortBufferPolicy := [.discard, .retain]

/-- The policy of a name. -/
def ofName? (name : List Char) : Option ShortBufferPolicy :=
  all.find? fun policy => policy.name.toList == name

/-- A policy is found by its name. -/
theorem ofName?_name (policy : ShortBufferPolicy) :
    ofName? policy.name.toList = some policy := by
  cases policy <;> rfl

end ShortBufferPolicy

/-- A configuration. -/
structure Config where
  /-- The largest payload that is written. -/
  maxPayloadSize : Nat := DatagramTunnel.maxPayloadSize
  shortBufferPolicy : ShortBufferPolicy := .discard
  deriving DecidableEq, Repr

namespace Config

/-- What is wrong with the configuration, if anything. -/
def fault? (c : Config) : Option ConfigFault :=
  if c.maxPayloadSize > DatagramTunnel.maxPayloadSize then some (.limitTooLarge c.maxPayloadSize)
  else none

/-- The configuration, unless it is refused. -/
def validate (c : Config) : Except Error Config :=
  match c.fault? with
  | some fault => .error (.config fault)
  | none => .ok c

/-- The default configuration is not refused. -/
theorem validate_default : validate {} = .ok {} := rfl

/-! ## Keys -/

/-- A key of a configuration document. -/
inductive Key where
  | maxPayloadSize
  | shortBufferPolicy
  deriving DecidableEq, Repr

namespace Key

/-- The name of a key. -/
def name : Key → String
  | maxPayloadSize => "max_payload_size"
  | shortBufferPolicy => "short_buffer_policy"

/-- Every key, each once, in the order in which a document is written. -/
def all : List Key := [maxPayloadSize, shortBufferPolicy]

/-- The key of a name. -/
def ofName? (name : List Char) : Option Key := all.find? fun key => key.name.toList == name

/-- A key is found by its name. -/
theorem ofName?_name (key : Key) : ofName? key.name.toList = some key := by
  cases key <;> rfl

end Key

/-- The text of the value of a key. -/
def valueText (c : Config) : Key → String
  | .maxPayloadSize => String.ofList (Text.Numeral.decimal c.maxPayloadSize)
  | .shortBufferPolicy => c.shortBufferPolicy.name

/-- The configuration as a YAML document. -/
def toYaml (c : Config) : String :=
  String.join (Key.all.map fun key => key.name ++ ": " ++ c.valueText key ++ "\n")

end Config

end DatagramTunnel
