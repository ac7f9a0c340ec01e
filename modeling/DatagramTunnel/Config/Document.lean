import DatagramTunnel.Config
import DatagramTunnel.Text.Utf8
import DatagramTunnel.Yaml.Resolve

/-!
# Configuration documents

A configuration is written as a YAML mapping from the keys to their values. A key that is left out
keeps its default, and so does every key of an empty document. A policy is given by its name, or by
its name as a local tag of nothing. The document is read from front to back, and the first thing
that is wrong is reported; whether the text is well formed after that is not looked at.
-/

namespace DatagramTunnel.Config

open Yaml

/-- What a document has given so far. -/
structure Draft where
  maxPayloadSize : Option Nat := none
  shortBufferPolicy : Option ShortBufferPolicy := none
  deriving DecidableEq, Repr

namespace Draft

/-- Whether a key has been given. -/
def has (d : Draft) : Key → Bool
  | .maxPayloadSize => d.maxPayloadSize.isSome
  | .shortBufferPolicy => d.shortBufferPolicy.isSome

/-- The configuration, with defaults for the keys that were not given. -/
def complete (d : Draft) : Config :=
  { maxPayloadSize := d.maxPayloadSize.getD ({} : Config).maxPayloadSize
    shortBufferPolicy := d.shortBufferPolicy.getD ({} : Config).shortBufferPolicy }

end Draft

/-! ## Values -/

/-- The value of a key, where it stands. -/
structure Entry where
  /-- The wording for the key. -/
  key : String
  /-- The value as it is written, which may be an alias. -/
  value : Placed Item
  /-- The node that is the value. -/
  node : Placed Node
  deriving DecidableEq, Repr

/-- A finding about the node of an entry. -/
def Entry.wrong (e : Entry) (finding : Finding) : Mismatch := ⟨some e.key, finding, e.node.start⟩

/-- Reads a payload limit. -/
def limitOf (e : Entry) : Except Mismatch Nat :=
  let wrong := e.wrong (e.node.what.misfit "usize")
  match e.node.what with
  | .scalar s => match unsignedScalar? s with
    | some limit => .ok limit
    | none => .error wrong
  | _ => .error wrong

/-- That no policy has a name. -/
def unknownPolicy (name : List Char) : Finding :=
  .unknownVariant name (ShortBufferPolicy.all.map ShortBufferPolicy.name)

/-- That no policy has the name in the tag of a value. The value itself is not blamed: the finding
is made where the alias stands that repeats the value, or else it is about the whole mapping. -/
def unknownTag (mapping : Position) (e : Entry) (name : List Char) : Mismatch :=
  match e.value.what with
  | .alias _ => ⟨some e.key, unknownPolicy name, e.value.start⟩
  | _ => ⟨none, unknownPolicy name, mapping⟩

/-- Reads a policy in a mapping that starts at some place: a scalar that is its name, or nothing
with its name as a local tag. -/
def policyOf (mapping : Position) (e : Entry) : Except Mismatch ShortBufferPolicy :=
  match e.node.what.localName? with
  | some name => match ShortBufferPolicy.ofName? name with
    | none => .error (unknownTag mapping e name)
    | some policy =>
      if e.node.what.isNothing then .ok policy else .error (e.wrong e.node.what.surplus)
  | none => match e.node.what with
    | .scalar s => match ShortBufferPolicy.ofName? s.value with
      | none => .error (e.wrong (unknownPolicy s.value))
      | some policy => .ok policy
    | node => .error (e.wrong (node.misfit "a YAML tag starting with '!'"))

/-- Reads the value of a key in a mapping that starts at some place. -/
def Draft.read (d : Draft) (mapping : Position) (e : Entry) : Key → Except Mismatch Draft
  | .maxPayloadSize => (fun limit => { d with maxPayloadSize := some limit }) <$> limitOf e
  | .shortBufferPolicy =>
    (fun policy => { d with shortBufferPolicy := some policy }) <$> policyOf mapping e

/-! ## Documents -/

/-- Tells which key a node is. -/
def keyOf (node : Placed Node) : Except Mismatch Key :=
  match node.what with
  | .scalar s => match Key.ofName? s.value with
    | some key => .ok key
    | none => .error ⟨none, .unknownField s.value (Key.all.map Key.name), node.start⟩
  | other => .error ⟨none, other.misfit "field identifier", node.start⟩

/-- The wording for a key that is written as an item; an alias is not resolved for it. -/
def labelOf (key : Key) (item : Item) : String :=
  match item with
  | .alias _ => "?"
  | _ => key.name

/-- Reads the rest of a mapping that starts at some place. -/
def readEntries (document : Document) (mapping : Position) (d : Draft) :
    List (Placed Item) → Except Fault Draft
  | [] => .error .malformed
  | ⟨.mappingEnd, _⟩ :: _ => .ok d
  | item :: rest => match document.node? item with
    | none => .error .malformed
    | some name => match keyOf name with
      | .error what => .error (.mismatch what)
      | .ok key =>
        -- A key that stands twice is reported before its second value is looked at.
        if d.has key then .error (.mismatch ⟨none, .duplicateField key.name, mapping⟩)
        else match rest with
          | [] => .error .malformed
          | value :: rest => match document.node? value with
            | none => .error .malformed
            | some node => match d.read mapping ⟨labelOf key item.what, value, node⟩ key with
              | .error what => .error (.mismatch what)
              | .ok d => readEntries document mapping d rest

/-- Reads what the items of a document give. -/
def readItems (document : Document) : Except Fault Draft :=
  match document.items with
  | [] => .ok {}
  | ⟨.node (.mapping _), start⟩ :: rest => readEntries document start {} rest
  | ⟨.node (.scalar { value := [], style := .plain, .. }), _⟩ :: _ => .ok {}
  | ⟨.node node, start⟩ :: _ => .error (.mismatch ⟨none, node.misfit "struct UotConfig", start⟩)
  | _ => .error .malformed

/-- Reads a configuration; its limit may still be too large. -/
def ofDocument (document : Document) : Except Fault Config :=
  match readItems document with
  | .error fault => .error fault
  | .ok d => if document.wellFormed then .ok d.complete else .error .malformed

/-- Reads a configuration that is not refused. -/
def ofYaml (text : List Char) : Except Error Config :=
  match ofDocument (Document.ofText text) with
  | .error fault => .error (.config (.document fault))
  | .ok c => c.validate

/-- Reads a configuration file, given its path and what came of reading its bytes. -/
def ofFile (path : String) (contents : Except Failure (List UInt8)) : Except Error Config :=
  match contents with
  | .error cause => .error (.config (.unreadable path cause))
  | .ok bytes => match Text.Utf8.decode bytes with
    | .error found => .error (.config (.notUtf8 path found))
    | .ok text => ofYaml text

/-! ## What is accepted -/

/-- Only configurations with an allowed limit are read. -/
theorem fault?_of_ofYaml {text : List Char} {c : Config} (h : ofYaml text = .ok c) :
    c.fault? = none := by
  unfold ofYaml at h
  split at h
  · cases h
  · next d _ =>
    unfold validate at h
    split at h
    · cases h
    · next hd =>
      cases h
      exact hd

end DatagramTunnel.Config
