/-!
# YAML tokens

A token is an indicator, a scalar, a property of a node, a directive, or the start or end of a block
collection, which the text shows by indentation alone.

A tag is kept as bytes, since its escapes can spell bytes that are no text. It ends in front of its
first zero byte.
-/

namespace DatagramTunnel.Yaml

/-- A tag in full, or a part of one. -/
abbrev Tag := List UInt8

/-- How a scalar is written. -/
inductive ScalarStyle where
  | plain
  | singleQuoted
  | doubleQuoted
  | literal
  | folded
  deriving DecidableEq, Repr

/-- A token. -/
inductive Token where
  | streamEnd
  | versionDirective (major minor : Nat)
  /-- A handle and what it stands for. -/
  | tagDirective (handle : List Char) (lead : Tag)
  | documentStart
  | documentEnd
  | blockSequenceStart
  | blockMappingStart
  | blockEnd
  | flowSequenceStart
  | flowSequenceEnd
  | flowMappingStart
  | flowMappingEnd
  | blockEntry
  | flowEntry
  | key
  | value
  | alias (name : List Char)
  | anchor (name : List Char)
  | tag (handle : List Char) (suffix : Tag)
  | scalar (text : List Char) (style : ScalarStyle)
  deriving DecidableEq, Repr

end DatagramTunnel.Yaml
