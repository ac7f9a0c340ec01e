import DatagramTunnel.Yaml.TokenSource

/-!
# The events of a YAML text

An event is the start or end of a document or a collection, a scalar, or an alias. An event source
takes tokens from a token source and keeps a stack of what it expects after the node at hand. A
place where a node may be left out yields an empty plain scalar. The next token is looked at before
such a scalar is handed out, so a text that is refused there gives no scalar.
-/

namespace DatagramTunnel.Yaml

/-- A scalar node. -/
structure Scalar where
  value : List Char
  style : ScalarStyle := .plain
  /-- The tag in full, if there is one. -/
  tag : Option Tag := none
  deriving DecidableEq, Repr

/-- An event; the properties of a node are an anchor and a tag. -/
inductive Event where
  | streamEnd
  | documentStart
  | documentEnd
  | alias (name : List Char)
  | scalar (anchor : Option (List Char)) (content : Scalar)
  | sequenceStart (anchor : Option (List Char)) (tag : Option Tag)
  | sequenceEnd
  | mappingStart (anchor : Option (List Char)) (tag : Option Tag)
  | mappingEnd
  deriving DecidableEq, Repr

/-- What an event source expects next. -/
inductive Expectation where
  | firstDocument
  | document
  | documentContent
  | documentEnd
  | blockNode
  | blockSequenceFirst
  | blockSequenceEntry
  | indentlessEntry
  | blockMappingFirst
  | blockMappingKey
  | blockMappingValue
  | flowSequenceFirst
  | flowSequenceEntry
  | flowPairKey
  | flowPairValue
  | flowPairEnd
  | flowMappingFirst
  | flowMappingKey
  | flowMappingValue
  | flowMappingEmptyValue
  | nothing
  deriving DecidableEq, Repr

/-- A source of events. -/
structure EventSource where
  tokens : TokenSource
  expects : Expectation := .firstDocument
  /-- What is expected after the node at hand, innermost first. -/
  pending : List Expectation := []
  /-- Tag handles of the document and what they stand for. -/
  handles : List (List Char × Tag) := []

namespace EventSource

/-- The step from one event to the next; `none` where the text is refused. -/
abbrev Step := Option (Placed Event × EventSource)

/-- The next token, which stays in the source. -/
def peek (s : EventSource) : Option (Placed Token × EventSource) := do
  let (token, tokens) ← s.tokens.peek
  return (token, { s with tokens })

/-- Takes the token that was looked at. -/
def take (s : EventSource) : EventSource := { s with tokens := s.tokens.next }

/-- Takes the token that was looked at, and looks at the next one. -/
def takePeek (s : EventSource) : Option (Placed Token × EventSource) := s.take.peek

/-- Expects something else. -/
def expecting (s : EventSource) (expects : Expectation) : EventSource := { s with expects }

/-- Expects something after the node at hand. -/
def later (s : EventSource) (expects : Expectation) : EventSource :=
  { s with pending := expects :: s.pending }

/-- Expects what comes after the node that is complete. -/
def resume (s : EventSource) : EventSource :=
  match s.pending with
  | [] => { s with expects := .nothing }
  | expects :: pending => { s with expects, pending }

/-- A node that was left out. -/
def emptyScalar (start : Position) (s : EventSource) : Step :=
  some (⟨.scalar none { value := [] }, start⟩, s)

/-! ## Nodes -/

/-- Takes the anchor that a token is, if it is one. -/
def takeAnchor (token : Placed Token) (s : EventSource) :
    Option (Option (List Char) × Placed Token × EventSource) :=
  match token.what with
  | .anchor name => do
    let (token, s) ← s.takePeek
    return (some name, token, s)
  | _ => some (none, token, s)

/-- Takes the tag that a token is, if it is one. -/
def takeTag (token : Placed Token) (s : EventSource) :
    Option (Option (List Char × Tag) × Placed Token × EventSource) :=
  match token.what with
  | .tag handle suffix => do
    let (token, s) ← s.takePeek
    return (some (handle, suffix), token, s)
  | _ => some (none, token, s)

/-- What the handles of every document stand for. -/
def standardHandles : List (List Char × Tag) :=
  [(['!'], loneTag), (['!', '!'], Text.Utf8.encode "tag:yaml.org,2002:".toList)]

/-- A tag in full; its handle has to be known. -/
def fullTag (s : EventSource) : Option (List Char × Tag) → Option (Option Tag)
  | none => some none
  | some ([], suffix) => some (some suffix)
  | some (handle, suffix) => do
    let lead ← (s.handles ++ standardHandles).lookup handle
    return some (lead ++ suffix)

/-- The properties of a node: an anchor and a tag in either order, each at most once. They are
followed by the token behind them. -/
def properties (token : Placed Token) (s : EventSource) :
    Option (Option (List Char) × Option Tag × Token × EventSource) := do
  let (anchor, token, s) ← takeAnchor token s
  let (tag, token, s) ← takeTag token s
  let (anchor, token, s) ← match anchor with
    | some name => pure (some name, token, s)
    | none => if tag.isSome then takeAnchor token s else pure (none, token, s)
  return (anchor, ← s.fullTag tag, token.what, s)

/-- Reads a node, which starts where its properties do. Block collections may start here if `block`,
and a sequence without indentation of its own if `indentless`. -/
def node (block indentless : Bool) (s : EventSource) : Step := do
  let (first, s) ← s.peek
  let start := first.start
  match first.what with
  | .alias name => return (⟨.alias name, start⟩, s.take.resume)
  | _ =>
    let (anchor, tag, token, s) ← s.properties first
    match token with
    | .blockEntry =>
      if indentless then
        return (⟨.sequenceStart anchor tag, start⟩, s.expecting .indentlessEntry)
      else withoutContent start anchor tag s
    | .scalar value style => return (⟨.scalar anchor ⟨value, style, tag⟩, start⟩, s.take.resume)
    | .flowSequenceStart =>
      return (⟨.sequenceStart anchor tag, start⟩, s.expecting .flowSequenceFirst)
    | .flowMappingStart =>
      return (⟨.mappingStart anchor tag, start⟩, s.expecting .flowMappingFirst)
    | .blockSequenceStart =>
      if block then
        return (⟨.sequenceStart anchor tag, start⟩, s.expecting .blockSequenceFirst)
      else withoutContent start anchor tag s
    | .blockMappingStart =>
      if block then
        return (⟨.mappingStart anchor tag, start⟩, s.expecting .blockMappingFirst)
      else withoutContent start anchor tag s
    | _ => withoutContent start anchor tag s
where
  /-- A node that consists of its properties alone; there has to be one. -/
  withoutContent (start : Position) (anchor : Option (List Char)) (tag : Option Tag)
      (s : EventSource) : Step :=
    if anchor.isNone && tag.isNone then none
    else some (⟨.scalar anchor { value := [], tag }, start⟩, s.resume)

/-- Reads a node that may be left out before one of some tokens; the node that is left out stands
at `start`, and `next` is expected after it. -/
def optionalNode (block indentless : Bool) (absent : List Token) (next : Expectation)
    (start : Position) (token : Placed Token) (s : EventSource) : Step :=
  if absent.contains token.what then (s.expecting next).emptyScalar start
  else (s.later next).node block indentless

/-! ## Documents -/

/-- Takes the directives in front of a document: at most one version, which has to be 1.1 or 1.2,
and tag handles that differ. -/
def directives : Nat → Bool → Token → EventSource → Option (Token × EventSource)
  | 0, _, _, _ => none
  | fuel + 1, versioned, token, s => match token with
    | .versionDirective major minor =>
      if versioned || major != 1 || (minor != 1 && minor != 2) then none
      else do
        let (token, s) ← s.takePeek
        directives fuel true token.what s
    | .tagDirective handle lead =>
      if (s.handles.lookup handle).isSome then none
      else do
        let known : EventSource := { s with handles := s.handles ++ [(handle, lead)] }
        let (token, s) ← known.takePeek
        directives fuel versioned token.what s
    | token => some (token, s)

/-- A bound on the tokens that are left. -/
def tokensLeft (s : EventSource) : Nat := s.tokens.cursor.rest.length + s.tokens.queue.length + 1

/-- Reads the start of a document with its directives. -/
def explicitDocument (token : Placed Token) (s : EventSource) : Step := do
  let (mark, s) ← directives s.tokensLeft false token.what s
  match mark with
  | .documentStart =>
    return (⟨.documentStart, token.start⟩, (s.later .documentEnd).take.expecting .documentContent)
  | _ => none

/-- Takes marks of document ends. -/
def skipDocumentEnds : Nat → Placed Token → EventSource → Option (Placed Token × EventSource)
  | 0, _, _ => none
  | fuel + 1, token, s => match token.what with
    | .documentEnd => do
      let (token, s) ← s.takePeek
      skipDocumentEnds fuel token s
    | _ => some (token, s)

/-- Reads the start of a document. Only the first one may do without its mark. -/
def documentStart (first : Bool) (s : EventSource) : Step := do
  let (token, s) ← s.peek
  let (token, s) ← if first then pure (token, s) else skipDocumentEnds s.tokensLeft token s
  match token.what with
  | .streamEnd => return (⟨.streamEnd, token.start⟩, s.take.expecting .nothing)
  | .versionDirective _ _ | .tagDirective _ _ | .documentStart => explicitDocument token s
  | _ =>
    if first then
      return (⟨.documentStart, token.start⟩, (s.later .documentEnd).expecting .blockNode)
    else none

/-- Reads the content of a document that was started by its mark. -/
def documentContent (s : EventSource) : Step := do
  let (token, s) ← s.peek
  match token.what with
  | .versionDirective _ _ | .tagDirective _ _ | .documentStart | .documentEnd | .streamEnd =>
    s.resume.emptyScalar token.start
  | _ => s.node true false

/-- Reads the end of a document. -/
def documentEnd (s : EventSource) : Step := do
  let (token, s) ← s.peek
  let s := if token.what == .documentEnd then s.take else s
  return (⟨.documentEnd, token.start⟩, { s.expecting .document with handles := [] })

/-! ## Collections -/

/-- Reads an entry of a block sequence, or its end. -/
def blockSequenceEntry (s : EventSource) : Step := do
  let (token, s) ← s.peek
  match token.what with
  | .blockEntry =>
    let (entry, s) ← s.takePeek
    s.optionalNode true false [.blockEntry, .blockEnd] .blockSequenceEntry token.start.behind entry
  | .blockEnd => return (⟨.sequenceEnd, token.start⟩, s.resume.take)
  | _ => none

/-- Reads an entry of a sequence without indentation of its own, or its end. -/
def indentlessEntry (s : EventSource) : Step := do
  let (token, s) ← s.peek
  match token.what with
  | .blockEntry =>
    let (entry, s) ← s.takePeek
    s.optionalNode true false [.blockEntry, .key, .value, .blockEnd] .indentlessEntry
      token.start.behind entry
  | _ => return (⟨.sequenceEnd, token.start⟩, s.resume)

/-- Reads a key of a block mapping, or its end. -/
def blockMappingKey (s : EventSource) : Step := do
  let (token, s) ← s.peek
  match token.what with
  | .key =>
    let (key, s) ← s.takePeek
    s.optionalNode true true [.key, .value, .blockEnd] .blockMappingValue token.start.behind key
  | .blockEnd => return (⟨.mappingEnd, token.start⟩, s.resume.take)
  | _ => none

/-- Reads a value of a block mapping. -/
def blockMappingValue (s : EventSource) : Step := do
  let (token, s) ← s.peek
  match token.what with
  | .value =>
    let (value, s) ← s.takePeek
    s.optionalNode true true [.key, .value, .blockEnd] .blockMappingKey token.start.behind value
  | _ => (s.expecting .blockMappingKey).emptyScalar token.start

/-- Takes the comma that every entry of a flow collection but the first has in front of it. -/
def flowSeparator (first : Bool) (token : Placed Token) (s : EventSource) :
    Option (Placed Token × EventSource) :=
  if first then some (token, s)
  else if token.what == .flowEntry then s.takePeek
  else none

/-- Reads an entry of a flow sequence, or its end. -/
def flowSequenceEntry (first : Bool) (s : EventSource) : Step := do
  let (token, s) ← s.peek
  if token.what == .flowSequenceEnd then return (⟨.sequenceEnd, token.start⟩, s.resume.take)
  else
    let (token, s) ← flowSeparator first token s
    match token.what with
    | .key => return (⟨.mappingStart none none, token.start⟩, s.take.expecting .flowPairKey)
    | .flowSequenceEnd => return (⟨.sequenceEnd, token.start⟩, s.resume.take)
    | _ => (s.later .flowSequenceEntry).node false false

/-- Reads the key of a pair that stands in a flow sequence. -/
def flowPairKey (s : EventSource) : Step := do
  let (token, s) ← s.peek
  if [Token.value, .flowEntry, .flowSequenceEnd].contains token.what then
    -- The token is used up by the key that was left out.
    (s.take.expecting .flowPairValue).emptyScalar token.start.behind
  else (s.later .flowPairValue).node false false

/-- Reads the value of a pair that stands in a flow sequence. -/
def flowPairValue (s : EventSource) : Step := do
  let (token, s) ← s.peek
  if token.what == .value then
    let (value, s) ← s.takePeek
    s.optionalNode false false [.flowEntry, .flowSequenceEnd] .flowPairEnd value.start value
  else (s.expecting .flowPairEnd).emptyScalar token.start

/-- Reads the end of a pair that stands in a flow sequence. -/
def flowPairEnd (s : EventSource) : Step := do
  let (token, s) ← s.peek
  return (⟨.mappingEnd, token.start⟩, s.expecting .flowSequenceEntry)

/-- Reads a key of a flow mapping, or its end. -/
def flowMappingKey (first : Bool) (s : EventSource) : Step := do
  let (token, s) ← s.peek
  if token.what == .flowMappingEnd then return (⟨.mappingEnd, token.start⟩, s.resume.take)
  else
    let (token, s) ← flowSeparator first token s
    match token.what with
    | .key =>
      let (key, s) ← s.takePeek
      s.optionalNode false false [.value, .flowEntry, .flowMappingEnd] .flowMappingValue
        key.start key
    | .flowMappingEnd => return (⟨.mappingEnd, token.start⟩, s.resume.take)
    | _ => (s.later .flowMappingEmptyValue).node false false

/-- Reads a value of a flow mapping. -/
def flowMappingValue (s : EventSource) : Step := do
  let (token, s) ← s.peek
  if token.what == .value then
    let (value, s) ← s.takePeek
    s.optionalNode false false [.flowEntry, .flowMappingEnd] .flowMappingKey value.start value
  else (s.expecting .flowMappingKey).emptyScalar token.start

/-- The value of a key of a flow mapping that stands there alone. -/
def flowMappingEmptyValue (s : EventSource) : Step := do
  let (token, s) ← s.peek
  (s.expecting .flowMappingKey).emptyScalar token.start

/-- Takes the start of a collection, which was looked at. -/
def enter (s : EventSource) : Option EventSource := do
  let (_, s) ← s.peek
  return s.take

/-! ## Steps -/

/-- Reads the next event. -/
def next (s : EventSource) : Step :=
  match s.expects with
  | .firstDocument => s.documentStart true
  | .document => s.documentStart false
  | .documentContent => s.documentContent
  | .documentEnd => s.documentEnd
  | .blockNode => s.node true false
  | .blockSequenceFirst => do (← s.enter).blockSequenceEntry
  | .blockSequenceEntry => s.blockSequenceEntry
  | .indentlessEntry => s.indentlessEntry
  | .blockMappingFirst => do (← s.enter).blockMappingKey
  | .blockMappingKey => s.blockMappingKey
  | .blockMappingValue => s.blockMappingValue
  | .flowSequenceFirst => do (← s.enter).flowSequenceEntry true
  | .flowSequenceEntry => s.flowSequenceEntry false
  | .flowPairKey => s.flowPairKey
  | .flowPairValue => s.flowPairValue
  | .flowPairEnd => s.flowPairEnd
  | .flowMappingFirst => do (← s.enter).flowMappingKey true
  | .flowMappingKey => s.flowMappingKey false
  | .flowMappingValue => s.flowMappingValue
  | .flowMappingEmptyValue => s.flowMappingEmptyValue
  | .nothing => none

end EventSource

end DatagramTunnel.Yaml
