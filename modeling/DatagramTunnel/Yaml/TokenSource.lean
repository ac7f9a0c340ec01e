import DatagramTunnel.Yaml.Property
import DatagramTunnel.Yaml.ScalarText

/-!
# The tokens of a YAML text

A token source reads tokens on demand. Two kinds of tokens are not written in the text. Indentation
that grows starts a block collection, and indentation that shrinks ends one. And a node is known to
be a key only when the colon behind it comes up: then a key token goes in front of its first token.
Such a simple key has to end on its line and within 1024 characters; a node that starts a line of a
block mapping has to be one. So tokens stay in a queue as long as the first of them may still turn
out to start a key.
-/

namespace DatagramTunnel.Yaml

/-- A place where a simple key may have started. -/
structure SimpleKey where
  /-- The number of its first token. -/
  token : Nat
  index : Nat
  start : Position
  /-- The text is refused if this is no key. -/
  required : Bool
  deriving DecidableEq, Repr

/-- How many characters a simple key has at most. -/
def maxKeyLength : Nat := 1024

/-- A source of tokens. -/
structure TokenSource where
  cursor : Cursor
  /-- The text ends where the characters of the cursor do; otherwise it is refused there. -/
  whole : Bool := true
  /-- Tokens that were read but not handed out. -/
  queue : List (Placed Token) := []
  /-- How many tokens were handed out. -/
  passed : Nat := 0
  /-- The column of the innermost block collection. -/
  indent : Int := -1
  /-- The columns of the block collections around it, innermost first. -/
  outer : List Int := []
  /-- A simple key may start here. -/
  keyAllowed : Bool := true
  /-- The candidate for a simple key outside flow collections or in the innermost one. -/
  candidate : Option SimpleKey := none
  /-- The candidates around it, one for each open flow collection, innermost first. -/
  candidates : List (Option SimpleKey) := []

namespace TokenSource

/-- Whether a flow collection is open. -/
def inFlow (s : TokenSource) : Bool := !s.candidates.isEmpty

/-- Adds a token that starts at the cursor. -/
def push (s : TokenSource) (token : Token) : TokenSource :=
  { s with queue := s.queue ++ [⟨token, s.cursor.position⟩] }

/-- Puts a token in front of the one with the given number. -/
def insertAt (s : TokenSource) (number : Nat) (token : Placed Token) : TokenSource :=
  { s with queue := s.queue.insertIdx (number - s.passed) token }

/-- Adds a token that is written with so many characters. -/
def pushIndicator (s : TokenSource) (token : Token) (size : Nat) : TokenSource :=
  { s.push token with cursor := s.cursor.skip size }

/-! ## Simple keys -/

/-- Gives up the candidate, which must not be required. -/
def dropCandidate (s : TokenSource) : Option TokenSource :=
  if s.candidate.any (·.required) then none else some { s with candidate := none }

/-- Notes that a simple key may start here. -/
def saveCandidate (s : TokenSource) : Option TokenSource :=
  if !s.keyAllowed then some s
  else do
    let c := s.cursor
    let key : SimpleKey := {
      token := s.passed + s.queue.length
      index := c.index
      start := c.position
      required := !s.inFlow && s.indent == (c.column : Int) }
    return { ← s.dropCandidate with candidate := some key }

/-- Whether a candidate can no longer be a key at the cursor. -/
def isStale (c : Cursor) (key : SimpleKey) : Bool :=
  key.start.line < c.line || key.index + maxKeyLength < c.index

/-- A candidate, unless it has become stale; a stale one must not be required. -/
def freshen (c : Cursor) : Option SimpleKey → Option (Option SimpleKey)
  | some key =>
    if !isStale c key then some (some key)
    else if key.required then none
    else some none
  | none => some none

/-- Gives up all stale candidates. -/
def dropStale (s : TokenSource) : Option TokenSource := do
  return { s with
    candidate := ← freshen s.cursor s.candidate
    candidates := ← s.candidates.mapM (freshen s.cursor) }

/-! ## Indentation -/

/-- Makes a column that of the innermost block collection, unless it is no deeper than the innermost
one already; `start` adds the token that starts the collection. -/
def roll (s : TokenSource) (column : Nat) (start : TokenSource → TokenSource) : TokenSource :=
  if s.inFlow || (column : Int) ≤ s.indent then s
  else start { s with outer := s.indent :: s.outer, indent := column }

/-- Starts a block collection at the cursor, unless it is no deeper than the innermost one. -/
def rollHere (s : TokenSource) (start : Token) : TokenSource :=
  s.roll s.cursor.column (·.push start)

/-- Ends the block collections that are deeper than a column. -/
def unroll (column : Int) (s : TokenSource) : TokenSource :=
  if s.inFlow then s else go s.outer s
where
  /-- Ends collections as long as there are outer ones. -/
  go : List Int → TokenSource → TokenSource
    | [], s => s
    | around :: outer, s =>
      if s.indent > column then go outer { s.push .blockEnd with indent := around, outer } else s

/-! ## Single tokens -/

/-- Moves over blanks, comments and breaks. Tabs count as blanks in flow collections and where no
simple key may start. A line may start with a byte order mark, which takes up a column. -/
def skipBlanks : Nat → TokenSource → TokenSource
  | 0, s => s
  | fuel + 1, s =>
    let tabs := s.inFlow || !s.keyAllowed
    let c := s.cursor
    let c := if c.column = 0 && c.has 0 byteOrderMark then c.skip 1 else c
    let c := c.skipWhile fun char => char == ' ' || (tabs && char == '\t')
    let c := if c.has 0 '#' then c.skipLine else c
    if c.onBreak then
      skipBlanks fuel { s with cursor := c.skipBreak, keyAllowed := s.keyAllowed || !s.inFlow }
    else { s with cursor := c }

/-- Reads the end of the text. -/
def readEnd (s : TokenSource) : Option TokenSource := do
  let c := s.cursor
  -- The text ends as if its last line had a break.
  let c := if c.column = 0 then c else { c with column := 0, line := c.line + 1 }
  let s ← (unroll (-1) { s with cursor := c }).dropCandidate
  return { s.push .streamEnd with keyAllowed := false }

/-- Reads a directive. -/
def readDirective (s : TokenSource) : Option TokenSource := do
  let s ← (unroll (-1) s).dropCandidate
  let (token, cursor) ← directiveAt s.cursor
  return { s.push token with cursor, keyAllowed := false }

/-- Reads a mark between documents. -/
def readDocumentMark (token : Token) (s : TokenSource) : Option TokenSource := do
  let s ← (unroll (-1) s).dropCandidate
  return { s.pushIndicator token 3 with keyAllowed := false }

/-- Reads the start of a flow collection. -/
def readFlowStart (token : Token) (s : TokenSource) : Option TokenSource := do
  let s ← s.saveCandidate
  return { s.pushIndicator token 1 with
    candidates := s.candidate :: s.candidates, candidate := none, keyAllowed := true }

/-- Reads the end of a flow collection. -/
def readFlowEnd (token : Token) (s : TokenSource) : Option TokenSource := do
  let s ← s.dropCandidate
  let s := match s.candidates with
    | [] => s
    | candidate :: candidates => { s with candidate, candidates }
  return { s.pushIndicator token 1 with keyAllowed := false }

/-- Reads a comma of a flow collection. -/
def readFlowEntry (s : TokenSource) : Option TokenSource := do
  let s ← s.dropCandidate
  return { s.pushIndicator .flowEntry 1 with keyAllowed := true }

/-- Reads the dash of a block sequence. -/
def readBlockEntry (s : TokenSource) : Option TokenSource := do
  if !s.inFlow && !s.keyAllowed then none
  else
    let s ← (s.rollHere .blockSequenceStart).dropCandidate
    return { s.pushIndicator .blockEntry 1 with keyAllowed := true }

/-- Reads the question mark in front of a key. -/
def readKey (s : TokenSource) : Option TokenSource := do
  if !s.inFlow && !s.keyAllowed then none
  else
    let s ← (s.rollHere .blockMappingStart).dropCandidate
    return { s.pushIndicator .key 1 with keyAllowed := !s.inFlow }

/-- Reads the colon in front of a value; it may show that a simple key came before. -/
def readValue (s : TokenSource) : Option TokenSource :=
  match s.candidate with
  | some key =>
    -- The key token, and in front of it the start of a mapping, go where the key began.
    let s := s.insertAt key.token ⟨.key, key.start⟩
    let s := s.roll key.start.column (·.insertAt key.token ⟨.blockMappingStart, key.start⟩)
    some { s.pushIndicator .value 1 with candidate := none, keyAllowed := false }
  | none =>
    if !s.inFlow && !s.keyAllowed then none
    else
      let s := s.rollHere .blockMappingStart
      some { s.pushIndicator .value 1 with keyAllowed := !s.inFlow }

/-- Reads an anchor or an alias. -/
def readAnchor (token : List Char → Token) (s : TokenSource) : Option TokenSource := do
  let s ← s.saveCandidate
  let (name, cursor) ← anchorName s.cursor
  return { s.push (token name) with cursor, keyAllowed := false }

/-- Reads a tag. -/
def readTag (s : TokenSource) : Option TokenSource := do
  let s ← s.saveCandidate
  let (token, cursor) ← tagAt s.inFlow s.cursor
  return { s.push token with cursor, keyAllowed := false }

/-- Reads a block scalar. -/
def readBlockScalar (style : ScalarStyle) (s : TokenSource) : Option TokenSource := do
  let s ← s.dropCandidate
  let (text, cursor) ← blockText (style == .literal) s.indent (s.cursor.skip 1)
  return { s.push (.scalar text style) with cursor, keyAllowed := true }

/-- Reads a quoted scalar. -/
def readQuoted (style : ScalarStyle) (s : TokenSource) : Option TokenSource := do
  let s ← s.saveCandidate
  let (text, cursor) ← quotedText (style == .singleQuoted) s.cursor
  return { s.push (.scalar text style) with cursor, keyAllowed := false }

/-- Reads a plain scalar. A simple key may start behind it if a break follows. -/
def readPlain (s : TokenSource) : Option TokenSource := do
  let s ← s.saveCandidate
  let (text, broken, cursor) ← plainText s.inFlow s.indent s.cursor
  return { s.push (.scalar text .plain) with cursor, keyAllowed := broken }

/-- Whether a plain scalar may start here. -/
def startsPlain (s : TokenSource) : Bool :=
  let c := s.cursor
  !c.endsWord 0 && (
    !c.hasAny 0 ['-', '?', ':', ',', '[', ']', '\x7b', '\x7d', '#', '&', '*', '!', '|', '>', '\'',
      '"', '%', '@', '\x60']
    || (c.has 0 '-' && !(c.at? 1).any isBlank)
    || (!s.inFlow && c.hasAny 0 ['?', ':'] && !c.endsWord 1))

/-- Reads the token that starts here. -/
def readHere (s : TokenSource) : Option TokenSource :=
  let c := s.cursor
  match c.at? 0 with
  | none => s.readEnd
  | some char =>
    if c.column = 0 && char == '%' then s.readDirective
    else if c.onMark '-' then s.readDocumentMark .documentStart
    else if c.onMark '.' then s.readDocumentMark .documentEnd
    else if char == '[' then s.readFlowStart .flowSequenceStart
    else if char == '\x7b' then s.readFlowStart .flowMappingStart
    else if char == ']' then s.readFlowEnd .flowSequenceEnd
    else if char == '\x7d' then s.readFlowEnd .flowMappingEnd
    else if char == ',' then s.readFlowEntry
    else if char == '-' && c.endsWord 1 then s.readBlockEntry
    else if char == '?' && (s.inFlow || c.endsWord 1) then s.readKey
    else if char == ':' && (s.inFlow || c.endsWord 1) then s.readValue
    else if char == '*' then s.readAnchor .alias
    else if char == '&' then s.readAnchor .anchor
    else if char == '!' then s.readTag
    else if char == '|' && !s.inFlow then s.readBlockScalar .literal
    else if char == '>' && !s.inFlow then s.readBlockScalar .folded
    else if char == '\'' then s.readQuoted .singleQuoted
    else if char == '"' then s.readQuoted .doubleQuoted
    else if s.startsPlain then s.readPlain
    else none

/-- How many characters are looked at to tell what kind of token comes next. -/
def lookahead : Nat := 4

/-- Reads the next token, with the ends of block collections in front of it. -/
def readNext (s : TokenSource) : Option TokenSource := do
  let s ← (skipBlanks (s.cursor.rest.length + 1) s).dropStale
  if !s.whole && s.cursor.rest.length < lookahead then none
  else
    let s ← (unroll s.cursor.column s).readHere
    if !s.whole && s.cursor.atEnd then none else some s

/-! ## Handing out tokens -/

/-- Whether the first token of the queue may still turn out to start a simple key. -/
def undecided (s : TokenSource) : Bool :=
  (s.candidate :: s.candidates).any fun candidate =>
    candidate.any fun key => key.token == s.passed

/-- Reads tokens until the first one of the queue is decided. -/
def settle : Nat → TokenSource → Option TokenSource
  | 0, _ => none
  | fuel + 1, s =>
    if s.queue.isEmpty then do settle fuel (← s.readNext)
    else do
      let s ← s.dropStale
      if s.undecided then settle fuel (← s.readNext) else some s

/-- The next token, which stays in the source. -/
def peek (s : TokenSource) : Option (Placed Token × TokenSource) := do
  let s ← settle (2 * s.cursor.rest.length + 4) s
  return (← s.queue.head?, s)

/-- Hands out the token that was looked at. -/
def next (s : TokenSource) : TokenSource :=
  { s with queue := s.queue.drop 1, passed := s.passed + 1 }

/-- The tokens of a text. -/
def ofText (text : List Char) : TokenSource :=
  let (rest, whole) := readableStart text
  { cursor := { rest }, whole }

end TokenSource

end DatagramTunnel.Yaml
