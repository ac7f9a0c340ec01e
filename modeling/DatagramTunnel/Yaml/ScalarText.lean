import DatagramTunnel.Text.Numeral
import DatagramTunnel.Yaml.Cursor

/-!
# The text of a scalar

Each reader starts at the first character of a scalar and gives its value and the place behind it.
Between two lines of a flow scalar, a single break becomes a space and further breaks stay; the
blanks around a break are dropped. In a block scalar the indentation of the first line that is not
empty is taken off every line.

The recursions are bounded by the number of characters left, plus one for the end of the text.
-/

namespace DatagramTunnel.Yaml

open Text

/-! ## Blanks and breaks between words -/

/-- What stands between two words of a flow scalar. -/
structure Gap where
  /-- The blanks, if there is no break. -/
  blanks : List Char := []
  firstBreak : List Char := []
  moreBreaks : List Char := []
  broken : Bool := false

namespace Gap

/-- What a gap contributes to the value. -/
def text (g : Gap) : List Char :=
  if !g.broken then g.blanks
  else if g.firstBreak == ['\n'] then (if g.moreBreaks.isEmpty then [' '] else g.moreBreaks)
  else g.firstBreak ++ g.moreBreaks

/-- Reads the blanks and breaks up to the next word. After a break, a tab before the column `indent`
is refused. -/
def scan (indent : Int) : Nat → Gap → Cursor → Option (Gap × Cursor)
  | 0, _, _ => none
  | fuel + 1, g, c =>
    if c.onBlank then
      if g.broken && (c.column : Int) < indent && c.has 0 '\t' then none
      else
        let blanks := if g.broken then g.blanks else g.blanks ++ c.rest.take 1
        scan indent fuel { g with blanks } (c.skip 1)
    else if c.onBreak then
      let (text, c) := c.takeBreak
      if g.broken then scan indent fuel { g with moreBreaks := g.moreBreaks ++ text } c
      else scan indent fuel { g with blanks := [], firstBreak := text, broken := true } c
    else some (g, c)

end Gap

/-! ## Plain scalars -/

/-- The indicators of flow collections. -/
def flowIndicators : List Char := [',', '[', ']', '\x7b', '\x7d']

/-- Reads a word of a plain scalar: up to a blank, a break, or an indicator that ends the scalar.
The characters read so far are in reverse order. -/
def plainWord (inFlow : Bool) : Nat → List Char → Cursor → Option (List Char × Cursor)
  | 0, _, _ => none
  | fuel + 1, read, c => match c.at? 0 with
    | none => some (read.reverse, c)
    | some char =>
      if isBlank char || isBreak char then some (read.reverse, c)
      else if inFlow && char == ':' && c.hasAny 1 ('?' :: flowIndicators) then none
      else if char == ':' && c.endsWord 1 then some (read.reverse, c)
      else if inFlow && flowIndicators.contains char then some (read.reverse, c)
      else plainWord inFlow fuel (char :: read) (c.skip 1)

/-- Reads on in a plain scalar after the gap `g`. The result also tells whether a break stands
behind the scalar. -/
def plainFrom (inFlow : Bool) (indent : Int) :
    Nat → List Char → Gap → Cursor → Option (List Char × Bool × Cursor)
  | 0, _, _, _ => none
  | fuel + 1, text, g, c =>
    if c.onDocumentMark || c.has 0 '#' then some (text, g.broken, c)
    else do
      let (word, c) ← plainWord inFlow (c.rest.length + 1) [] c
      if word.isEmpty then some (text, g.broken, c)
      else
        let text := text ++ g.text ++ word
        if !(c.onBlank || c.onBreak) then some (text, false, c)
        else
          let (g, c) ← Gap.scan indent (c.rest.length + 1) {} c
          if !inFlow && (c.column : Int) < indent then some (text, g.broken, c)
          else plainFrom inFlow indent fuel text g c

/-- Reads a plain scalar of a node whose parent is indented by `parent`. -/
def plainText (inFlow : Bool) (parent : Int) (c : Cursor) : Option (List Char × Bool × Cursor) :=
  plainFrom inFlow (parent + 1) (c.rest.length + 1) [] {} c

/-! ## Quoted scalars -/

/-- What a single-character escape stands for. -/
def simpleEscape? : Char → Option Char
  | '0' => some '\x00'
  | 'a' => some '\x07'
  | 'b' => some '\x08'
  | 't' | '\t' => some '\t'
  | 'n' => some '\n'
  | 'v' => some '\x0b'
  | 'f' => some '\x0c'
  | 'r' => some '\r'
  | 'e' => some '\x1b'
  | ' ' => some ' '
  | '"' => some '"'
  | '/' => some '/'
  | '\\' => some '\\'
  | 'N' => some '\u0085'
  | '_' => some '\u00a0'
  | 'L' => some '\u2028'
  | 'P' => some '\u2029'
  | _ => none

/-- How many hexadecimal digits follow a numeric escape. -/
def escapeDigits? : Char → Option Nat
  | 'x' => some 2
  | 'u' => some 4
  | 'U' => some 8
  | _ => none

/-- The character of a number, unless it is a surrogate or past the last character. -/
def charOfNumber? (n : Nat) : Option Char :=
  if n.isValidChar then some (Char.ofNat n) else none

/-- Reads the escape that a backslash starts. -/
def escape? (c : Cursor) : Option (Char × Cursor) := do
  let mark ← c.at? 1
  match simpleEscape? mark with
  | some char => return (char, c.skip 2)
  | none =>
    let count ← escapeDigits? mark
    let digits := (c.skip 2).rest.take count
    if digits.length < count then none
    else match Numeral.read 16 0x10FFFF digits with
      | .ok n => return (← charOfNumber? n, c.skip (2 + count))
      | .error _ => none

/-- Reads a word of a quoted scalar: up to a blank, a break, the closing quote, or an escaped break,
which the result tells of. The characters read so far are in reverse order. -/
def quotedWord (single : Bool) : Nat → List Char → Cursor → Option (List Char × Bool × Cursor)
  | 0, _, _ => none
  | fuel + 1, read, c => match c.at? 0 with
    | none => some (read.reverse, false, c)
    | some char =>
      if isBlank char || isBreak char then some (read.reverse, false, c)
      else if single then
        if char == '\'' && c.has 1 '\'' then quotedWord single fuel ('\'' :: read) (c.skip 2)
        else if char == '\'' then some (read.reverse, false, c)
        else quotedWord single fuel (char :: read) (c.skip 1)
      else if char == '"' then some (read.reverse, false, c)
      else if char == '\\' && (c.at? 1).any isBreak then
        some (read.reverse, true, (c.skip 1).skipBreak)
      else if char == '\\' then do
        let (escaped, c) ← escape? c
        quotedWord single fuel (escaped :: read) c
      else quotedWord single fuel (char :: read) (c.skip 1)

/-- Reads on in a quoted scalar. -/
def quotedFrom (single : Bool) : Nat → List Char → Cursor → Option (List Char × Cursor)
  | 0, _, _ => none
  | fuel + 1, text, c =>
    if c.onDocumentMark || c.atEnd then none
    else do
      let (word, escapedBreak, c) ← quotedWord single (c.rest.length + 1) [] c
      let text := text ++ word
      if c.has 0 (if single then '\'' else '"') then some (text, c.skip 1)
      else
        let (g, c) ← Gap.scan 0 (c.rest.length + 1) { broken := escapedBreak } c
        quotedFrom single fuel (text ++ g.text) c

/-- Reads a quoted scalar from its opening quote on. -/
def quotedText (single : Bool) (c : Cursor) : Option (List Char × Cursor) :=
  quotedFrom single (c.rest.length + 1) [] (c.skip 1)

/-! ## Block scalars -/

/-- What becomes of the breaks behind a block scalar. -/
inductive Chomping where
  | strip
  | clip
  | keep
  deriving DecidableEq, Repr

/-- What the header of a block scalar says. -/
structure BlockHeader where
  chomping : Chomping := .clip
  /-- The indentation relative to the parent, if given. -/
  increment : Option Nat := none

/-- The chomping that a character stands for. -/
def chompingOf? : Char → Option Chomping
  | '+' => some .keep
  | '-' => some .strip
  | _ => none

/-- Reads the digit of an indentation, if there is one. Zero is refused. -/
def incrementAt (c : Cursor) : Option (Option Nat × Cursor) :=
  match c.at? 0 with
  | some char =>
    if char == '0' then none
    else if Numeral.isDigit char then some (some (char.toNat - 48), c.skip 1)
    else some (none, c)
  | none => some (none, c)

/-- Reads the header of a block scalar from behind its indicator on. -/
def blockHeader (c : Cursor) : Option (BlockHeader × Cursor) := do
  let (header, c) ← match (c.at? 0).bind chompingOf? with
    | some chomping => do
      let (increment, c) ← incrementAt (c.skip 1)
      pure ({ chomping, increment : BlockHeader }, c)
    | none => do
      let (increment, c) ← incrementAt c
      match increment, (c.at? 0).bind chompingOf? with
      | some n, some chomping => pure ({ chomping, increment := some n : BlockHeader }, c.skip 1)
      | increment, _ => pure ({ increment : BlockHeader }, c)
  return (header, ← c.skipLineTail?)

/-- Reads indentation and empty lines; also the widest indentation seen. While `indent` is zero it
is not known yet. -/
def blockBreaks (indent : Nat) : Nat → Nat → List Char → Cursor → Option (List Char × Nat × Cursor)
  | 0, _, _, _ => none
  | fuel + 1, widest, breaks, c =>
    let spaces := (c.rest.takeWhile (· == ' ')).length
    let c := c.skip (if indent = 0 then spaces else min spaces (indent - c.column))
    let widest := max widest c.column
    if (indent = 0 || c.column < indent) && c.has 0 '\t' then none
    else if c.onBreak then
      let (text, c) := c.takeBreak
      blockBreaks indent fuel widest (breaks ++ text) c
    else some (breaks, widest, c)

/-- The lines of a block scalar read so far. -/
structure BlockLines where
  text : List Char := []
  /-- The break behind the last line. -/
  lastBreak : List Char := []
  /-- The last line starts with a blank. -/
  blankLed : Bool := false

/-- Reads the lines of a block scalar; `breaks` are the breaks in front of the next one. -/
def blockLines (literal : Bool) (indent : Nat) :
    Nat → BlockLines → List Char → Cursor → Option (BlockLines × List Char × Cursor)
  | 0, _, _, _ => none
  | fuel + 1, lines, breaks, c =>
    if c.column != indent || c.atEnd then some (lines, breaks, c)
    else do
      let blankLed := c.onBlank
      let joint :=
        if !literal && lines.lastBreak == ['\n'] && !lines.blankLed && !blankLed then
          if breaks.isEmpty then [' '] else []
        else lines.lastBreak
      let (line, c) := c.takeWhile fun char => !isBreak char
      let (lastBreak, c) := c.takeBreak
      let lines : BlockLines := ⟨lines.text ++ joint ++ breaks ++ line, lastBreak, blankLed⟩
      let (breaks, _, c) ← blockBreaks indent (c.rest.length + 1) 0 [] c
      blockLines literal indent fuel lines breaks c

/-- Reads a block scalar of a node whose parent is indented by `parent`, from behind its indicator
on. -/
def blockText (literal : Bool) (parent : Int) (c : Cursor) : Option (List Char × Cursor) := do
  let (header, c) ← blockHeader c
  let given := match header.increment with
    | some n => (max parent 0).toNat + n
    | none => 0
  let (breaks, widest, c) ← blockBreaks given (c.rest.length + 1) 0 [] c
  -- Without a given indentation the empty lines in front and the parent decide.
  let indent := if given = 0 then max widest (max (parent + 1).toNat 1) else given
  let (lines, breaks, c) ← blockLines literal indent (c.rest.length + 1) {} breaks c
  let tail := match header.chomping with
    | .strip => []
    | .clip => lines.lastBreak
    | .keep => lines.lastBreak ++ breaks
  return (lines.text ++ tail, c)

end DatagramTunnel.Yaml
