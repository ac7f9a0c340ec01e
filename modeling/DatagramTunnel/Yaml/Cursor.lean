/-!
# A place in a YAML text

A cursor holds the characters still to be read and where they stand. Line breaks are carriage
return, line feed, the two together, next line, and the line and paragraph separators; the first
four count as a line feed wherever a break is part of a value. The end of the text is neither a
blank nor a break.

A text is looked at in blocks of 16384 bytes, or fewer where the next character does not fit. A
block with a forbidden character is refused as a whole; `readableStart` is what stands in front of
it.
-/

namespace DatagramTunnel.Yaml

/-- Whether a character is a space or a tab. -/
def isBlank (c : Char) : Bool := c == ' ' || c == '\t'

/-- Whether a character begins a line break. -/
def isBreak (c : Char) : Bool :=
  c == '\n' || c == '\r' || c == '\u0085' || c == '\u2028' || c == '\u2029'

/-- Whether a character may stand in the name of an anchor, a tag handle or a directive. -/
def isWordChar (c : Char) : Bool := c.isAlphanum || c == '_' || c == '-'

/-- Whether a text may hold the character at all. -/
def isAllowed (c : Char) : Bool :=
  let n := c.toNat
  n == 0x09 || n == 0x0A || n == 0x0D || (0x20 ≤ n && n ≤ 0x7E) || n == 0x85
    || (0xA0 ≤ n && n ≤ 0xD7FF) || (0xE000 ≤ n && n ≤ 0xFFFD) || 0x10000 ≤ n

/-- The character that a line may start with to tell the byte order. -/
def byteOrderMark : Char := '\uFEFF'

/-! ## Positions -/

/-- A line and a column, both counted from zero. -/
structure Position where
  line : Nat := 0
  column : Nat := 0
  deriving DecidableEq, Repr

/-- The position one column further. -/
def Position.behind (p : Position) : Position := { p with column := p.column + 1 }

/-- Something that a text holds, and where it starts. -/
structure Placed (α : Type) where
  what : α
  start : Position
  deriving DecidableEq, Repr

/-! ## Cursors -/

/-- A place in a text, with the text behind it. -/
structure Cursor where
  /-- The characters still to be read. -/
  rest : List Char
  /-- How many characters have been read. -/
  index : Nat := 0
  line : Nat := 0
  column : Nat := 0
  deriving Repr

namespace Cursor

/-- The character so many places ahead. -/
def at? (c : Cursor) (ahead : Nat) : Option Char := c.rest[ahead]?

/-- Whether a given character stands so many places ahead. -/
def has (c : Cursor) (ahead : Nat) (char : Char) : Bool := c.at? ahead == some char

/-- Whether one of the given characters stands so many places ahead. -/
def hasAny (c : Cursor) (ahead : Nat) (chars : List Char) : Bool :=
  (c.at? ahead).any chars.contains

/-- The line and the column. -/
def position (c : Cursor) : Position := ⟨c.line, c.column⟩

/-- Whether the text ends here. -/
def atEnd (c : Cursor) : Bool := c.rest.isEmpty

/-- Whether a space or a tab stands here. -/
def onBlank (c : Cursor) : Bool := (c.at? 0).any isBlank

/-- Whether a line break stands here. -/
def onBreak (c : Cursor) : Bool := (c.at? 0).any isBreak

/-- Whether a line ends here. -/
def atLineEnd (c : Cursor) : Bool := (c.at? 0).all isBreak

/-- Whether a word ends so many places ahead: at a blank, a break or the end. -/
def endsWord (c : Cursor) (ahead : Nat) : Bool :=
  (c.at? ahead).all fun char => isBlank char || isBreak char

/-- Moves over characters of one line. -/
def skip (c : Cursor) (count : Nat) : Cursor :=
  { c with rest := c.rest.drop count, index := c.index + count, column := c.column + count }

/-- Takes a line break, which here is one or two characters. -/
def takeBreak (c : Cursor) : List Char × Cursor :=
  let after (count : Nat) : Cursor :=
    { c with rest := c.rest.drop count, index := c.index + count, line := c.line + 1, column := 0 }
  match c.rest with
  | '\r' :: '\n' :: _ => (['\n'], after 2)
  | char :: _ =>
    if isBreak char then
      (if char == '\u2028' || char == '\u2029' then [char] else ['\n'], after 1)
    else ([], c)
  | [] => ([], c)

/-- Moves over a line break. -/
def skipBreak (c : Cursor) : Cursor := c.takeBreak.2

/-- Takes the characters of one line that satisfy a test. -/
def takeWhile (test : Char → Bool) (c : Cursor) : List Char × Cursor :=
  let taken := c.rest.takeWhile test
  (taken, c.skip taken.length)

/-- Moves over the characters of one line that satisfy a test. -/
def skipWhile (test : Char → Bool) (c : Cursor) : Cursor := (c.takeWhile test).2

/-- Moves to the end of the line. -/
def skipLine (c : Cursor) : Cursor := c.skipWhile fun char => !isBreak char

/-- Whether a mark of three equal characters fills a word at the start of a line. -/
def onMark (c : Cursor) (char : Char) : Bool :=
  c.column == 0 && c.has 0 char && c.has 1 char && c.has 2 char && c.endsWord 3

/-- Whether a document starts or ends here. -/
def onDocumentMark (c : Cursor) : Bool := c.onMark '-' || c.onMark '.'

/-- Moves over blanks and a comment, which have to fill the rest of the line, and over its break. -/
def skipLineTail? (c : Cursor) : Option Cursor :=
  let c := c.skipWhile isBlank
  let c := if c.has 0 '#' then c.skipLine else c
  if c.atLineEnd then some c.skipBreak else none

end Cursor

/-! ## Blocks -/

/-- How many bytes a block has at most. -/
def blockSize : Nat := 16384

/-- Splits off the characters that fit into so many bytes. -/
def splitBytes : Nat → List Char → List Char × List Char
  | _, [] => ([], [])
  | room, char :: rest =>
    if char.utf8Size ≤ room then
      let (block, rest) := splitBytes (room - char.utf8Size) rest
      (char :: block, rest)
    else ([], char :: rest)

/-- The text in front of the first block with a forbidden character, and whether that is all of it.
There are no more blocks than characters. -/
def readableStart (text : List Char) : List Char × Bool :=
  go text.length text
where
  /-- Looks at one block after the other. -/
  go : Nat → List Char → List Char × Bool
    | 0, _ => ([], true)
    | fuel + 1, text =>
      let (block, rest) := splitBytes blockSize text
      if block.all isAllowed then
        let (more, whole) := go fuel rest
        (block ++ more, whole)
      else ([], false)

end DatagramTunnel.Yaml
