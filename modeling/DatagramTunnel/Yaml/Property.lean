import DatagramTunnel.Text.Numeral
import DatagramTunnel.Text.Utf8
import DatagramTunnel.Yaml.Cursor
import DatagramTunnel.Yaml.Token

/-!
# Anchors, tags and directives

Each reader starts at the indicator of the token and gives the token and the place behind it.
-/

namespace DatagramTunnel.Yaml

open Text

/-! ## Anchors and aliases -/

/-- Reads the name of an anchor or an alias. -/
def anchorName (c : Cursor) : Option (List Char × Cursor) :=
  let (name, c) := (c.skip 1).takeWhile isWordChar
  if name.isEmpty then none
  else if c.endsWord 0 || c.hasAny 0 ['?', ':', ',', ']', '\x7d', '%', '@', '\x60'] then
    some (name, c)
  else none

/-! ## Tags -/

/-- Whether a character may stand in the suffix of a tag; `verbatim` admits more. -/
def isTagChar (verbatim : Bool) (c : Char) : Bool :=
  isWordChar c
    || [';', '/', '?', ':', '@', '&', '=', '+', '$', '.', '%', '!', '~', '*', '\'', '(',
      ')'].contains c
    || (verbatim && [',', '[', ']'].contains c)

/-- How many bytes follow the first byte of a character, by its leading bits alone. -/
def continuation? (b : UInt8) : Option Nat :=
  if b < 0x80 then some 0
  else if b < 0xC0 then none
  else if b < 0xE0 then some 1
  else if b < 0xF0 then some 2
  else if b < 0xF8 then some 3
  else none

/-- The bytes of a tag as written, while `expected` bytes of a character are still to come. The
bytes of a character have to be escaped together; whether they make a valid one is not looked at. -/
def tagBytes? : Nat → List Char → Option Tag
  | 0, [] => some []
  | expected, '%' :: high :: low :: rest => do
    let high ← Numeral.digitOf 16 high
    let low ← Numeral.digitOf 16 low
    let byte := UInt8.ofNat (high * 16 + low)
    let expected ← match expected with
      | 0 => continuation? byte
      | expected + 1 => if Utf8.isTail byte then some expected else none
    return byte :: (← tagBytes? expected rest)
  | _, '%' :: _ => none
  | 0, char :: rest => do return UInt8.ofNat char.toNat :: (← tagBytes? 0 rest)
  | _ + 1, _ => none

/-- Reads the suffix of a tag, or what a tag directive stands for; also tells whether anything is
written. A zero byte ends it. -/
def tagSuffix (verbatim : Bool) (c : Cursor) : Option (Tag × Bool × Cursor) := do
  let (written, c) := c.takeWhile (isTagChar verbatim)
  let bytes ← tagBytes? 0 written
  return (bytes.takeWhile (· != 0), !written.isEmpty, c)

/-- Reads an exclamation mark, a word, and perhaps a second exclamation mark. -/
def tagHandle (c : Cursor) : Option (List Char × Cursor) :=
  if !c.has 0 '!' then none
  else
    let (word, c) := (c.skip 1).takeWhile isWordChar
    if c.has 0 '!' then some ('!' :: word ++ ['!'], c.skip 1) else some ('!' :: word, c)

/-- The tag that consists of the exclamation mark alone. -/
def loneTag : Tag := Utf8.encode ['!']

/-- Reads a tag. A tag without a second exclamation mark has the handle `!`, and the lone `!` is a
tag of its own. -/
def tagAt (inFlow : Bool) (c : Cursor) : Option (Token × Cursor) := do
  let (token, c) ←
    if c.has 1 '<' then do
      let (suffix, any, c) ← tagSuffix true (c.skip 2)
      if !any || !c.has 0 '>' then none else pure (Token.tag [] suffix, c.skip 1)
    else do
      let (handle, c) ← tagHandle c
      let (suffix, any, c) ← tagSuffix false c
      if handle.length > 1 && handle.getLast? == some '!' then
        if !any then none else pure (Token.tag handle suffix, c)
      else
        let suffix := Utf8.encode (handle.drop 1) ++ suffix
        pure (if suffix.isEmpty then Token.tag [] loneTag else Token.tag ['!'] suffix, c)
  if c.endsWord 0 || (inFlow && c.has 0 ',') then some (token, c) else none

/-! ## Directives -/

/-- Reads one number of a version. -/
def versionNumber (c : Cursor) : Option (Nat × Cursor) :=
  let (digits, c) := c.takeWhile Numeral.isDigit
  match Numeral.read 10 999999999 digits with
  | .ok n => if digits.length > 9 then none else some (n, c)
  | .error _ => none

/-- Reads the version of a version directive. -/
def versionValue (c : Cursor) : Option (Token × Cursor) := do
  let (major, c) ← versionNumber (c.skipWhile isBlank)
  if !c.has 0 '.' then none
  else
    let (minor, c) ← versionNumber (c.skip 1)
    return (.versionDirective major minor, c)

/-- Reads the handle of a tag directive and what it stands for. -/
def tagValue (c : Cursor) : Option (Token × Cursor) := do
  let (handle, c) ← tagHandle (c.skipWhile isBlank)
  if handle != ['!'] && (handle.length < 2 || handle.getLast? != some '!') then none
  else if !c.onBlank then none
  else
    let (lead, any, c) ← tagSuffix true (c.skipWhile isBlank)
    if !any || !c.endsWord 0 then none else return (.tagDirective handle lead, c)

/-- Reads a directive with the rest of its line. -/
def directiveAt (c : Cursor) : Option (Token × Cursor) := do
  let (name, c) := (c.skip 1).takeWhile isWordChar
  if name.isEmpty || !c.endsWord 0 then none
  else
    let (token, c) ←
      if name == "YAML".toList then versionValue c
      else if name == "TAG".toList then tagValue c
      else none
    return (token, ← c.skipLineTail?)

end DatagramTunnel.Yaml
