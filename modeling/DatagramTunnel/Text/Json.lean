import DatagramTunnel.Text.Cut
import DatagramTunnel.Text.Numeral

/-!
# JSON strings

`quote` writes a text as the JSON string that escapes no more than it has to. `leadingString?` reads
the string that a JSON document starts with, and says whether the document ends there. Main
statement: `leadingString?_quote`, every text comes back from its string.

`placed` is the wording of a fault for which a reader of documents gives a message of its own.
-/

namespace DatagramTunnel.Text.Json

/-! ## Writing -/

/-- A control character of a string, by its number. -/
def quoteControl (n : Nat) : List Char :=
  ['\\', 'u', '0', '0', Numeral.digitChar (n / 16), Numeral.digitChar (n % 16)]

/-- A character of a string. -/
def quoteChar (c : Char) : List Char :=
  match c with
  | '\x08' => ['\\', 'b']
  | '\t' => ['\\', 't']
  | '\n' => ['\\', 'n']
  | '\x0c' => ['\\', 'f']
  | '\r' => ['\\', 'r']
  | '\\' => ['\\', '\\']
  | '"' => ['\\', '"']
  | c => if c.toNat < 0x20 then quoteControl c.toNat else [c]

/-- A text as a string. -/
def quote (text : List Char) : List Char := '"' :: text.flatMap quoteChar ++ ['"']

/-! ## Reading -/

/-- What a backslash and one character stand for. -/
def escaped? : Char → Option Char
  | '"' => some '"'
  | '\\' => some '\\'
  | '/' => some '/'
  | 'b' => some '\x08'
  | 'f' => some '\x0c'
  | 'n' => some '\n'
  | 'r' => some '\r'
  | 't' => some '\t'
  | _ => none

/-- The number that four hexadecimal digits stand for. -/
def fourDigits? (a b c d : Char) : Option Nat :=
  match Numeral.read 16 0xFFFF [a, b, c, d] with
  | .ok n => some n
  | .error _ => none

/-- Whether a number is the first half of a character past `U+FFFF`. -/
def isFirstHalf (n : Nat) : Bool := 0xD800 ≤ n && n ≤ 0xDBFF

/-- Whether a number is the second half of a character past `U+FFFF`. -/
def isSecondHalf (n : Nat) : Bool := 0xDC00 ≤ n && n ≤ 0xDFFF

/-- The character of two halves. -/
def ofHalves (first second : Nat) : Char :=
  Char.ofNat (0x10000 + (first - 0xD800) * 0x400 + (second - 0xDC00))

/-- Puts a character in front of a string that has been read. -/
def prepend (c : Char) : Option (List Char × List Char) → Option (List Char × List Char) :=
  Option.map fun (text, rest) => (c :: text, rest)

/-- Reads a string from behind its opening quote; also gives what follows its closing quote. Half a
character and a bare control character are refused. -/
def readString : List Char → Option (List Char × List Char)
  | [] => none
  | '"' :: rest => some ([], rest)
  | '\\' :: 'u' :: a :: b :: c :: d :: rest => match fourDigits? a b c d with
    | none => none
    | some first =>
      if isSecondHalf first then none
      -- The second half has to follow at once.
      else if isFirstHalf first then match rest with
        | '\\' :: 'u' :: a :: b :: c :: d :: rest => match fourDigits? a b c d with
          | none => none
          | some second =>
            if isSecondHalf second then prepend (ofHalves first second) (readString rest)
            else none
        | _ => none
      else prepend (Char.ofNat first) (readString rest)
  | '\\' :: c :: rest => match escaped? c with
    | none => none
    | some c => prepend c (readString rest)
  | c :: rest => if c.toNat < 0x20 then none else prepend c (readString rest)

/-- A bare character is read as itself. -/
theorem readString_cons {c : Char} (shown : 0x20 ≤ c.toNat) (quotes : c ≠ '"')
    (backslash : c ≠ '\\') (rest : List Char) :
    readString (c :: rest) = prepend c (readString rest) := by
  rw [readString.eq_def]
  split
  · contradiction
  · simp_all
  · simp_all
  · simp_all
  · next heq =>
    cases heq
    rw [if_neg (by omega)]

/-- The number of a control character is read back. -/
theorem fourDigits?_control : ∀ n < 0x20,
    fourDigits? '0' '0' (Numeral.digitChar (n / 16)) (Numeral.digitChar (n % 16)) = some n := by
  decide

/-- A control character is read back. -/
theorem readString_quoteControl {c : Char} (control : c.toNat < 0x20) (rest : List Char) :
    readString (quoteControl c.toNat ++ rest) = prepend c (readString rest) := by
  have number := fourDigits?_control c.toNat control
  have first : isFirstHalf c.toNat = false := by
    simp only [isFirstHalf, Bool.and_eq_false_iff, decide_eq_false_iff_not]
    omega
  have second : isSecondHalf c.toNat = false := by
    simp only [isSecondHalf, Bool.and_eq_false_iff, decide_eq_false_iff_not]
    omega
  simp only [quoteControl, List.cons_append, List.nil_append]
  rw [readString]
  simp [number, first, second, Char.ofNat_toNat]

/-- A quoted character is read back. -/
theorem readString_quoteChar (c : Char) (rest : List Char) :
    readString (quoteChar c ++ rest) = prepend c (readString rest) := by
  unfold quoteChar
  split
  case h_8 =>
    split
    · next control => exact readString_quoteControl control rest
    · next shown =>
      rw [List.singleton_append]
      exact readString_cons (by omega) (by assumption) (by assumption) rest
  all_goals simp [readString, escaped?]

/-- A quoted text is read back, whatever follows it. -/
theorem readString_flatMap_quoteChar (text rest : List Char) :
    readString (text.flatMap quoteChar ++ '"' :: rest) = some (text, rest) := by
  induction text with
  | nil => rw [List.flatMap_nil, List.nil_append, readString]
  | cons c text ih =>
    rw [List.flatMap_cons, List.append_assoc, readString_quoteChar, ih]
    rfl

/-- Whether a character may stand around a value. -/
def isBlank (c : Char) : Bool := c == ' ' || c == '\t' || c == '\n' || c == '\r'

/-- The string that a document starts with, and whether only blanks follow it. -/
def leadingString? (document : List Char) : Option (List Char × Bool) :=
  match document.dropWhile isBlank with
  | '"' :: rest => (readString rest).map fun (text, rest) => (text, rest.all isBlank)
  | _ => none

/-- A quoted text is a document of its own, and is read back. -/
theorem leadingString?_quote (text : List Char) :
    leadingString? (quote text) = some (text, true) := by
  have blank : isBlank '"' = false := rfl
  rw [leadingString?, quote, List.cons_append, List.dropWhile_cons_of_neg (by simp [blank])]
  simp only [readString_flatMap_quoteChar]
  rfl

/-! ## Messages -/

/-- The greatest number of a line or a column. -/
def maxPlace : Nat := 0xFFFFFFFFFFFFFFFF

/-- The number of a line or a column. -/
def placeNumber? (digits : List Char) : Option Nat :=
  match Numeral.read 10 maxPlace digits with
  | .ok n => some n
  | .error _ => none

/-- The line and the column that a message ends with, and the message in front of them. -/
def place? (message : List Char) : Option (List Char × Nat × Nat) := do
  let (before, after) ← splitLastMark " at line ".toList message
  let (line, column) ← splitLastMark " column ".toList after
  return (before, ← placeNumber? line, ← placeNumber? column)

/-- The wording of a fault with a message. A message that ends with a line and a column is taken to
name its place; no place has line zero, so that is left out. -/
def placed (message : List Char) : List Char :=
  match place? message with
  | none => message
  | some (message, line, column) =>
    if line = 0 then message
    else message ++ " at line ".toList ++ Numeral.decimal line ++ " column ".toList
      ++ Numeral.decimal column

end DatagramTunnel.Text.Json
