/-!
# Numerals

`decimal` and `hex` write a number in digits. `read` reads digits of a radix up to a limit, from
left to right, and stops at the first character that is no digit or that takes the number past the
limit; `readUnsigned` also accepts a plus sign in front.
-/

namespace DatagramTunnel.Text.Numeral

/-! ## Digits -/

/-- The digit of a number below sixteen. -/
def digitChar (n : Nat) : Char := if n < 10 then Char.ofNat (48 + n) else Char.ofNat (87 + n)

/-- A number in decimal, without leading zeros. -/
def decimal (n : Nat) : List Char :=
  if n < 10 then [digitChar n] else decimal (n / 10) ++ [digitChar (n % 10)]
termination_by n
decreasing_by omega

/-- A number in hexadecimal, without leading zeros. -/
def hex (n : Nat) : List Char :=
  if n < 16 then [digitChar n] else hex (n / 16) ++ [digitChar (n % 16)]
termination_by n
decreasing_by omega

/-- A number in at least `width` hexadecimal digits. -/
def paddedHex (width n : Nat) : List Char :=
  let digits := hex n
  List.replicate (width - digits.length) '0' ++ digits

/-- The value of a digit: `0` to `9`, then the letters of either case from ten on. -/
def digitValue (c : Char) : Option Nat :=
  let n := c.toNat
  if 48 ≤ n ∧ n ≤ 57 then some (n - 48)
  else if 97 ≤ n ∧ n ≤ 122 then some (n - 87)
  else if 65 ≤ n ∧ n ≤ 90 then some (n - 55)
  else none

/-- The value of a character as a digit of the radix. -/
def digitOf (radix : Nat) (c : Char) : Option Nat :=
  (digitValue c).filter (· < radix)

/-- Whether a character is a decimal digit. -/
def isDigit (c : Char) : Bool := 48 ≤ c.toNat && c.toNat ≤ 57

/-- Whether a character is a hexadecimal digit. -/
def isHexDigit (c : Char) : Bool := (digitOf 16 c).isSome

/-! ## Reading -/

/-- Why a text is no number. -/
inductive Fault where
  /-- There is no character at all. -/
  | empty
  /-- A character is no digit, or there is only a sign. -/
  | invalidDigit
  /-- The number is past the limit. -/
  | tooLarge
  deriving DecidableEq, Repr

/-- The wording of the fault. -/
def Fault.message : Fault → String
  | .empty => "cannot parse integer from empty string"
  | .invalidDigit => "invalid digit found in string"
  | .tooLarge => "number too large to fit in target type"

/-- Reads digits after a number already read. -/
def readAfter (radix limit : Nat) : Nat → List Char → Except Fault Nat
  | value, [] => .ok value
  | value, c :: rest => match digitOf radix c with
    | none => .error .invalidDigit
    | some d =>
      if value * radix + d ≤ limit then readAfter radix limit (value * radix + d) rest
      else .error .tooLarge

/-- Reads a number of at most `limit` in digits of the radix. -/
def read (radix limit : Nat) : List Char → Except Fault Nat
  | [] => .error .empty
  | text => readAfter radix limit 0 text

/-- Reads a number of at most `limit` in digits of the radix, with a plus sign allowed in front. -/
def readUnsigned (radix limit : Nat) : List Char → Except Fault Nat
  | ['+'] => .error .invalidDigit
  | '+' :: text => read radix limit text
  | text => read radix limit text

/-- The greatest 16-bit number. -/
def max16 : Nat := 65535

/-- Reads a 16-bit number in decimal. -/
def readWord16 (text : List Char) : Except Fault UInt16 :=
  UInt16.ofNat <$> readUnsigned 10 max16 text

end DatagramTunnel.Text.Numeral
