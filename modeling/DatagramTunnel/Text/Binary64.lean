import DatagramTunnel.Text.Numeral

/-!
# Binary floating-point numbers in decimal

A finite number of 53 binary digits is kept as a mantissa and a power of two, and all steps are
exact. `ofDecimal?` rounds a decimal number to the nearest such number, an exact half to the even
mantissa. `render` writes the shortest decimal that rounds back, positionally and with at least one
digit after the point.
-/

namespace DatagramTunnel.Text

/-- A floating-point number: `mantissa * 2 ^ exponent` with a sign, or one of the special values. -/
inductive Binary64 where
  | finite (negative : Bool) (mantissa : Nat) (exponent : Int)
  | infinite (negative : Bool)
  | notANumber
  deriving DecidableEq, Repr

namespace Binary64

/-- A power of two. -/
def twoTo (n : Nat) : Nat := Nat.pow 2 n

/-- A power of ten. -/
def tenTo (n : Nat) : Nat := Nat.pow 10 n

/-- The least mantissa of 53 binary digits. -/
def leastFull : Nat := twoTo 52

/-- The least exponent. -/
def minExponent : Int := -1074

/-- The greatest exponent. -/
def maxExponent : Int := 971

/-! ## Rounding a decimal number -/

/-- The quotient rounded to the nearest number, a half to the even one. -/
def roundDiv (num den : Nat) : Nat :=
  let quotient := num / den
  let twice := 2 * (num % den)
  if twice > den ∨ (twice = den ∧ quotient % 2 = 1) then quotient + 1 else quotient

/-- The quotient of `num` and `den * 2 ^ exponent`, rounded. -/
def roundScaled (num den : Nat) (exponent : Int) : Nat :=
  match exponent with
  | .ofNat e => roundDiv num (den * twoTo e)
  | .negSucc e => roundDiv (num * twoTo (e + 1)) den

/-- The exponent that gives `num / den` a mantissa of 53 binary digits, or the least one. -/
def exponentOf (num den : Nat) : Int :=
  let guess : Int := max ((num.log2 : Int) - (den.log2 : Int) - 52) minExponent
  if roundScaled num den guess < leastFull then max (guess - 1) minExponent else guess

/-- The nearest number to `num / den`, or `none` past the greatest number. -/
def nearest? (negative : Bool) (num den : Nat) : Option Binary64 :=
  let exponent := exponentOf num den
  let mantissa := roundScaled num den exponent
  let (mantissa, exponent) :=
    if mantissa = 2 * leastFull then (leastFull, exponent + 1) else (mantissa, exponent)
  if exponent > maxExponent then none else some (.finite negative mantissa exponent)

/-- The nearest number to `digits * 10 ^ power`, or `none` past the greatest number. -/
def ofDecimal? (negative : Bool) (digits : Nat) (power : Int) : Option Binary64 :=
  let zero := some (.finite negative 0 minExponent)
  let magnitude : Int := ((Numeral.decimal digits).length : Int) + power
  if digits = 0 ∨ magnitude < -400 then zero
  else if magnitude > 400 then none
  else match power with
    | .ofNat p => nearest? negative (digits * tenTo p) 1
    | .negSucc p => nearest? negative digits (tenTo (p + 1))

/-! ## The shortest decimal -/

/-- The multiple of `10 ^ power` nearest to `value`, as its digits, if it lies between `low` and
`high`. All three stand over the same denominator; the ends count if `closed`. -/
def onGrid? (low value high den : Nat) (closed : Bool) (power : Int) : Option Nat :=
  let (unit, scale) : Nat × Nat := match power with
    | .ofNat p => (den * tenTo p, 1)
    | .negSucc p => (den, tenTo (p + 1))
  let inside (n : Nat) : Bool :=
    let point := n * unit
    if closed then low * scale ≤ point && point ≤ high * scale
    else low * scale < point && point < high * scale
  let below := value * scale / unit
  let remainder := value * scale % unit
  let near := if 2 * remainder > unit then below + 1 else below
  let far := if 2 * remainder > unit then below else below + 1
  if inside near then some near
  else if inside far then some far
  else none

/-- The digits and the power of ten of the shortest decimal that rounds to a positive number. -/
def shortest (mantissa : Nat) (exponent : Int) : Nat × Int :=
  -- Below a power of two the numbers lie twice as close as above it.
  let low := if mantissa = leastFull ∧ exponent > minExponent then 4 * mantissa - 1
    else 4 * mantissa - 2
  let (num, den) : Nat × Nat := match exponent - 2 with
    | .ofNat e => (twoTo e, 1)
    | .negSucc e => (1, twoTo (e + 1))
  let powers := (List.range 660).map fun (i : Nat) => (310 : Int) - (i : Int)
  let hit := powers.findSome? fun power =>
    (onGrid? (low * num) (4 * mantissa * num) ((4 * mantissa + 2) * num) den
      (mantissa % 2 == 0) power).map (·, power)
  hit.getD (0, 0)

/-- The number `digits * 10 ^ power` with all its places and at least one after the point. -/
def positional (digits : Nat) (power : Int) : List Char :=
  let written := Numeral.decimal digits
  match power with
  | .ofNat p => written ++ List.replicate p '0' ++ ['.', '0']
  | .negSucc p =>
    let places := p + 1
    let padded := List.replicate (places + 1 - written.length) '0' ++ written
    padded.take (padded.length - places) ++ '.' :: padded.drop (padded.length - places)

/-- The text of a number. -/
def render : Binary64 → List Char
  | .finite negative mantissa exponent =>
    let text := if mantissa = 0 then ['0', '.', '0'] else
      let (digits, power) := shortest mantissa exponent
      positional digits power
    if negative then '-' :: text else text
  | .infinite negative => if negative then "-inf".toList else "inf".toList
  | .notANumber => "NaN".toList

/-! ## Reading -/

/-- The digits in front of a text, and what follows them. -/
def spanDigits (text : List Char) : List Char × List Char := text.span Numeral.isDigit

/-- The number that digits stand for. -/
def natOfDigits (digits : List Char) : Nat :=
  digits.foldl (fun n c => n * 10 + (c.toNat - 48)) 0

/-- Reads the part after the mantissa: nothing, or an exponent of ten. -/
def readPower : List Char → Option Int
  | [] => some 0
  | mark :: rest =>
    if mark ≠ 'e' ∧ mark ≠ 'E' then none
    else
      let (negative, digits) : Bool × List Char := match rest with
        | '-' :: digits => (true, digits)
        | '+' :: digits => (false, digits)
        | digits => (false, digits)
      if digits.isEmpty || !digits.all Numeral.isDigit then none
      else
        let n : Int := natOfDigits digits
        some (if negative then -n else n)

/-- Reads a decimal number: an optional minus sign, digits with or without a point among or beside
them, and an optional exponent of ten. There is no result past the greatest number. -/
def ofText? (text : List Char) : Option Binary64 :=
  let (negative, body) : Bool × List Char := match text with
    | '-' :: body => (true, body)
    | body => (false, body)
  let (whole, rest) := spanDigits body
  let (fraction, rest) : List Char × List Char := match rest with
    | '.' :: rest => spanDigits rest
    | rest => ([], rest)
  if whole.isEmpty && fraction.isEmpty then none
  else (readPower rest).bind fun power =>
    ofDecimal? negative (natOfDigits (whole ++ fraction)) (power - fraction.length)

end Binary64

end DatagramTunnel.Text
