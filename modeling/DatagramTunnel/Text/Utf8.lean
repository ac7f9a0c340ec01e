/-!
# UTF-8

`encode` writes characters as bytes, `decode` reads bytes that are UTF-8 throughout, and `lossy`
reads any bytes, putting one replacement character for each ill-formed part. Both readers look at
the bytes through `front`, which says what stands at the front of a non-empty byte sequence: a
character, or an ill-formed part of one, two or three bytes that no character begins with or that
the end of the input cuts short.
-/

namespace DatagramTunnel.Text.Utf8

/-! ## Writing -/

/-- The bytes of one character. -/
def encodeChar (c : Char) : List UInt8 :=
  let n := c.toNat
  if n < 0x80 then
    [UInt8.ofNat n]
  else if n < 0x800 then
    [UInt8.ofNat (0xC0 + n / 64), UInt8.ofNat (0x80 + n % 64)]
  else if n < 0x10000 then
    [UInt8.ofNat (0xE0 + n / 4096), UInt8.ofNat (0x80 + n / 64 % 64), UInt8.ofNat (0x80 + n % 64)]
  else
    [UInt8.ofNat (0xF0 + n / 262144), UInt8.ofNat (0x80 + n / 4096 % 64),
      UInt8.ofNat (0x80 + n / 64 % 64), UInt8.ofNat (0x80 + n % 64)]

/-- The bytes of a text. -/
def encode (text : List Char) : List UInt8 := text.flatMap encodeChar

@[simp] theorem encode_nil : encode [] = [] := rfl

@[simp] theorem encode_cons (c : Char) (text : List Char) :
    encode (c :: text) = encodeChar c ++ encode text := rfl

/-! ## Reading -/

/-- What stands at the front of a non-empty byte sequence; `extra` counts its bytes after the
first. -/
inductive Front where
  /-- One character. -/
  | char (c : Char) (extra : Nat)
  /-- Bytes that begin no character; `cut` when only the end of the input makes them so. -/
  | broken (extra : Nat) (cut : Bool)
  deriving DecidableEq, Repr

/-- Whether a byte may stand third or later in a character. -/
def isTail (b : UInt8) : Bool := 0x80 ≤ b && b ≤ 0xBF

/-- For the first byte of a longer character: the range of the second byte, and how many tail bytes
follow that. The ranges leave out overlong forms, surrogates and numbers past the last character. -/
def afterLead (b : UInt8) : Option (UInt8 × UInt8 × Nat) :=
  if b < 0xC2 then none
  else if b < 0xE0 then some (0x80, 0xBF, 0)
  else if b = 0xE0 then some (0xA0, 0xBF, 1)
  else if b = 0xED then some (0x80, 0x9F, 1)
  else if b < 0xF0 then some (0x80, 0xBF, 1)
  else if b = 0xF0 then some (0x90, 0xBF, 2)
  else if b < 0xF4 then some (0x80, 0xBF, 2)
  else if b = 0xF4 then some (0x80, 0x8F, 2)
  else none

/-- The six bits that a tail byte carries. -/
def tailBits (b : UInt8) : Nat := b.toNat - 0x80

/-- What stands at the front of the bytes `a :: rest`. -/
def front (a : UInt8) (rest : List UInt8) : Front :=
  if a < 0x80 then .char (Char.ofNat a.toNat) 0
  else match afterLead a with
    | none => .broken 0 false
    | some (low, high, more) => match rest with
      | [] => .broken 0 true
      | b :: rest =>
        if b < low || high < b then .broken 0 false
        else if more = 0 then .char (Char.ofNat ((a.toNat - 0xC0) * 64 + tailBits b)) 1
        else match rest with
          | [] => .broken 1 true
          | c :: rest =>
            if !isTail c then .broken 1 false
            else if more = 1 then
              .char (Char.ofNat ((a.toNat - 0xE0) * 4096 + tailBits b * 64 + tailBits c)) 2
            else match rest with
              | [] => .broken 2 true
              | d :: _ =>
                if !isTail d then .broken 2 false
                else .char (Char.ofNat ((a.toNat - 0xF0) * 262144 + tailBits b * 4096
                  + tailBits c * 64 + tailBits d)) 3

/-- The character that stands for an ill-formed part. -/
def replacement : Char := '\uFFFD'

/-- The text of any bytes, with one replacement character for each ill-formed part. -/
def lossy : List UInt8 → List Char
  | [] => []
  | a :: rest => match front a rest with
    | .char c extra => c :: lossy (rest.drop extra)
    | .broken extra _ => replacement :: lossy (rest.drop extra)
termination_by bytes => bytes.length
decreasing_by all_goals simp only [List.length_drop, List.length_cons]; omega

/-- Where bytes stop being UTF-8: after `validUpTo` bytes, with an ill-formed part of `badLength`
bytes, or with `none` if the input ends inside a character. -/
structure Invalid where
  validUpTo : Nat
  badLength : Option Nat
  deriving DecidableEq, Repr

namespace Invalid

/-- The wording of the finding. -/
def message (e : Invalid) : String :=
  match e.badLength with
  | some n => s!"invalid utf-8 sequence of {n} bytes from index {e.validUpTo}"
  | none => s!"incomplete utf-8 byte sequence from index {e.validUpTo}"

end Invalid

/-- Reads bytes that start at `index` of a larger input and are UTF-8 throughout. -/
def decodeFrom (index : Nat) : List UInt8 → Except Invalid (List Char)
  | [] => .ok []
  | a :: rest => match front a rest with
    | .char c extra => (c :: ·) <$> decodeFrom (index + 1 + extra) (rest.drop extra)
    | .broken extra cut => .error ⟨index, if cut then none else some (extra + 1)⟩
termination_by bytes => bytes.length
decreasing_by simp only [List.length_drop, List.length_cons]; omega

/-- Reads bytes that are UTF-8 throughout. -/
def decode (bytes : List UInt8) : Except Invalid (List Char) := decodeFrom 0 bytes

end DatagramTunnel.Text.Utf8
