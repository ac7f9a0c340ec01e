import DatagramTunnel.Text.Numeral

/-!
# Written numbers are read back

Numbers can be written in the digits of a radix (`Positional`), as `decimal` and `hex` write them.
`Positional.read_eq` says that a reader of that radix reads the number back, if its limit allows the
number. A positive number has no leading zero (`Positional.head?_ne_zero`). All of a written number
is digits (`Positional.digits_are`), as all of any text that is read is (`digits_of_read`); and all
digits are read, if the limit allows numbers of that length (`read_of_digits`). Zeros in front of a
number do no harm (`read_paddedHex`).
-/

namespace DatagramTunnel.Text.Numeral

variable {radix limit value n : Nat} {c : Char} {text front : List Char}

/-! ## Digits -/

theorem digitOf_eq_some_iff {d : Nat} :
    digitOf radix c = some d ↔ digitValue c = some d ∧ d < radix := by
  rw [digitOf, Option.filter_eq_some_iff, decide_eq_true_eq]

/-- The digit of a number is read as that number, in every radix up to sixteen. -/
theorem digitOf_digitChar (small : radix ≤ 16) (h : n < radix) :
    digitOf radix (digitChar n) = some n := by
  have value : ∀ n < 16, digitValue (digitChar n) = some n := by decide
  exact digitOf_eq_some_iff.2 ⟨value n (by omega), h⟩

/-- The digit zero stands for no other number. -/
theorem digitChar_ne_zero (pos : n ≠ 0) (small : n < 16) : digitChar n ≠ '0' := by
  have other : ∀ n < 16, n ≠ 0 → digitChar n ≠ '0' := by decide
  exact other n small pos

theorem isDigit_iff : isDigit c = true ↔ (digitOf 10 c).isSome = true := by
  simp only [isDigit, Bool.and_eq_true, decide_eq_true_eq, Option.isSome_iff_exists,
    digitOf_eq_some_iff, digitValue]
  constructor
  · intro h
    exact ⟨c.toNat - 48, if_pos h, by omega⟩
  · rintro ⟨d, value, small⟩
    split at value
    · assumption
    · split at value
      · cases value; omega
      · split at value
        · cases value; omega
        · cases value

/-- A decimal digit is a hexadecimal digit. -/
theorem isHexDigit_of_isDigit (h : isDigit c = true) : isHexDigit c = true := by
  obtain ⟨d, read⟩ := Option.isSome_iff_exists.1 (isDigit_iff.1 h)
  obtain ⟨value, small⟩ := digitOf_eq_some_iff.1 read
  rw [isHexDigit, digitOf_eq_some_iff.2 ⟨value, Nat.lt_trans small (by decide)⟩]
  rfl

/-! ## Texts that are read -/

/-- All of a text that is read is digits. -/
theorem digits_of_readAfter (h : readAfter radix limit value text = .ok n) :
    ∀ c ∈ text, (digitOf radix c).isSome = true := by
  induction text generalizing value with
  | nil => nofun
  | cons c text ih =>
    rw [readAfter] at h
    split at h
    · cases h
    · next d digit =>
      split at h
      · intro c' mem
        rcases List.mem_cons.1 mem with rfl | mem
        · rw [digit]; rfl
        · exact ih h c' mem
      · cases h

/-- A text that is read has digits, and nothing else. -/
theorem digits_of_read (h : read radix limit text = .ok n) :
    text ≠ [] ∧ ∀ c ∈ text, (digitOf radix c).isSome = true := by
  cases text with
  | nil => cases h
  | cons c text => exact ⟨nofun, digits_of_readAfter h⟩

/-- One more digit is read after the digits before it. -/
theorem readAfter_concat (h : readAfter radix limit value front = .ok n) (c : Char) :
    readAfter radix limit value (front ++ [c]) = readAfter radix limit n [c] := by
  induction front generalizing value with
  | nil => cases h; rfl
  | cons c' front ih =>
    rw [readAfter] at h
    rw [List.cons_append, readAfter]
    split at h
    · cases h
    · split at h
      · next within => exact (if_pos within).trans (ih h)
      · cases h

/-- Digits are read if the limit allows every number of so many digits. -/
theorem readAfter_of_digits (digits : ∀ c ∈ text, (digitOf radix c).isSome = true)
    (within : (value + 1) * Nat.pow radix text.length ≤ limit + 1) :
    ∃ n, readAfter radix limit value text = .ok n := by
  induction text generalizing value with
  | nil => exact ⟨value, rfl⟩
  | cons c text ih =>
    obtain ⟨first, digits⟩ := List.forall_mem_cons.1 digits
    obtain ⟨d, digit⟩ := Option.isSome_iff_exists.1 first
    have small : d < radix := (digitOf_eq_some_iff.1 digit).2
    -- With one digit more, the value stays below what one power more of the radix allows.
    have next : value * radix + d + 1 ≤ (value + 1) * radix := by
      rw [Nat.add_mul, Nat.one_mul]
      omega
    have within : (value * radix + d + 1) * Nat.pow radix text.length ≤ limit + 1 :=
      calc (value * radix + d + 1) * Nat.pow radix text.length
        _ ≤ (value + 1) * radix * Nat.pow radix text.length := Nat.mul_le_mul_right _ next
        _ = (value + 1) * (Nat.pow radix text.length * radix) := by
          rw [Nat.mul_assoc, Nat.mul_comm radix]
        _ ≤ limit + 1 := within
    have pos : 0 < Nat.pow radix text.length := Nat.pow_pos (by omega)
    have allowed : value * radix + d ≤ limit :=
      Nat.le_of_succ_le_succ (Nat.le_trans (Nat.le_mul_of_pos_right _ pos) within)
    rw [readAfter, digit]
    simp only [if_pos allowed]
    exact ih digits within

/-- A text of digits is read if the limit allows every number of so many digits. -/
theorem read_of_digits (some_text : text ≠ [])
    (digits : ∀ c ∈ text, (digitOf radix c).isSome = true)
    (within : Nat.pow radix text.length ≤ limit + 1) : ∃ n, read radix limit text = .ok n := by
  cases text with
  | nil => exact absurd rfl some_text
  | cons c text => exact readAfter_of_digits digits (by rwa [Nat.zero_add, Nat.one_mul])

/-- Without a plus sign there are just digits to read. -/
theorem readUnsigned_of_plain (plain : '+' ∉ text) :
    readUnsigned radix limit text = read radix limit text := by
  unfold readUnsigned
  split
  · simp at plain
  · simp at plain
  · rfl

/-- When a text without a plus sign is a 16-bit number. -/
theorem readWord16_iff_read (plain : '+' ∉ text) :
    (∃ number, readWord16 text = .ok number) ↔ ∃ n, read 10 max16 text = .ok n := by
  rw [readWord16, readUnsigned_of_plain plain]
  cases read 10 max16 text with
  | ok n => exact iff_of_true ⟨_, rfl⟩ ⟨_, rfl⟩
  | error fault => exact iff_of_false nofun nofun

/-! ## Positional notation -/

/-- A way to write numbers in digits of a radix, the most significant digit first. -/
structure Positional (radix : Nat) (digits : Nat → List Char) : Prop where
  two_le : 2 ≤ radix
  le_sixteen : radix ≤ 16
  digits_eq : ∀ n, digits n =
    if n < radix then [digitChar n] else digits (n / radix) ++ [digitChar (n % radix)]

theorem decimal_positional : Positional 10 decimal where
  two_le := by decide
  le_sixteen := by decide
  digits_eq n := by rw [decimal]

theorem hex_positional : Positional 16 hex where
  two_le := by decide
  le_sixteen := by decide
  digits_eq n := by rw [hex]

namespace Positional

variable {digits : Nat → List Char}

/-- **Induction on the digits of a number**: a number of one digit, and one more digit behind the
digits of a positive number. -/
theorem induction (h : Positional radix digits) {motive : Nat → List Char → Prop}
    (one : ∀ d, d < radix → motive d [digitChar d])
    (more : ∀ n d, 0 < n → d < radix → motive n (digits n) →
      motive (n * radix + d) (digits n ++ [digitChar d]))
    (n : Nat) : motive n (digits n) := by
  have two_le := h.two_le
  induction n using Nat.strongRecOn with
  | ind n ih =>
    rw [h.digits_eq]
    by_cases small : n < radix
    · rw [if_pos small]
      exact one n small
    · rw [if_neg small]
      have whole : n / radix * radix + n % radix = n := Nat.div_add_mod' n radix
      have step := more (n / radix) (n % radix) (Nat.div_pos (by omega) (by omega))
        (Nat.mod_lt n (by omega)) (ih (n / radix) (Nat.div_lt_self (by omega) two_le))
      rwa [whole] at step

/-- The digits of a number are read as that number. -/
theorem readAfter_eq (h : Positional radix digits) (n : Nat) :
    n ≤ limit → readAfter radix limit 0 (digits n) = .ok n := by
  apply h.induction (motive := fun n text => n ≤ limit → readAfter radix limit 0 text = .ok n)
  · intro d small within
    rw [readAfter, digitOf_digitChar h.le_sixteen small]
    simp only [Nat.zero_mul, Nat.zero_add, if_pos within, readAfter]
  · intro n d _ small ih within
    have two_le := h.two_le
    have le : n ≤ n * radix := Nat.le_mul_of_pos_right n (by omega)
    -- The front is read under the same limit, because it stands for a smaller number.
    rw [readAfter_concat (ih (by omega)), readAfter, digitOf_digitChar h.le_sixteen small]
    simp only [if_pos within, readAfter]

theorem digits_ne_nil (h : Positional radix digits) (n : Nat) : digits n ≠ [] := by
  rw [h.digits_eq]
  split <;> simp

/-- **A written number is read back**, if the limit allows it. -/
theorem read_eq (h : Positional radix digits) (within : n ≤ limit) :
    read radix limit (digits n) = .ok n := by
  have written := h.readAfter_eq n within
  cases text : digits n with
  | nil => exact absurd text (h.digits_ne_nil n)
  | cons c rest => rw [read, ← text, written]; simp

/-- All of a written number is digits. -/
theorem digits_are (h : Positional radix digits) (n : Nat) :
    ∀ c ∈ digits n, (digitOf radix c).isSome = true :=
  (digits_of_read (h.read_eq (Nat.le_refl n))).2

/-- A positive number is written without leading zeros. -/
theorem head?_ne_zero (h : Positional radix digits) (n : Nat) :
    n ≠ 0 → (digits n).head? ≠ some '0' := by
  have le_sixteen := h.le_sixteen
  apply h.induction (motive := fun n text => n ≠ 0 → text.head? ≠ some '0')
  · intro d small pos
    rw [List.head?_cons, ne_eq, Option.some.injEq]
    exact digitChar_ne_zero pos (by omega)
  · -- The first digit is that of the number without its last digit.
    intro n d pos _ ih _
    obtain ⟨c, rest, first⟩ := List.exists_cons_of_ne_nil (h.digits_ne_nil n)
    rw [first] at ih ⊢
    exact ih (by omega)

/-- A number below a power of the radix has at most that many digits. -/
theorem length_le (h : Positional radix digits) (k : Nat) :
    ∀ n < Nat.pow radix (k + 1), (digits n).length ≤ k + 1 := by
  have two_le := h.two_le
  induction k with
  | zero =>
    intro n small
    rw [h.digits_eq, if_pos (by simpa [Nat.pow] using small)]
    exact Nat.le_refl 1
  | succ k ih =>
    intro n small
    rw [h.digits_eq]
    split
    · exact Nat.le_add_left 1 (k + 1)
    · have shorter := ih (n / radix) (Nat.div_lt_of_lt_mul (by rwa [Nat.mul_comm]))
      rw [List.length_append, List.length_singleton]
      omega

end Positional

/-! ## Decimal and hexadecimal numbers -/

theorem isDigit_of_mem_decimal (h : c ∈ decimal n) : isDigit c = true :=
  isDigit_iff.2 (decimal_positional.digits_are n c h)

theorem isHexDigit_of_mem_hex (h : c ∈ hex n) : isHexDigit c = true :=
  hex_positional.digits_are n c h

/-- What is no digit is not in a written number. -/
theorem not_mem_decimal (other : isDigit c = false) (n : Nat) : c ∉ decimal n := by
  intro mem
  rw [isDigit_of_mem_decimal mem] at other
  cases other

theorem not_mem_hex (other : isHexDigit c = false) (n : Nat) : c ∉ hex n := by
  intro mem
  rw [isHexDigit_of_mem_hex mem] at other
  cases other

/-- **A 16-bit number written in decimal is read back.** -/
theorem readWord16_decimal (port : UInt16) : readWord16 (decimal port.toNat) = .ok port := by
  have within : port.toNat ≤ max16 := Nat.le_of_lt_succ port.toNat_lt
  have plain : '+' ∉ decimal port.toNat := not_mem_decimal rfl _
  rw [readWord16, readUnsigned_of_plain plain, decimal_positional.read_eq within]
  show Except.ok (UInt16.ofNat port.toNat) = _
  rw [UInt16.ofNat_toNat]

/-! ## Leading zeros -/

/-- Zeros in front of a number change nothing. -/
theorem readAfter_zeros (radix limit count : Nat) (pos : 0 < radix) (text : List Char) :
    readAfter radix limit 0 (List.replicate count '0' ++ text) = readAfter radix limit 0 text := by
  have zero : digitOf radix '0' = some 0 := digitOf_eq_some_iff.2 ⟨rfl, pos⟩
  induction count with
  | zero => rfl
  | succ count ih =>
    rw [List.replicate_succ, List.cons_append, readAfter, zero]
    simp only [Nat.zero_mul, Nat.zero_add, Nat.zero_le, if_true]
    exact ih

/-- A number with zeros in front of it is read back. -/
theorem read_paddedHex (within : n ≤ limit) (width : Nat) :
    read 16 limit (paddedHex width n) = .ok n := by
  have written : readAfter 16 limit 0 (paddedHex width n) = .ok n := by
    rw [paddedHex, readAfter_zeros 16 limit _ (by decide)]
    exact hex_positional.readAfter_eq n within
  cases padded : paddedHex width n with
  | nil => exact absurd (List.append_eq_nil_iff.1 padded).2 (hex_positional.digits_ne_nil n)
  | cons c rest =>
    rw [padded] at written
    exact written

/-- A number that needs no more digits has just so many. -/
theorem length_paddedHex {width : Nat} (small : n < Nat.pow 16 (width + 1)) :
    (paddedHex (width + 1) n).length = width + 1 := by
  have few := hex_positional.length_le width n small
  rw [paddedHex, List.length_append, List.length_replicate]
  omega

theorem isHexDigit_of_mem_paddedHex {width : Nat} {c : Char} (h : c ∈ paddedHex width n) :
    isHexDigit c = true := by
  rcases List.mem_append.1 h with zero | digit
  · rw [List.eq_of_mem_replicate zero]
    rfl
  · exact isHexDigit_of_mem_hex digit

end DatagramTunnel.Text.Numeral
