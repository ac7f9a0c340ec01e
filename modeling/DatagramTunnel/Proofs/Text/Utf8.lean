import DatagramTunnel.Text.Utf8

/-!
# UTF-8 is read as it is written

`Sequence` says which bytes stand for a number, in the four lengths there are. The bytes of a
character are a sequence for its number (`sequence_encodeChar`), and a sequence is the bytes of the
character of its number (`Sequence.encodeChar_eq`). What the readers take for a character at the
front of the bytes is just such a sequence (`Sequence.front_eq`, `sequence_of_front`). So bytes are
UTF-8 for the reader exactly if they are what is written for the text it gives: `decode_eq_ok_iff`.
On such bytes the lossy reader loses nothing: `lossy_encode`.
-/

namespace DatagramTunnel.Text.Utf8

variable {a b : UInt8} {n more extra : Nat} {bytes rest tail : List UInt8} {c : Char}
  {text : List Char}

/-! ## Sequences -/

theorem isTail_iff : isTail b = true ↔ 0x80 ≤ b.toNat ∧ b.toNat ≤ 0xBF := by
  simp only [isTail, Bool.and_eq_true, decide_eq_true_eq, UInt8.le_iff_toNat_le, UInt8.reduceToNat]

/-- Whether `b` may stand second in a character that `a` leads, with `more` bytes behind it. -/
def Second (a b : UInt8) (more : Nat) : Prop :=
  ∃ low high, afterLead a = some (low, high, more) ∧ low ≤ b ∧ b ≤ high

/-- The second byte is a tail byte, but some are left out behind the leads of overlong forms, of
surrogates, and of numbers past the last character. -/
theorem second_iff : Second a b more ↔ 0x80 ≤ b.toNat ∧ b.toNat ≤ 0xBF ∧
    ((more = 0 ∧ 0xC2 ≤ a.toNat ∧ a.toNat < 0xE0) ∨
      (more = 1 ∧ 0xE0 ≤ a.toNat ∧ a.toNat < 0xF0 ∧
        (a.toNat = 0xE0 → 0xA0 ≤ b.toNat) ∧ (a.toNat = 0xED → b.toNat ≤ 0x9F)) ∨
      (more = 2 ∧ 0xF0 ≤ a.toNat ∧ a.toNat < 0xF5 ∧
        (a.toNat = 0xF0 → 0x90 ≤ b.toNat) ∧ (a.toNat = 0xF4 → b.toNat ≤ 0x8F))) := by
  simp only [Second, afterLead, UInt8.lt_iff_toNat_lt, UInt8.le_iff_toNat_le, ← UInt8.toNat_inj,
    UInt8.reduceToNat]
  -- One case for each range of leads; in each of them both sides are bounds on the second byte.
  repeat' split
  all_goals simp only [Option.some.injEq, Prod.mk.injEq, reduceCtorEq, false_and, exists_false,
    exists_and_left, exists_eq_left', and_assoc, UInt8.reduceToNat, false_iff]
  all_goals omega

/-- The bytes that stand for a number. -/
inductive Sequence : List UInt8 → Nat → Prop where
  | one {a : UInt8} (first : a.toNat < 0x80) : Sequence [a] a.toNat
  | two {a b : UInt8} (second : Second a b 0) :
    Sequence [a, b] ((a.toNat - 0xC0) * 64 + (b.toNat - 0x80))
  | three {a b c : UInt8} (second : Second a b 1) (third : isTail c = true) :
    Sequence [a, b, c] ((a.toNat - 0xE0) * 4096 + (b.toNat - 0x80) * 64 + (c.toNat - 0x80))
  | four {a b c d : UInt8} (second : Second a b 2) (third : isTail c = true)
    (fourth : isTail d = true) :
    Sequence [a, b, c, d] ((a.toNat - 0xF0) * 262144 + (b.toNat - 0x80) * 4096
      + (c.toNat - 0x80) * 64 + (d.toNat - 0x80))

/-- A number that a sequence stands for is the number of a character. -/
theorem Sequence.toNat_ofNat (h : Sequence bytes n) : (Char.ofNat n).toNat = n := by
  -- The ranges of the second byte are what keeps surrogates out, and numbers past the last.
  have valid : n < 0xD800 ∨ 0xDFFF < n ∧ n < 0x110000 := by
    cases h with
    | one first => omega
    | two second =>
      rw [second_iff] at second
      omega
    | three second third =>
      rw [second_iff] at second
      rw [isTail_iff] at third
      omega
    | four second third fourth =>
      rw [second_iff] at second
      rw [isTail_iff] at third fourth
      omega
  rw [Char.ofNat, dif_pos valid]
  rfl

/-- A sequence is the bytes of the character it stands for. -/
theorem Sequence.encodeChar_eq (h : Sequence bytes n) : encodeChar (Char.ofNat n) = bytes := by
  simp only [encodeChar, h.toNat_ofNat]
  cases h with
  | one first =>
    rw [if_pos first, UInt8.ofNat_toNat]
  | two second =>
    rw [second_iff] at second
    -- The bounds say which length is chosen; what is left is division by 64.
    rw [if_neg (by omega), if_pos (by omega)]
    simp only [List.cons.injEq, and_true, ← UInt8.toNat_inj, UInt8.toNat_ofNat']
    omega
  | three second third =>
    rw [second_iff] at second
    rw [isTail_iff] at third
    rw [if_neg (by omega), if_neg (by omega), if_pos (by omega)]
    simp only [List.cons.injEq, and_true, ← UInt8.toNat_inj, UInt8.toNat_ofNat']
    omega
  | four second third fourth =>
    rw [second_iff] at second
    rw [isTail_iff] at third fourth
    rw [if_neg (by omega), if_neg (by omega), if_neg (by omega)]
    simp only [List.cons.injEq, and_true, ← UInt8.toNat_inj, UInt8.toNat_ofNat']
    omega

/-- A number below 256 is the number of its byte. -/
theorem toNat_byte (small : n < 256) : (UInt8.ofNat n).toNat = n := by
  rw [UInt8.toNat_ofNat']
  exact Nat.mod_eq_of_lt small

/-- The bytes of a character are a sequence for its number. -/
theorem sequence_encodeChar (c : Char) : Sequence (encodeChar c) c.toNat := by
  have valid : c.toNat < 0xD800 ∨ 0xDFFF < c.toNat ∧ c.toNat < 0x110000 := c.valid
  rw [encodeChar]
  -- From here on only the number counts: it is cut into digits of six bits and put together again.
  generalize c.toNat = n at valid
  have last : (UInt8.ofNat (0x80 + n % 64)).toNat = 0x80 + n % 64 := toNat_byte (by omega)
  have middle : (UInt8.ofNat (0x80 + n / 64 % 64)).toNat = 0x80 + n / 64 % 64 :=
    toNat_byte (by omega)
  by_cases one : n < 0x80
  · have lead : (UInt8.ofNat n).toNat = n := toNat_byte (by omega)
    have sequence := Sequence.one (a := UInt8.ofNat n) (by omega)
    rw [lead] at sequence
    rwa [if_pos one]
  by_cases two : n < 0x800
  · have lead : (UInt8.ofNat (0xC0 + n / 64)).toNat = 0xC0 + n / 64 := toNat_byte (by omega)
    have number : (0xC0 + n / 64 - 0xC0) * 64 + (0x80 + n % 64 - 0x80) = n := by omega
    have sequence := Sequence.two (a := UInt8.ofNat (0xC0 + n / 64))
      (b := UInt8.ofNat (0x80 + n % 64)) (second_iff.2 (by omega))
    rw [lead, last, number] at sequence
    rwa [if_neg one, if_pos two]
  by_cases three : n < 0x10000
  · have lead : (UInt8.ofNat (0xE0 + n / 4096)).toNat = 0xE0 + n / 4096 := toNat_byte (by omega)
    have number : (0xE0 + n / 4096 - 0xE0) * 4096 + (0x80 + n / 64 % 64 - 0x80) * 64 +
      (0x80 + n % 64 - 0x80) = n := by omega
    have sequence := Sequence.three (a := UInt8.ofNat (0xE0 + n / 4096))
      (b := UInt8.ofNat (0x80 + n / 64 % 64)) (c := UInt8.ofNat (0x80 + n % 64))
      (second_iff.2 (by omega)) (isTail_iff.2 (by omega))
    rw [lead, middle, last, number] at sequence
    rwa [if_neg one, if_neg two, if_pos three]
  · have lead : (UInt8.ofNat (0xF0 + n / 262144)).toNat = 0xF0 + n / 262144 := toNat_byte (by omega)
    have early : (UInt8.ofNat (0x80 + n / 4096 % 64)).toNat = 0x80 + n / 4096 % 64 :=
      toNat_byte (by omega)
    have number : (0xF0 + n / 262144 - 0xF0) * 262144 + (0x80 + n / 4096 % 64 - 0x80) * 4096 +
      (0x80 + n / 64 % 64 - 0x80) * 64 + (0x80 + n % 64 - 0x80) = n := by omega
    have sequence := Sequence.four (a := UInt8.ofNat (0xF0 + n / 262144))
      (b := UInt8.ofNat (0x80 + n / 4096 % 64)) (c := UInt8.ofNat (0x80 + n / 64 % 64))
      (d := UInt8.ofNat (0x80 + n % 64)) (second_iff.2 (by omega)) (isTail_iff.2 (by omega))
      (isTail_iff.2 (by omega))
    rw [lead, early, middle, last, number] at sequence
    rwa [if_neg one, if_neg two, if_neg three]

/-! ## The front of the bytes -/

/-- A byte that leads a second one is no character of its own, and the second is in its range. -/
theorem Second.front_eq (h : Second a b more) (rest : List UInt8) :
    front a (b :: rest) =
      if more = 0 then .char (Char.ofNat ((a.toNat - 0xC0) * 64 + tailBits b)) 1
      else match rest with
        | [] => .broken 1 true
        | c :: rest =>
          if !isTail c then .broken 1 false
          else if more = 1 then
            .char (Char.ofNat ((a.toNat - 0xE0) * 4096 + tailBits b * 64 + tailBits c)) 2
          else match rest with
            | [] => .broken 2 true
            | d :: _ =>
              if !isTail d then .broken 2 false
              else .char (Char.ofNat ((a.toNat - 0xF0) * 262144 + tailBits b * 4096
                + tailBits c * 64 + tailBits d)) 3 := by
  have above : ¬ a < 0x80 := by
    rw [second_iff] at h
    rw [UInt8.lt_iff_toNat_lt]
    show ¬ a.toNat < 0x80
    omega
  obtain ⟨low, high, leads, from_low, to_high⟩ := h
  have inside : ¬ (b < low || high < b) = true := by
    simp [UInt8.not_lt.2 from_low, UInt8.not_lt.2 to_high]
  rw [front, if_neg above, leads]
  exact if_neg inside

/-- The readers take a sequence for its character, whatever is behind it. -/
theorem Sequence.front_eq (h : Sequence (a :: tail) n) (rest : List UInt8) :
    front a (tail ++ rest) = .char (Char.ofNat n) tail.length := by
  cases h with
  | one first =>
    have below : a < 0x80 := UInt8.lt_iff_toNat_lt.2 first
    rw [front, if_pos below]
    rfl
  | two second => exact (second.front_eq rest).trans (if_pos rfl)
  | three second third =>
    rw [List.cons_append, second.front_eq]
    simp only [List.cons_append, third]
    rfl
  | four second third fourth =>
    rw [List.cons_append, second.front_eq]
    simp only [List.cons_append, third, fourth]
    rfl

/-- What the readers take for a character is one byte, or a lead and a second byte are in front. -/
theorem second_of_front (h : front a rest = .char c extra) (above : ¬ a < 0x80) :
    ∃ b more rest', rest = b :: rest' ∧ Second a b more := by
  rw [front, if_neg above] at h
  split at h
  · cases h
  · next low high more leads =>
    split at h
    · cases h
    · next b rest' =>
      split at h
      · cases h
      · next inside =>
        rw [Bool.or_eq_true, decide_eq_true_eq, decide_eq_true_eq, not_or, UInt8.not_lt,
          UInt8.not_lt] at inside
        exact ⟨b, more, rest', rfl, low, high, leads, inside⟩

/-- What the readers take for a character is a sequence. -/
theorem sequence_of_front (h : front a rest = .char c extra) :
    ∃ n, c = Char.ofNat n ∧ Sequence (a :: rest.take extra) n := by
  by_cases below : a < 0x80
  · rw [front, if_pos below] at h
    cases h
    exact ⟨a.toNat, rfl, .one (UInt8.lt_iff_toNat_lt.1 below)⟩
  obtain ⟨b, more, rest, rfl, second⟩ := second_of_front h below
  -- The lead tells how many bytes are behind the second one: none, one or two.
  rw [second.front_eq] at h
  obtain ⟨-, -, ⟨rfl, -⟩ | ⟨rfl, -⟩ | ⟨rfl, -⟩⟩ := second_iff.1 second
  · rw [if_pos rfl] at h
    obtain ⟨rfl, rfl⟩ := Front.char.inj h
    exact ⟨_, rfl, .two second⟩
  · cases rest with
    | nil => cases h
    | cons c' rest =>
      cases third : isTail c' with
      | false => simp [third] at h
      | true =>
        simp only [third] at h
        obtain ⟨rfl, rfl⟩ := Front.char.inj h
        exact ⟨_, rfl, .three second third⟩
  · cases rest with
    | nil => cases h
    | cons c' rest =>
      cases third : isTail c' with
      | false => simp [third] at h
      | true =>
        cases rest with
        | nil => simp [third] at h
        | cons d rest =>
          cases fourth : isTail d with
          | false => simp [third, fourth] at h
          | true =>
            simp only [third, fourth] at h
            obtain ⟨rfl, rfl⟩ := Front.char.inj h
            exact ⟨_, rfl, .four second third fourth⟩

/-! ## Texts -/

theorem front_encodeChar (c : Char) : ∃ a tail, encodeChar c = a :: tail ∧
    ∀ rest, front a (tail ++ rest) = .char c tail.length := by
  have sequence := sequence_encodeChar c
  cases written : encodeChar c with
  | nil => rw [written] at sequence; cases sequence
  | cons a tail =>
    rw [written] at sequence
    refine ⟨a, tail, rfl, fun rest => ?_⟩
    rw [sequence.front_eq rest, Char.ofNat_toNat]

/-- What is taken for a character is the bytes of that character. -/
theorem encodeChar_of_front (h : front a rest = .char c extra) :
    encodeChar c = a :: rest.take extra := by
  obtain ⟨n, rfl, sequence⟩ := sequence_of_front h
  exact sequence.encodeChar_eq

/-- A text is read back from its bytes. -/
theorem decodeFrom_encode (index : Nat) (text : List Char) :
    decodeFrom index (encode text) = .ok text := by
  induction text generalizing index with
  | nil => rw [encode_nil, decodeFrom]
  | cons c text ih =>
    obtain ⟨a, tail, written, read⟩ := front_encodeChar c
    rw [encode_cons, written, List.cons_append, decodeFrom, read]
    simp only [List.drop_left, ih]
    rfl

/-- Bytes that are read are those that are written for what they are read as. -/
theorem encode_of_decodeFrom {index : Nat} (h : decodeFrom index bytes = .ok text) :
    encode text = bytes := by
  -- The induction is on the characters that are taken from the front.
  fun_induction decodeFrom index bytes generalizing text with
  | case1 index => cases h; rfl
  | case2 index a rest c extra taken ih =>
    cases decoded : decodeFrom (index + 1 + extra) (rest.drop extra) with
    | error e => rw [decoded] at h; cases h
    | ok text' =>
      rw [decoded] at h
      cases h
      rw [encode_cons, encodeChar_of_front taken, ih decoded, List.cons_append,
        List.take_append_drop]
  | case3 index a rest extra cut broken => cases h

/-- **Bytes are UTF-8 for the reader exactly if they are what is written** for the text it gives. -/
theorem decode_eq_ok_iff : decode bytes = .ok text ↔ encode text = bytes := by
  constructor
  · exact encode_of_decodeFrom
  · rintro rfl
    exact decodeFrom_encode 0 text

/-- The lossy reader loses nothing of a text. -/
theorem lossy_encode (text : List Char) : lossy (encode text) = text := by
  induction text with
  | nil => rw [encode_nil, lossy]
  | cons c text ih =>
    obtain ⟨a, tail, written, read⟩ := front_encodeChar c
    rw [encode_cons, written, List.cons_append, lossy, read]
    simp only [List.drop_left, ih]

/-! ## Bytes below 128 -/

/-- Only the first of one byte is below 128. -/
theorem Sequence.eq_of_mem (h : Sequence bytes n) (mem : b ∈ bytes) (ascii : b.toNat < 0x80) :
    bytes = [b] ∧ n = b.toNat := by
  cases h with
  | one first => cases List.mem_singleton.1 mem; exact ⟨rfl, rfl⟩
  | two second =>
    rw [second_iff] at second
    simp only [List.mem_cons, List.not_mem_nil, or_false] at mem
    rcases mem with rfl | rfl <;> omega
  | three second third =>
    rw [second_iff] at second
    rw [isTail_iff] at third
    simp only [List.mem_cons, List.not_mem_nil, or_false] at mem
    rcases mem with rfl | rfl | rfl <;> omega
  | four second third fourth =>
    rw [second_iff] at second
    rw [isTail_iff] at third fourth
    simp only [List.mem_cons, List.not_mem_nil, or_false] at mem
    rcases mem with rfl | rfl | rfl | rfl <;> omega

theorem encodeChar_of_mem (mem : b ∈ encodeChar c) (ascii : b.toNat < 0x80) :
    encodeChar c = [b] ∧ c = Char.ofNat b.toNat := by
  obtain ⟨written, number⟩ := (sequence_encodeChar c).eq_of_mem mem ascii
  exact ⟨written, by rw [← number, Char.ofNat_toNat]⟩

/-- A byte below 128 is a character of its own. -/
theorem mem_of_mem_encode (mem : b ∈ encode text) (ascii : b.toNat < 0x80) :
    Char.ofNat b.toNat ∈ text := by
  obtain ⟨c, among, mem⟩ := List.mem_flatMap.1 mem
  obtain ⟨-, rfl⟩ := encodeChar_of_mem mem ascii
  exact among

theorem head?_of_head?_encode (first : (encode text).head? = some b) (ascii : b.toNat < 0x80) :
    text.head? = some (Char.ofNat b.toNat) := by
  cases text with
  | nil => cases first
  | cons c text =>
    obtain ⟨a, tail, written, -⟩ := front_encodeChar c
    rw [encode_cons, written] at first
    cases first
    obtain ⟨-, rfl⟩ := encodeChar_of_mem (written ▸ List.mem_cons_self) ascii
    rfl

end DatagramTunnel.Text.Utf8
