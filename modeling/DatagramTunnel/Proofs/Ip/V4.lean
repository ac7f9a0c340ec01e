import DatagramTunnel.Ip.V4
import DatagramTunnel.Proofs.Text.Cut
import DatagramTunnel.Proofs.Text.Numeral

/-!
# IPv4 addresses are read back

Every IPv4 address is read back from its text (`ofText?_render`). Any text that is read is made of
digits and just three points (`shape_of_ofText?`).
-/

namespace DatagramTunnel.Ipv4

open Text

variable {text part : List Char} {octets : List UInt8} {b : UInt8}

/-! ## Bytes -/

/-- A byte is read back from its text, which has at most three digits and no leading zero. -/
theorem octet?_decimal (b : UInt8) : octet? (Numeral.decimal b.toNat) = some b := by
  have small : b.toNat < 256 := b.toNat_lt
  have short : (Numeral.decimal b.toNat).length ≤ 3 :=
    Numeral.decimal_positional.length_le 2 b.toNat (Nat.lt_trans small (by decide))
  have plain : ¬ ((Numeral.decimal b.toNat).length > 1 ∧
      (Numeral.decimal b.toNat).head? = some '0') := by
    rintro ⟨long, zero⟩
    -- Only zero is written with a zero in front, and that is one digit long.
    by_cases pos : b.toNat = 0
    · rw [pos, Numeral.decimal] at long
      exact absurd long (by decide)
    · exact Numeral.decimal_positional.head?_ne_zero b.toNat pos zero
  have read : Numeral.read 10 255 (Numeral.decimal b.toNat) = .ok b.toNat :=
    Numeral.decimal_positional.read_eq (Nat.le_of_lt_succ small)
  rw [octet?, if_neg (not_or.2 ⟨by omega, plain⟩), read]
  exact congrArg some (UInt8.ofNat_toNat)

/-- The text of a byte is digits. -/
theorem digits_of_octet? (h : octet? part = some b) : ∀ c ∈ part, Numeral.isDigit c = true := by
  rw [octet?] at h
  split at h
  · cases h
  · split at h
    · next n read =>
      intro c mem
      exact Numeral.isDigit_iff.2 ((Numeral.digits_of_read read).2 c mem)
    · cases h

/-- Texts of which each is read as a byte. -/
theorem mapM_octet? {parts : List (List Char)} (h : parts.mapM octet? = some octets) :
    octets.length = parts.length ∧ ∀ part ∈ parts, ∃ b, octet? part = some b := by
  induction parts generalizing octets with
  | nil =>
    cases h
    exact ⟨rfl, nofun⟩
  | cons part parts ih =>
    rw [List.mapM_cons] at h
    cases first : octet? part with
    | none => rw [first] at h; cases h
    | some b =>
      cases others : parts.mapM octet? with
      | none => rw [first, others] at h; cases h
      | some octets' =>
        rw [first, others] at h
        cases h
        obtain ⟨length, read⟩ := ih others
        refine ⟨congrArg (· + 1) length, List.forall_mem_cons.2 ⟨⟨b, first⟩, read⟩⟩

/-! ## Addresses -/

/-- **Four bytes are read back from their text.** -/
theorem ofText?_renderOctets (length : octets.length = 4) :
    ofText? (renderOctets octets) = some ⟨octets, length⟩ := by
  have parts : fields '.' (renderOctets octets) =
      octets.map fun b => Numeral.decimal b.toNat := by
    refine fields_join ?_ ?_
    · intro none_there
      rw [List.map_eq_nil_iff.1 none_there] at length
      cases length
    · intro part mem
      obtain ⟨b, -, rfl⟩ := List.mem_map.1 mem
      exact Numeral.not_mem_decimal rfl _
  have bytes : (octets.map fun b => Numeral.decimal b.toNat).mapM octet? = some octets := by
    have read : (fun b : UInt8 => octet? (Numeral.decimal b.toNat)) = fun b => pure b :=
      funext octet?_decimal
    rw [List.mapM_map]
    show octets.mapM (fun b => octet? (Numeral.decimal b.toNat)) = some octets
    rw [read, List.mapM_pure, List.map_id']
    rfl
  rw [ofText?, parts, bytes]
  exact dif_pos length

/-- **Every IPv4 address is read back from its text.** -/
theorem ofText?_render (a : Ipv4) : ofText? a.render = some a :=
  ofText?_renderOctets a.length_octets

/-- A text that is read is digits and three points. -/
theorem shape_of_ofText? {a : Ipv4} (h : ofText? text = some a) :
    text.count '.' = 3 ∧ ∀ c ∈ text, c = '.' ∨ Numeral.isDigit c = true := by
  rw [ofText?] at h
  cases bytes : (fields '.' text).mapM octet? with
  | none => rw [bytes] at h; cases h
  | some octets =>
    rw [bytes] at h
    obtain ⟨length, read⟩ := mapM_octet? bytes
    have four : octets.length = 4 := (Option.dite_none_right_eq_some.1 h).1
    rw [length_fields, four] at length
    refine ⟨by omega, ?_⟩
    intro c mem
    apply (mem_fields mem).imp_right
    rintro ⟨part, among, mem⟩
    obtain ⟨b, read⟩ := read part among
    exact digits_of_octet? read c mem

/-- A text without points is not read. -/
theorem ofText?_of_no_point (clear : '.' ∉ text) : ofText? text = none := by
  cases read : ofText? text with
  | none => rfl
  | some a =>
    obtain ⟨points, -⟩ := shape_of_ofText? read
    rw [List.count_eq_zero.2 clear] at points
    cases points

end DatagramTunnel.Ipv4
