import DatagramTunnel.Address
import DatagramTunnel.Proofs.Ip.V6

/-!
# The look over a text is exact

`Address.ofText` looks over a text before it tries the readers of IP addresses, and tries only those
that the look leaves possible. `ofText_eq` says that this makes no difference: it comes to the same
as trying both readers on every text. What the look adds is the word on hostnames. A text whose
colon the look gets to (`ColonSeen`) is none; every other text that is no IP address is one, if the
length field can count it.
-/

namespace DatagramTunnel.Address

open Text

variable {text front : List Char} {seen : Shape} {c : Char}

/-! ## The look -/

/-- Whether a look goes on after a character, points apart. -/
def Plain (c : Char) : Prop := c = '.' ∨ Numeral.isHexDigit c = true

theorem not_plain_colon : ¬ Plain ':' := by
  rintro (⟨⟨⟩⟩ | ⟨⟨⟩⟩)

/-- What is seen after a text that does not end the look. -/
def Shape.after (seen : Shape) (front : List Char) : Shape where
  ipv4 := seen.ipv4 && front.all fun c => c == '.' || Numeral.isDigit c
  ipv6 := seen.ipv6 && !front.contains '.'
  hostname := seen.hostname
  points := seen.points + front.count '.'

theorem Shape.after_nil (seen : Shape) : seen.after [] = seen := by simp [after]

theorem Shape.after_cons (seen : Shape) (c : Char) (front : List Char) :
    (seen.after [c]).after front = seen.after (c :: front) := by
  simp [after, List.count_cons, Bool.and_assoc, Nat.add_comm, Nat.add_left_comm]

/-- A look goes on after a hexadecimal digit, and after a point that is not the fourth. -/
theorem Shape.look_cons (plain : Plain c) (few : seen.points + [c].count '.' ≤ 3)
    (rest : List Char) : look seen (c :: rest) = look (seen.after [c]) rest := by
  have no_colon : c ≠ ':' := fun colon => not_plain_colon (colon ▸ plain)
  rw [look, if_neg no_colon]
  by_cases point : c = '.'
  · subst point
    have third : ¬ seen.points + 1 > 3 := Nat.not_lt.2 few
    rw [if_pos rfl, if_neg third]
    simp [after]
  · rw [if_neg point]
    by_cases digit : Numeral.isDigit c = true
    · rw [if_pos digit]
      simp [after, digit, point, Ne.symm point]
    · have hex : Numeral.isHexDigit c = true := plain.resolve_left point
      rw [if_neg digit, if_pos hex]
      simp [after, digit, point, Ne.symm point, beq_eq_false_iff_ne.2 point]

/-- A text of points and hexadecimal digits with at most three points does not end the look. -/
theorem Shape.look_append (plain : ∀ c ∈ front, Plain c) (few : seen.points + front.count '.' ≤ 3)
    (rest : List Char) : look seen (front ++ rest) = look (seen.after front) rest := by
  -- The points of the front are counted on top of those seen before it.
  induction front generalizing seen with
  | nil => rw [List.nil_append, after_nil]
  | cons c front ih =>
    obtain ⟨plain_head, plain⟩ := List.forall_mem_cons.1 plain
    rw [← List.singleton_append, List.count_append] at few
    rw [List.cons_append, look_cons plain_head (by omega), ih plain, after_cons]
    simp only [after]
    omega

/-- Whether a look gets to a colon: only hexadecimal digits and at most three points are in front of
the first one. -/
def ColonSeen (text : List Char) : Prop :=
  ∃ front rest, text = front ++ ':' :: rest ∧ (∀ c ∈ front, Plain c) ∧ front.count '.' ≤ 3

/-- A look that leaves no hostname got to a colon. -/
theorem Shape.colon_of_look (possible : seen.hostname = true) (few : seen.points ≤ 3)
    (h : (look seen text).hostname = false) :
    ∃ front rest, text = front ++ ':' :: rest ∧ (∀ c ∈ front, Plain c) ∧
      seen.points + front.count '.' ≤ 3 := by
  -- The induction is on the characters that the look has passed.
  induction text generalizing seen with
  | nil => rw [look, possible] at h; cases h
  | cons c text ih =>
    by_cases colon : c = ':'
    · exact ⟨[], text, by rw [colon]; rfl, nofun, few⟩
    by_cases goes_on : Plain c ∧ seen.points + [c].count '.' ≤ 3
    · obtain ⟨plain, few⟩ := goes_on
      rw [look_cons plain few] at h
      have possible : (seen.after [c]).hostname = true := possible
      obtain ⟨front, rest, rfl, plain', few'⟩ := ih possible few h
      refine ⟨c :: front, rest, rfl, List.forall_mem_cons.2 ⟨plain, plain'⟩, ?_⟩
      rw [← List.singleton_append, List.count_append, ← Nat.add_assoc]
      exact few'
    · -- The look ends here, and leaves a hostname.
      rw [look, if_neg colon] at h
      by_cases point : c = '.'
      · subst point
        have fourth : seen.points + 1 > 3 := by
          refine Nat.lt_of_not_le fun few => goes_on ⟨.inl rfl, few⟩
        rw [if_pos rfl, if_pos fourth] at h
        cases possible.symm.trans h
      · have other : ¬ Numeral.isHexDigit c = true := by
          refine fun hex => goes_on ⟨.inr hex, ?_⟩
          rw [List.count_cons_of_ne point]
          exact few
        have no_digit : ¬ Numeral.isDigit c = true :=
          fun digit => other (Numeral.isHexDigit_of_isDigit digit)
        rw [if_neg point, if_neg no_digit, if_neg other] at h
        cases possible.symm.trans h

/-- **A look leaves no hostname exactly if it gets to a colon.** -/
theorem Shape.hostname_ofText_eq_false_iff :
    (Shape.ofText text).hostname = false ↔ ColonSeen text := by
  constructor
  · intro h
    obtain ⟨front, rest, cut, plain, few⟩ := colon_of_look rfl (Nat.zero_le 3) h
    rw [Nat.zero_add] at few
    exact ⟨front, rest, cut, plain, few⟩
  · rintro ⟨front, rest, rfl, plain, few⟩
    rw [ofText, look_append plain (by simpa using few), look]
    rfl

/-- A look leaves an IPv4 address where there is one, and has seen its three points. -/
theorem Shape.ofText_of_ipv4 {a : Ipv4} (h : Ipv4.ofText? text = some a) :
    (Shape.ofText text).ipv4 = true ∧ (Shape.ofText text).points = 3 := by
  obtain ⟨points, characters⟩ := Ipv4.shape_of_ofText? h
  have plain : ∀ c ∈ text, Plain c :=
    fun c mem => (characters c mem).imp_right Numeral.isHexDigit_of_isDigit
  have three : Shape.points {} + text.count '.' = 3 := (Nat.zero_add _).trans points
  have looked : Shape.ofText text = Shape.after {} text := by
    have look := look_append plain (Nat.le_of_eq three) []
    rwa [List.append_nil] at look
  rw [looked]
  refine ⟨?_, three⟩
  simpa [after] using characters

/-- An IPv6 address has a colon, and nothing that ends the look, nor a point, is in front of it. -/
theorem lead_of_ipv6 {a : Ipv6} (h : Ipv6.ofText? text = some a) :
    ∃ lead rest, text = lead ++ ':' :: rest ∧ (∀ c ∈ lead, Plain c) ∧ '.' ∉ lead := by
  obtain ⟨lead, rest, cut, digits⟩ := Ipv6.lead_of_ofText? h
  refine ⟨lead, rest, cut, fun c mem => .inr (digits c mem), ?_⟩
  intro point
  cases digits '.' point

/-- A look leaves an IPv6 address where there is one. -/
theorem Shape.ofText_of_ipv6 {a : Ipv6} (h : Ipv6.ofText? text = some a) :
    (Shape.ofText text).ipv6 = true := by
  obtain ⟨lead, rest, rfl, plain, no_point⟩ := lead_of_ipv6 h
  have few : Shape.points {} + lead.count '.' ≤ 3 := by
    rw [List.count_eq_zero.2 no_point]
    exact Nat.zero_le 3
  rw [ofText, look_append plain few, look]
  simpa [after] using no_point

/-- A part that has a colon has the first colon of the whole. -/
theorem ColonSeen.of_prefix {host : List Char} (seen : ColonSeen text) (part : host <+: text)
    (colon : ':' ∈ host) : ColonSeen host := by
  obtain ⟨more, rfl⟩ := part
  obtain ⟨front, rest, cut, plain, few⟩ := seen
  have clear : ':' ∉ front := fun colon => not_plain_colon (plain ':' colon)
  -- Both texts have a first colon, and what is in front of it does not depend on what comes behind.
  cases own : splitFirst ':' host with
  | none => exact absurd colon (splitFirst_eq_none_iff.1 own)
  | some found =>
    obtain ⟨front', rest'⟩ := found
    obtain ⟨rfl, clear'⟩ := splitFirst_eq_some_iff.1 own
    have same := splitFirst_append clear' (rest' ++ more)
    rw [← List.cons_append, ← List.append_assoc, cut, splitFirst_append clear] at same
    cases same
    exact ⟨front, rest', rfl, plain, few⟩

/-- A look gets to the first colon of an IPv6 address. -/
theorem colonSeen_of_ipv6 {a : Ipv6} (h : Ipv6.ofText? text = some a) : ColonSeen text := by
  obtain ⟨lead, rest, cut, plain, no_point⟩ := lead_of_ipv6 h
  refine ⟨lead, rest, cut, plain, ?_⟩
  rw [List.count_eq_zero.2 no_point]
  exact Nat.zero_le 3

/-! ## Addresses -/

/-- **Trying only what the look leaves is trying everything.** -/
theorem ofText_eq (text : List Char) :
    ofText text = match Ipv4.ofText? text with
      | some a => .ok (.ipv4 a)
      | none => match Ipv6.ofText? text with
        | some a => .ok (.ipv6 a)
        | none =>
          if (Shape.ofText text).hostname then ofHostname (Utf8.encode text)
          else .error (.unparsable text) := by
  -- Where the look rules an address out, its reader does not read one.
  have tried4 : (if (Shape.ofText text).ipv4 && (Shape.ofText text).points == 3
      then Ipv4.ofText? text else none) = Ipv4.ofText? text := by
    cases read : Ipv4.ofText? text with
    | none => rw [ite_self]
    | some a =>
      obtain ⟨possible, points⟩ := Shape.ofText_of_ipv4 read
      rw [possible, points]
      rfl
  have tried6 : (if (Shape.ofText text).ipv6 then Ipv6.ofText? text else none) =
      Ipv6.ofText? text := by
    cases read : Ipv6.ofText? text with
    | none => rw [ite_self]
    | some a => rw [Shape.ofText_of_ipv6 read]; rfl
  rewrite [ofText, tried4, tried6]
  cases Ipv4.ofText? text with
  | some a => rfl
  | none => cases Ipv6.ofText? text <;> rfl

/-- A text with a colon is no IPv4 address. -/
theorem ipv4_of_colon (colon : ':' ∈ text) : Ipv4.ofText? text = none := by
  cases read : Ipv4.ofText? text with
  | none => rfl
  | some a => rcases (Ipv4.shape_of_ofText? read).2 ':' colon with ⟨⟨⟩⟩ | ⟨⟨⟩⟩

/-- A text without a colon is no IPv6 address. -/
theorem ipv6_of_no_colon (clear : ':' ∉ text) : Ipv6.ofText? text = none := by
  cases read : Ipv6.ofText? text with
  | none => rfl
  | some a =>
    obtain ⟨lead, rest, rfl, -⟩ := Ipv6.lead_of_ofText? read
    simp at clear

theorem ofText_of_ipv4 {a : Ipv4} (h : Ipv4.ofText? text = some a) :
    ofText text = .ok (.ipv4 a) := by
  rw [ofText_eq, h]

theorem ofText_of_ipv6 {a : Ipv6} (h : Ipv6.ofText? text = some a) :
    ofText text = .ok (.ipv6 a) := by
  obtain ⟨lead, rest, rfl, -⟩ := Ipv6.lead_of_ofText? h
  rw [ofText_eq, ipv4_of_colon (by simp), h]

/-- A hostname has one to 255 bytes; any other number of bytes is refused. -/
theorem ofHostname_eq (name : List UInt8) :
    ofHostname name =
      if 1 ≤ name.length ∧ name.length ≤ 255 then .ok (.hostname name)
      else .error (if name.length = 0 then .empty else .tooLong name.length) := by
  have limit : maxHostnameLength = 255 := rfl
  by_cases no_byte : name.length = 0
  · rw [ofHostname, fault?, if_pos no_byte, if_neg (by omega), if_pos no_byte]
  · by_cases long : name.length > maxHostnameLength
    · rw [ofHostname, fault?, if_neg no_byte, if_pos long, if_neg (by omega), if_neg no_byte]
    · rw [ofHostname, fault?, if_neg no_byte, if_neg long, if_pos (by omega)]

theorem eq_of_ofHostname {name : List UInt8} {address : Address}
    (h : ofHostname name = .ok address) : address = .hostname name := by
  rw [ofHostname_eq] at h
  split at h
  · cases h; rfl
  · cases h

/-- **What a text comes to**: an IP address, or a hostname, or nothing if the look gets to a
colon. -/
theorem ofText_cases (text : List Char) :
    (∃ a, Ipv4.ofText? text = some a ∧ ofText text = .ok (.ipv4 a)) ∨
    (∃ a, Ipv6.ofText? text = some a ∧ ofText text = .ok (.ipv6 a)) ∨
    (Ipv4.ofText? text = none ∧ Ipv6.ofText? text = none ∧
      ((¬ ColonSeen text ∧ ofText text = ofHostname (Utf8.encode text)) ∨
        (ColonSeen text ∧ ofText text = .error (.unparsable text)))) := by
  cases read4 : Ipv4.ofText? text with
  | some a => exact .inl ⟨a, rfl, ofText_of_ipv4 read4⟩
  | none =>
    cases read6 : Ipv6.ofText? text with
    | some a => exact .inr (.inl ⟨a, rfl, ofText_of_ipv6 read6⟩)
    | none =>
      have comes_to := ofText_eq text
      simp only [read4, read6] at comes_to
      refine .inr (.inr ⟨rfl, rfl, ?_⟩)
      rw [comes_to, ← Shape.hostname_ofText_eq_false_iff]
      cases (Shape.ofText text).hostname with
      | false => exact .inr ⟨rfl, rfl⟩
      | true => exact .inl ⟨nofun, rfl⟩

/-- A text is an IPv6 address exactly if the reader of these reads it. -/
theorem ofText_eq_ipv6_iff {a : Ipv6} :
    ofText text = .ok (.ipv6 a) ↔ Ipv6.ofText? text = some a := by
  refine ⟨fun found => ?_, ofText_of_ipv6⟩
  rcases ofText_cases text with ⟨a', -, other⟩ | ⟨a', read, same⟩ |
    ⟨-, -, ⟨-, other⟩ | ⟨-, other⟩⟩
  · cases other.symm.trans found
  · cases same.symm.trans found
    exact read
  · cases eq_of_ofHostname (other.symm.trans found)
  · cases other.symm.trans found

/-- A text whose colon the look gets to is an IPv6 address, or is refused. -/
theorem ofText_of_colonSeen (seen : ColonSeen text) :
    ofText text = match Ipv6.ofText? text with
      | some a => .ok (.ipv6 a)
      | none => .error (.unparsable text) := by
  have colon : ':' ∈ text := by
    obtain ⟨front, rest, rfl, -⟩ := seen
    simp
  rw [ofText_eq, ipv4_of_colon colon, Shape.hostname_ofText_eq_false_iff.2 seen]
  cases Ipv6.ofText? text <;> rfl

/-- A hostname that is read is the bytes of its text, and the look did not get to a colon. -/
theorem eq_encode_of_ofText {name : List UInt8} (h : ofText text = .ok (.hostname name)) :
    ¬ ColonSeen text ∧ Utf8.encode text = name := by
  rcases ofText_cases text with ⟨a, -, found⟩ | ⟨a, -, found⟩ |
    ⟨-, -, ⟨hidden, found⟩ | ⟨-, found⟩⟩ <;> rw [found] at h
  · cases h
  · cases h
  · cases eq_of_ofHostname h
    exact ⟨hidden, rfl⟩
  · cases h

/-- **What a text is.** It is the IPv4 address, or the IPv6 address, that the reader of these gives,
and only then. A text without a colon that is no IPv4 address is a hostname of its bytes if there
are 1 to 255 of them, and is refused otherwise. -/
theorem ofText_classifies (text : List Char) :
    (∀ a, ofText text = .ok (.ipv4 a) ↔ Ipv4.ofText? text = some a) ∧
    (∀ a, ofText text = .ok (.ipv6 a) ↔ Ipv6.ofText? text = some a) ∧
    (':' ∉ text → Ipv4.ofText? text = none →
      let name := Utf8.encode text
      ofText text =
        if 1 ≤ name.length ∧ name.length ≤ 255 then .ok (.hostname name)
        else .error (if name.length = 0 then .empty else .tooLong name.length)) := by
  refine ⟨fun a => ⟨?_, ofText_of_ipv4⟩, fun a => ⟨?_, ofText_of_ipv6⟩, ?_⟩
  · intro h
    rcases ofText_cases text with ⟨a', read, found⟩ | ⟨a', -, found⟩ |
      ⟨-, -, ⟨-, found⟩ | ⟨-, found⟩⟩ <;> rw [found] at h
    · cases h; exact read
    · cases h
    · cases eq_of_ofHostname h
    · cases h
  · intro h
    rcases ofText_cases text with ⟨a', -, found⟩ | ⟨a', read, found⟩ |
      ⟨-, -, ⟨-, found⟩ | ⟨-, found⟩⟩ <;> rw [found] at h
    · cases h
    · cases h; exact read
    · cases eq_of_ofHostname h
    · cases h
  · intro clear no_ipv4 name
    have hidden : ¬ ColonSeen text := by
      rintro ⟨front, rest, rfl, -⟩
      simp at clear
    rcases ofText_cases text with ⟨a, read, -⟩ | ⟨a, read, -⟩ |
      ⟨-, -, ⟨-, found⟩ | ⟨seen, -⟩⟩
    · cases no_ipv4.symm.trans read
    · cases (ipv6_of_no_colon clear).symm.trans read
    · rw [found, ofHostname_eq]
    · exact absurd seen hidden

/-- A text with a point too many is a hostname. -/
theorem five_numbers_are_hostname :
    ':' ∉ "1.2.3.4.5".toList ∧ Ipv4.ofText? "1.2.3.4.5".toList = none ∧
      ofText "1.2.3.4.5".toList = .ok (.hostname [49, 46, 50, 46, 51, 46, 52, 46, 53]) := by
  have clear : ':' ∉ "1.2.3.4.5".toList := by decide
  have no_ipv4 : Ipv4.ofText? "1.2.3.4.5".toList = none := by decide
  obtain ⟨-, -, host⟩ := ofText_classifies "1.2.3.4.5".toList
  exact ⟨clear, no_ipv4, host clear no_ipv4⟩

end DatagramTunnel.Address
