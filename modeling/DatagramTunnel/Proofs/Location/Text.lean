import DatagramTunnel.Proofs.Address
import DatagramTunnel.Proofs.Location.Demand
import DatagramTunnel.Proofs.Text.Utf8

/-!
# Locations are read back from their text

A text is cut into a host and a port (`Parts.ofText`), and a location is made of them
(`ofParts_eq_ok_iff`). A text that gives a hostname starts with it, and not with a bracket
(`host_of_ofChars`). So a hostname has a colon only if the look over its text does not get to the
colon: `colon_seen_bars_hostname`.

In the other direction, the text of a location is cut into its host and its port again. Which
locations are read back from their text is told by `render_reads_back_iff`.
-/

namespace DatagramTunnel.Location

open Text

variable {text host port : List Char} {default : Option UInt16} {number : UInt16} {l : Location}
  {parts : Parts}

/-! ## Reading -/

theorem new_eq_ok_iff {address : Address} :
    new address number = .ok l ↔ l.address = address ∧ l.port = number := by
  constructor
  · intro h
    unfold new at h
    split at h
    · cases h
    · cases h; exact ⟨rfl, rfl⟩
  · rintro ⟨rfl, rfl⟩
    exact new_of_fits l.address_fits l.port

/-- Parts whose host is not read make no location. -/
theorem ofParts_of_unread {fault : HostFault} (unread : Address.ofText parts.host = .error fault) :
    ofParts text parts = .error fault := by
  unfold ofParts
  split
  · next other found => exact congrArg Except.error (Except.error.inj (found.symm.trans unread))
  · next address found => cases found.symm.trans unread

/-- **When the parts of a text make a location.** -/
theorem ofParts_eq_ok_iff :
    ofParts text parts = .ok l ↔
      Address.ofText parts.host = .ok l.address ∧
        (parts.needsIpv6 = true → l.address.isIpv6 = true) ∧ parts.port = some l.port := by
  unfold ofParts
  split
  · next fault found => simp only [found, reduceCtorEq, false_and]
  · next address found =>
    simp only [found, Except.ok.injEq]
    by_cases refused : (parts.needsIpv6 && !address.isIpv6) = true
    · rw [if_pos refused]
      simp only [Bool.and_eq_true, Bool.not_eq_true'] at refused
      constructor
      · intro same
        cases same
      · rintro ⟨rfl, ipv6, -⟩
        cases (ipv6 refused.1).symm.trans refused.2
    · rw [if_neg refused]
      have allowed : parts.needsIpv6 = true → address.isIpv6 = true := by
        intro needed
        simpa [needed] using refused
      cases parts.port with
      | none => simp
      | some number =>
        obtain ⟨host, port, fits⟩ := l
        simp only [Except.ok.injEq, Location.mk.injEq, Option.some.injEq]
        constructor
        · rintro ⟨rfl, rfl⟩
          exact ⟨rfl, allowed, rfl⟩
        · rintro ⟨rfl, -, rfl⟩
          exact ⟨rfl, rfl⟩

/-- A text that does not start with a bracket is cut at its last colon. -/
theorem Parts.ofText_of_plain (plain : text.head? ≠ some '[') (default : Option UInt16) :
    Parts.ofText text default = match splitLast ':' text with
      | none => .ok ⟨text, default, false⟩
      | some (host, tail) => match Numeral.readWord16 tail with
        | .ok number => .ok ⟨host, some number, false⟩
        | .error _ => .ok ⟨text, default, true⟩ := by
  unfold Parts.ofText
  split
  · exact absurd rfl plain
  · rfl

/-- A host in front of the last colon, and a port behind it. -/
theorem Parts.ofText_of_port (plain : (host ++ ':' :: port).head? ≠ some '[') (clear : ':' ∉ port)
    (read : Numeral.readWord16 port = .ok number) (default : Option UInt16) :
    Parts.ofText (host ++ ':' :: port) default = .ok ⟨host, some number, false⟩ := by
  rw [ofText_of_plain plain, splitLast_append host clear]
  simp only [read]

/-- A host between brackets, and a port behind them. -/
theorem Parts.ofText_of_brackets (clear : ']' ∉ host)
    (read : Numeral.readWord16 port = .ok number) (default : Option UInt16) :
    Parts.ofText ('[' :: host ++ ']' :: ':' :: port) default = .ok ⟨host, some number, true⟩ := by
  rw [List.cons_append, Parts.ofText, splitFirst_append clear]
  simp only [afterBracket, portOfText, read]
  rfl

/-- A text whose host may be a hostname starts with the host, and not with a bracket. -/
theorem Parts.host_of_ofText (cut : Parts.ofText text default = .ok parts)
    (any : parts.needsIpv6 = false) : text.head? ≠ some '[' ∧ parts.host <+: text := by
  by_cases plain : text.head? = some '['
  · obtain ⟨inner, rfl⟩ : ∃ inner, text = '[' :: inner := List.head?_eq_some_iff.1 plain
    rw [Parts.ofText] at cut
    split at cut
    · cases cut
    · next host tail _ =>
      -- Brackets ask for an IPv6 address, whatever is behind them.
      cases after : afterBracket ('[' :: inner) default tail with
      | error fault => rw [after] at cut; cases cut
      | ok port => rw [after] at cut; cases cut; cases any
  · refine ⟨plain, ?_⟩
    rw [ofText_of_plain plain] at cut
    split at cut
    · cases cut
      exact List.prefix_rfl
    · next host tail found =>
      split at cut
      · cases cut
        obtain ⟨rfl, -⟩ := splitLast_eq_some_iff.1 found
        exact List.prefix_append host (':' :: tail)
      · cases cut
        cases any

/-- **What a text with a hostname tells**: it starts with the text of the hostname. -/
theorem host_of_ofChars {name : List UInt8} (read : ofChars text default = .ok l)
    (named : l.address = .hostname name) :
    text.head? ≠ some '[' ∧ ∃ host, host <+: text ∧ Address.ofText host = .ok (.hostname name) := by
  cases cut : Parts.ofText text default with
  | error fault => rw [ofChars, cut] at read; cases read
  | ok parts =>
    rw [ofChars, cut] at read
    obtain ⟨address, ipv6, -⟩ := ofParts_eq_ok_iff.1 read
    have any : parts.needsIpv6 = false := by
      rw [← Bool.not_eq_true]
      intro needed
      have ipv6 := ipv6 needed
      rw [named] at ipv6
      cases ipv6
    obtain ⟨plain, front⟩ := Parts.host_of_ofText cut any
    exact ⟨plain, parts.host, front, named ▸ address⟩

/-! ## Hosts with a colon -/

/-- **When a text with a colon is a hostname.** If the look over the text gets to its first colon,
the text is an IPv6 address or is refused. If it does not, since four points or another character
than a point or a hexadecimal digit are in front of the colon, the text is a hostname. So a location
has a hostname with a colon only if the look over its text does not get to the first colon. -/
theorem colon_seen_bars_hostname (text : List Char) :
    (':' ∈ text →
      (Address.ColonSeen text → Address.ofText text = match Ipv6.ofText? text with
        | some a => .ok (.ipv6 a)
        | none => .error (.unparsable text)) ∧
      (¬ Address.ColonSeen text → Address.ofText text = Address.ofHostname (Utf8.encode text))) ∧
    ∀ default l name, ofChars text default = .ok l → l.address = .hostname name →
      0x3A ∈ name → ':' ∈ text ∧ ¬ Address.ColonSeen text := by
  constructor
  · intro colon
    have no_ipv4 := Address.ipv4_of_colon colon
    rcases Address.ofText_cases text with ⟨a, read, -⟩ | ⟨a, read, found⟩ |
      ⟨-, no_ipv6, ⟨hidden, found⟩ | ⟨seen, found⟩⟩
    · cases no_ipv4.symm.trans read
    · refine ⟨fun _ => by rw [found, read], fun hidden => absurd ?_ hidden⟩
      exact Address.colonSeen_of_ipv6 read
    · exact ⟨fun seen => absurd seen hidden, fun _ => found⟩
    · exact ⟨fun _ => by rw [found, no_ipv6], fun hidden => absurd seen hidden⟩
  · intro default l name read named colon
    obtain ⟨-, host, front, found⟩ := host_of_ofChars read named
    obtain ⟨hidden, rfl⟩ := Address.eq_encode_of_ofText found
    -- A colon among the bytes is a colon of the text, since no other character has a byte below
    -- 128.
    have colon : ':' ∈ host := Utf8.mem_of_mem_encode colon (by decide)
    exact ⟨front.subset colon, fun seen => hidden (seen.of_prefix front colon)⟩

/-- A colon behind a digit bars a hostname; a letter in front of it hides it from the look. -/
theorem letter_hides_colon :
    (Address.ColonSeen "1:2".toList ∧
      Address.ofText "1:2".toList = .error (.unparsable "1:2".toList)) ∧
    (¬ Address.ColonSeen "g:1".toList ∧
      Address.ofText "g:1".toList = Address.ofHostname (Utf8.encode "g:1".toList)) ∧
    ¬ Address.ColonSeen "g:1:53".toList := by
  have seen : Address.ColonSeen "1:2".toList :=
    Address.Shape.hostname_ofText_eq_false_iff.1 rfl
  have hidden : ¬ Address.ColonSeen "g:1".toList := fun seen => by
    cases Address.Shape.hostname_ofText_eq_false_iff.2 seen
  have found : ofChars "g:1:53".toList none = .ok ⟨.hostname [0x67, 0x3A, 0x31], 53, rfl⟩ := rfl
  obtain ⟨digit, -⟩ := colon_seen_bars_hostname "1:2".toList
  obtain ⟨letter, -⟩ := colon_seen_bars_hostname "g:1".toList
  obtain ⟨-, location⟩ := colon_seen_bars_hostname "g:1:53".toList
  obtain ⟨-, still_hidden⟩ := location none _ _ found rfl (by decide)
  exact ⟨⟨seen, (digit (by decide)).1 seen⟩, ⟨hidden, (letter (by decide)).2 hidden⟩, still_hidden⟩

/-- A text with a colon that is read as a hostname, and so is the host of a location. -/
theorem colon_behind_letter_is_hostname :
    ':' ∈ "g:1".toList ∧ Address.ofText "g:1".toList = .ok (.hostname [0x67, 0x3A, 0x31]) ∧
      ∃ l name, ofText "g:1:53" none = .ok l ∧ l.address = .hostname name ∧ 0x3A ∈ name :=
  ⟨by decide, rfl, ⟨.hostname [0x67, 0x3A, 0x31], 53, rfl⟩, [0x67, 0x3A, 0x31], rfl, rfl, by decide⟩

/-! ## Texts of locations -/

/-- A host in front of a written port is read with that port. -/
theorem ofChars_port_iff (plain : host.head? ≠ some '[') (default : Option UInt16) :
    ofChars (host ++ ':' :: Numeral.decimal l.port.toNat) default = .ok l ↔
      Address.ofText host = .ok l.address := by
  have clear : ':' ∉ Numeral.decimal l.port.toNat := Numeral.not_mem_decimal rfl _
  have no_bracket : (host ++ ':' :: Numeral.decimal l.port.toNat).head? ≠ some '[' := by
    cases host with
    | nil => exact nofun
    | cons c host => exact plain
  have cut := Parts.ofText_of_port no_bracket clear (Numeral.readWord16_decimal l.port) default
  rw [ofChars, cut]
  show ofParts _ _ = _ ↔ _
  rw [ofParts_eq_ok_iff]
  simp

/-- A text of an IPv4 address and a port is read. -/
theorem ofChars_renderChars_of_ipv4 {a : Ipv4} (known : l.address = .ipv4 a)
    (default : Option UInt16) : ofChars l.renderChars default = .ok l := by
  have read : Ipv4.ofText? a.render = some a := Ipv4.ofText?_render a
  have plain : a.render.head? ≠ some '[' := by
    intro bracket
    rcases (Ipv4.shape_of_ofText? read).2 '[' (List.mem_of_head? bracket) with ⟨⟨⟩⟩ | ⟨⟨⟩⟩
  have found : Address.ofText a.render = .ok l.address := by
    rw [known]
    exact Address.ofText_of_ipv4 read
  have text : l.renderChars = a.render ++ ':' :: Numeral.decimal l.port.toNat := by
    rw [renderChars, known]
    rfl
  rw [text]
  exact (ofChars_port_iff plain default).2 found

/-- A text of an IPv6 address in brackets and a port is read. -/
theorem ofChars_renderChars_of_ipv6 {a : Ipv6} (known : l.address = .ipv6 a)
    (default : Option UInt16) : ofChars l.renderChars default = .ok l := by
  have clear : ']' ∉ a.render := by
    intro bracket
    rcases Ipv6.mem_render bracket with ⟨⟨⟩⟩ | ⟨⟨⟩⟩ | ⟨⟨⟩⟩
  have found : Address.ofText a.render = .ok l.address := by
    rw [known]
    exact Address.ofText_of_ipv6 (Ipv6.ofText?_render a)
  have text : l.renderChars = '[' :: a.render ++ ']' :: ':' :: Numeral.decimal l.port.toNat := by
    rw [renderChars, known]
  have cut := Parts.ofText_of_brackets clear (Numeral.readWord16_decimal l.port) default
  rw [text, ofChars, cut]
  refine ofParts_eq_ok_iff.2 ⟨found, fun _ => ?_, rfl⟩
  rw [known]
  rfl

/-- The bytes of a text start with a bracket exactly if the text does. -/
theorem head?_encode_bracket_iff :
    (Utf8.encode text).head? = some 0x5B ↔ text.head? = some '[' := by
  constructor
  · intro first
    exact Utf8.head?_of_head?_encode first (by decide)
  · intro first
    obtain ⟨rest, rfl⟩ := List.head?_eq_some_iff.1 first
    rfl

/-- **When the text of a hostname and a port is read back**: the hostname has to be UTF-8, must not
look like a bracket, and has to be what its text is read as. -/
theorem ofChars_renderChars_of_hostname_iff {name : List UInt8} (known : l.address = .hostname name)
    (default : Option UInt16) :
    ofChars l.renderChars default = .ok l ↔ ∃ host, Utf8.decode name = .ok host ∧
      name.head? ≠ some 0x5B ∧ Address.ofText host = .ok (.hostname name) := by
  have text : l.renderChars = Utf8.lossy name ++ ':' :: Numeral.decimal l.port.toNat := by
    rw [renderChars, known]
    rfl
  rw [text]
  constructor
  · intro read
    -- A text that starts with a bracket never gives a hostname.
    obtain ⟨no_bracket, -⟩ := host_of_ofChars read known
    have plain : (Utf8.lossy name).head? ≠ some '[' := by
      intro bracket
      obtain ⟨rest, host⟩ := List.head?_eq_some_iff.1 bracket
      exact no_bracket (by rw [host]; rfl)
    have found := (ofChars_port_iff plain default).1 read
    rw [known] at found
    obtain ⟨-, bytes⟩ := Address.eq_encode_of_ofText found
    refine ⟨Utf8.lossy name, Utf8.decode_eq_ok_iff.2 bytes, ?_, found⟩
    rwa [← bytes, ne_eq, head?_encode_bracket_iff]
  · rintro ⟨host, decoded, first, found⟩
    have bytes : Utf8.encode host = name := Utf8.decode_eq_ok_iff.1 decoded
    have shown : Utf8.lossy name = host := by rw [← bytes, Utf8.lossy_encode]
    have plain : host.head? ≠ some '[' := by
      rwa [← bytes, ne_eq, head?_encode_bracket_iff] at first
    rw [← known] at found
    rw [shown]
    exact (ofChars_port_iff plain default).2 found

/-- **Which locations are read back from their text.** All locations of IPv4 and IPv6 addresses are,
with any port. A location of a hostname is exactly if the hostname is UTF-8, does not start with a
bracket, and is itself what its text is read as; so not if it looks like an IP address. -/
theorem render_reads_back_iff (l : Location) :
    ofText l.render none = .ok l ↔
      (∃ a, l.address = .ipv4 a) ∨ (∃ a, l.address = .ipv6 a) ∨
        ∃ name host, l.address = .hostname name ∧ Utf8.decode name = .ok host ∧
          name.head? ≠ some 0x5B ∧ Address.ofText host = .ok (.hostname name) := by
  rw [ofText, render, String.toList_ofList]
  cases known : l.address with
  | ipv4 a => exact iff_of_true (ofChars_renderChars_of_ipv4 known none) (.inl ⟨a, rfl⟩)
  | ipv6 a => exact iff_of_true (ofChars_renderChars_of_ipv6 known none) (.inr (.inl ⟨a, rfl⟩))
  | hostname name =>
    rw [ofChars_renderChars_of_hostname_iff known]
    constructor
    · rintro ⟨host, decoded, first, found⟩
      exact .inr (.inr ⟨name, host, rfl, decoded, first, found⟩)
    · rintro (⟨a, ⟨⟩⟩ | ⟨a, ⟨⟩⟩ | ⟨name, host, ⟨⟩, decoded, first, found⟩)
      exact ⟨host, decoded, first, found⟩

end DatagramTunnel.Location
