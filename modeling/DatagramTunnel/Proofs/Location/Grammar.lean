import DatagramTunnel.Error
import DatagramTunnel.Proofs.Location.Text

/-!
# Which texts are locations

A text gives a location in one of five forms: an IPv6 address in brackets, with a port or without;
any host with a port; and without brackets or a port, an IPv6 address, or a host that has no colon.
`Form.Reads` states each form on its own, by how the text is put together. `forms_are_the_grammar`
says that the reader accepts just these forms, that no text has two of them, and when the default
port does not matter. The reader first cuts a text (`Parts.ofText_cases`), and only then looks at
the host.

The forms of a host and a port and of an IPv6 address share the colon. `bare_ipv6_comes_to` says
which of the two the text of an IPv6 address is read in: its last group is taken for a port if it
can be one, also where no host is left in front of it (`loopback_is_refused`).
-/

namespace DatagramTunnel.Location

open Text

variable {text host tail : List Char} {default : Option UInt16} {number : UInt16} {l : Location}
  {parts : Parts} {address : Address}

/-! ## The grammar -/

/-- A form in which a text gives a location. -/
inductive Form where
  /-- An IPv6 address in brackets. -/
  | bracketed
  /-- An IPv6 address in brackets, and a port. -/
  | bracketedPort
  /-- A host and a port. -/
  | hostPort
  /-- An IPv6 address on its own. -/
  | bareIpv6
  /-- A host without a colon on its own. -/
  | bareHost
  deriving DecidableEq

/-- The text gives the address and the port in the form, if need be with the default port. -/
def Form.Reads (form : Form) (text : List Char) (default : Option UInt16) (address : Address)
    (port : UInt16) : Prop :=
  match form with
  | .bracketed => ∃ host a, text = '[' :: host ++ [']'] ∧ ']' ∉ host ∧
      Ipv6.ofText? host = some a ∧ address = .ipv6 a ∧ default = some port
  | .bracketedPort => ∃ host digits a, text = '[' :: host ++ ']' :: ':' :: digits ∧ ']' ∉ host ∧
      Ipv6.ofText? host = some a ∧ address = .ipv6 a ∧ Numeral.readWord16 digits = .ok port
  | .hostPort => text.head? ≠ some '[' ∧ ∃ host digits, text = host ++ ':' :: digits ∧
      ':' ∉ digits ∧ Numeral.readWord16 digits = .ok port ∧ Address.ofText host = .ok address
  | .bareIpv6 => text.head? ≠ some '[' ∧ ∃ before last a, text = before ++ ':' :: last ∧
      ':' ∉ last ∧ (∀ number, Numeral.readWord16 last ≠ .ok number) ∧
      Ipv6.ofText? text = some a ∧ address = .ipv6 a ∧ default = some port
  | .bareHost => text.head? ≠ some '[' ∧ ':' ∉ text ∧ Address.ofText text = .ok address ∧
      default = some port

/-- Whether a text says itself what the port is: behind a closing bracket and a colon, or behind the
last colon of a text that does not start with a bracket. -/
def GivesPort (text : List Char) : Prop :=
  (∃ host digits, text = '[' :: host ++ ']' :: ':' :: digits ∧ ']' ∉ host) ∨
  (text.head? ≠ some '[' ∧ ∃ host digits number, text = host ++ ':' :: digits ∧ ':' ∉ digits ∧
    Numeral.readWord16 digits = .ok number)

/-! ## Cutting a text -/

/-- A host between brackets on its own. -/
theorem Parts.ofText_of_brackets_only (clear : ']' ∉ host) (default : Option UInt16) :
    Parts.ofText ('[' :: host ++ [']']) default = .ok ⟨host, default, true⟩ := by
  rw [List.cons_append, Parts.ofText, splitFirst_append clear]
  rfl

/-- A text whose last colon is not in front of a port. -/
theorem Parts.ofText_of_no_port (plain : (host ++ ':' :: tail).head? ≠ some '[')
    (clear : ':' ∉ tail)
    (unread : ∀ number, Numeral.readWord16 tail ≠ .ok number) (default : Option UInt16) :
    Parts.ofText (host ++ ':' :: tail) default = .ok ⟨host ++ ':' :: tail, default, true⟩ := by
  rw [ofText_of_plain plain, splitLast_append host clear]
  cases read : Numeral.readWord16 tail with
  | ok number => exact absurd read (unread number)
  | error fault => simp only [read]

/-- A text without a colon. -/
theorem Parts.ofText_of_no_colon (plain : text.head? ≠ some '[') (clear : ':' ∉ text)
    (default : Option UInt16) : Parts.ofText text default = .ok ⟨text, default, false⟩ := by
  rw [ofText_of_plain plain, splitLast_eq_none_iff.2 clear]

/-- **How a text can be cut.** -/
theorem Parts.ofText_cases (cut : Parts.ofText text default = .ok parts) :
    (∃ host, text = '[' :: host ++ [']'] ∧ ']' ∉ host ∧ parts = ⟨host, default, true⟩) ∨
    (∃ host digits number, text = '[' :: host ++ ']' :: ':' :: digits ∧ ']' ∉ host ∧
      Numeral.readWord16 digits = .ok number ∧ parts = ⟨host, some number, true⟩) ∨
    (text.head? ≠ some '[' ∧
      ((∃ host digits number, text = host ++ ':' :: digits ∧ ':' ∉ digits ∧
        Numeral.readWord16 digits = .ok number ∧ parts = ⟨host, some number, false⟩) ∨
      (∃ before last, text = before ++ ':' :: last ∧ ':' ∉ last ∧
        (∀ number, Numeral.readWord16 last ≠ .ok number) ∧ parts = ⟨text, default, true⟩) ∨
      (':' ∉ text ∧ parts = ⟨text, default, false⟩))) := by
  by_cases plain : text.head? = some '['
  · obtain ⟨inner, rfl⟩ := List.head?_eq_some_iff.1 plain
    rw [Parts.ofText] at cut
    cases split : splitFirst ']' inner with
    | none => rw [split] at cut; cases cut
    | some found =>
      obtain ⟨host, tail⟩ := found
      obtain ⟨rfl, clear⟩ := splitFirst_eq_some_iff.1 split
      simp only [split] at cut
      -- What is behind the bracket is nothing, or a colon and a port.
      unfold afterBracket at cut
      split at cut
      · cases cut
        exact .inl ⟨host, rfl, clear, rfl⟩
      · next digits =>
        rw [portOfText] at cut
        cases read : Numeral.readWord16 digits with
        | error fault => rw [read] at cut; cases cut
        | ok number =>
          rw [read] at cut
          cases cut
          exact .inr (.inl ⟨host, digits, number, rfl, clear, read, rfl⟩)
      · cases cut
  · refine .inr (.inr ⟨plain, ?_⟩)
    rw [ofText_of_plain plain] at cut
    cases split : splitLast ':' text with
    | none =>
      rw [split] at cut
      cases cut
      exact .inr (.inr ⟨splitLast_eq_none_iff.1 split, rfl⟩)
    | some found =>
      obtain ⟨host, tail⟩ := found
      obtain ⟨together, clear⟩ := splitLast_eq_some_iff.1 split
      simp only [split] at cut
      cases read : Numeral.readWord16 tail with
      | ok number =>
        rw [read] at cut
        cases cut
        exact .inl ⟨host, tail, number, together, clear, read, rfl⟩
      | error fault =>
        rw [read] at cut
        cases cut
        refine .inr (.inl ⟨host, tail, together, clear, fun number found => ?_, rfl⟩)
        cases read.symm.trans found

/-! ## Reading a text -/

/-- When a text is read: it can be cut, and its parts make a location. -/
theorem ofChars_eq_ok_iff :
    ofChars text default = .ok l ↔ ∃ parts, Parts.ofText text default = .ok parts ∧
      Address.ofText parts.host = .ok l.address ∧
      (parts.needsIpv6 = true → l.address.isIpv6 = true) ∧ parts.port = some l.port := by
  rw [ofChars]
  cases Parts.ofText text default with
  | error fault => simp
  | ok parts => simp [ofParts_eq_ok_iff]

/-- A host that has to be an IPv6 address is read as one. -/
theorem ipv6_of_host (read : Address.ofText host = .ok address) (ipv6 : address.isIpv6 = true) :
    ∃ a, Ipv6.ofText? host = some a ∧ address = .ipv6 a := by
  cases address with
  | ipv4 a => cases ipv6
  | ipv6 a => exact ⟨a, Address.ofText_eq_ipv6_iff.1 read, rfl⟩
  | hostname name => cases ipv6

/-- **A text that is read has one of the forms.** -/
theorem form_of_ofChars (read : ofChars text default = .ok l) :
    ∃ form : Form, form.Reads text default l.address l.port := by
  obtain ⟨parts, cut, host, needed, port⟩ := ofChars_eq_ok_iff.1 read
  rcases Parts.ofText_cases cut with ⟨h, rfl, clear, rfl⟩ |
    ⟨h, digits, number, rfl, clear, q, rfl⟩ |
    ⟨plain, ⟨h, digits, number, together, clear, q, rfl⟩ |
      ⟨before, last, together, clear, no, rfl⟩ | ⟨clear, rfl⟩⟩
  · obtain ⟨a, literal, same⟩ := ipv6_of_host host (needed rfl)
    exact ⟨.bracketed, h, a, rfl, clear, literal, same, port⟩
  · obtain ⟨a, literal, same⟩ := ipv6_of_host host (needed rfl)
    cases port
    exact ⟨.bracketedPort, h, digits, a, rfl, clear, literal, same, q⟩
  · cases port
    exact ⟨.hostPort, plain, h, digits, together, clear, q, host⟩
  · obtain ⟨a, literal, same⟩ := ipv6_of_host host (needed rfl)
    exact ⟨.bareIpv6, plain, before, last, a, together, clear, no, literal, same, port⟩
  · exact ⟨.bareHost, plain, clear, host, port⟩

/-- **A text that has one of the forms is read.** -/
theorem ofChars_of_form {form : Form} (reads : form.Reads text default l.address l.port) :
    ofChars text default = .ok l := by
  refine ofChars_eq_ok_iff.2 ?_
  cases form with
  | bracketed =>
    obtain ⟨h, a, rfl, clear, literal, same, port⟩ := reads
    rw [same]
    exact ⟨_, Parts.ofText_of_brackets_only clear default, Address.ofText_of_ipv6 literal,
      fun _ => rfl, port⟩
  | bracketedPort =>
    obtain ⟨h, digits, a, rfl, clear, literal, same, q⟩ := reads
    rw [same]
    exact ⟨_, Parts.ofText_of_brackets clear q default, Address.ofText_of_ipv6 literal,
      fun _ => rfl, rfl⟩
  | hostPort =>
    obtain ⟨plain, h, digits, rfl, clear, q, host⟩ := reads
    exact ⟨_, Parts.ofText_of_port plain clear q default, host, nofun, rfl⟩
  | bareIpv6 =>
    obtain ⟨plain, before, last, a, rfl, clear, no_port, literal, same, port⟩ := reads
    rw [same]
    exact ⟨_, Parts.ofText_of_no_port plain clear no_port default, Address.ofText_of_ipv6 literal,
      fun _ => rfl, port⟩
  | bareHost =>
    obtain ⟨plain, clear, host, port⟩ := reads
    exact ⟨_, Parts.ofText_of_no_colon plain clear default, host, nofun, port⟩

/-- The length field can count every hostname that a form gives. -/
theorem Form.Reads.fits {form : Form} (reads : form.Reads text default address number) :
    address.fits = true := by
  -- Only hosts can be hostnames, and their readers have counted them.
  cases form with
  | bracketed => obtain ⟨h, a, -, -, -, rfl, -⟩ := reads; rfl
  | bracketedPort => obtain ⟨h, digits, a, -, -, -, rfl, -⟩ := reads; rfl
  | hostPort => obtain ⟨-, h, digits, -, -, -, host⟩ := reads; exact Address.fits_of_ofText host
  | bareIpv6 => obtain ⟨-, before, last, a, -, -, -, -, rfl, -⟩ := reads; rfl
  | bareHost => obtain ⟨-, -, host, -⟩ := reads; exact Address.fits_of_ofText host

/-! ## One form a text -/

/-- The only form that a text can have. -/
def Form.ofText? (text : List Char) : Option Form :=
  match text with
  | '[' :: inner => match splitFirst ']' inner with
    | none => none
    | some (_, []) => some .bracketed
    | some (_, _ :: _) => some .bracketedPort
  | _ => match splitLast ':' text with
    | none => some .bareHost
    | some (_, tail) => match Numeral.readWord16 tail with
      | .ok _ => some .hostPort
      | .error _ => some .bareIpv6

theorem Form.ofText?_of_plain (plain : text.head? ≠ some '[') :
    Form.ofText? text = match splitLast ':' text with
      | none => some .bareHost
      | some (_, tail) => match Numeral.readWord16 tail with
        | .ok _ => some .hostPort
        | .error _ => some .bareIpv6 := by
  unfold Form.ofText?
  split
  · exact absurd rfl plain
  · rfl

/-- A text that is read in a form has that form. -/
theorem Form.Reads.ofText? {form : Form} (reads : form.Reads text default address number) :
    Form.ofText? text = some form := by
  cases form with
  | bracketed =>
    obtain ⟨h, a, rfl, clear, -⟩ := reads
    rw [List.cons_append, Form.ofText?, splitFirst_append clear]
  | bracketedPort =>
    obtain ⟨h, digits, a, rfl, clear, -⟩ := reads
    rw [List.cons_append, Form.ofText?, splitFirst_append clear]
  | hostPort =>
    obtain ⟨plain, h, digits, rfl, clear, read, -⟩ := reads
    rw [Form.ofText?_of_plain plain, splitLast_append h clear]
    simp only [read]
  | bareIpv6 =>
    obtain ⟨plain, before, last, a, rfl, clear, unread, -⟩ := reads
    rw [Form.ofText?_of_plain plain, splitLast_append before clear]
    cases read : Numeral.readWord16 last with
    | ok number => exact absurd read (unread number)
    | error fault => simp only [read]
  | bareHost =>
    obtain ⟨plain, clear, -⟩ := reads
    rw [Form.ofText?_of_plain plain, splitLast_eq_none_iff.2 clear]

/-- A default port does not matter to a text that gives a port. -/
theorem ofChars_of_givesPort (gives : GivesPort text) (default default' : Option UInt16) :
    ofChars text default = ofChars text default' := by
  -- The default is looked at only where the text is cut, and there only without a port.
  have same : Parts.ofText text default = Parts.ofText text default' := by
    rcases gives with ⟨host, digits, rfl, clear⟩ | ⟨plain, host, digits, number, rfl, clear, read⟩
    · rw [List.cons_append, Parts.ofText, Parts.ofText, splitFirst_append clear]
      rfl
    · rw [Parts.ofText_of_port plain clear read, Parts.ofText_of_port plain clear read]
  rw [ofChars, ofChars, same]

/-- **The forms are the grammar of locations.** A text is read as an address and a port exactly if
it gives them in one of the forms; every other text is refused as an invalid hostname. The forms
exclude each other, whatever they give. The default port does not matter to a text that gives a
port, whether or not it is read. -/
theorem forms_are_the_grammar (text : String) :
    (∀ default address port,
      (∃ l, ofText text default = .ok l ∧ l.address = address ∧ l.port = port) ↔
        ∃ form : Form, form.Reads text.toList default address port) ∧
    (∀ default, (¬ ∃ (form : Form) (address : Address) (port : UInt16),
        form.Reads text.toList default address port) →
      ∃ fault, (ofText text default).mapError Error.invalidHostname =
        .error (.invalidHostname fault)) ∧
    (∀ (form form' : Form) default default' address address' port port',
      form.Reads text.toList default address port →
      form'.Reads text.toList default' address' port' → form = form') ∧
    (GivesPort text.toList → ∀ default default', ofText text default = ofText text default') := by
  refine ⟨fun default address port => ⟨?_, ?_⟩, ?_, ?_, ofChars_of_givesPort⟩
  · rintro ⟨l, read, rfl, rfl⟩
    exact form_of_ofChars read
  · rintro ⟨form, reads⟩
    have fits : address.fits = true := reads.fits
    exact ⟨⟨address, port, fits⟩, ofChars_of_form reads, rfl, rfl⟩
  · intro default none_reads
    cases read : ofText text default with
    | error fault => exact ⟨fault, rfl⟩
    | ok l =>
      obtain ⟨form, reads⟩ := form_of_ofChars read
      exact absurd ⟨form, _, _, reads⟩ none_reads
  · -- Both are the form that the text itself tells.
    intro form form' default default' address address' port port' reads reads'
    exact Option.some.inj (reads.ofText?.symm.trans reads'.ofText?)

/-- A text that is an IPv6 address as a whole, but ends like a port, has one form: a host and a
port. An IPv4 address in brackets has none, and is refused. -/
theorem last_group_is_port :
    let a : Ipv6 := ⟨[0, 1, 0, 0, 0, 0, 0, 0, 0, 0, 0, 0, 0, 0, 0, 2], rfl⟩
    GivesPort "1::2:3".toList ∧ Form.hostPort.Reads "1::2:3".toList none (.ipv6 a) 3 ∧
    (∀ (form : Form) default address port,
      form.Reads "1::2:3".toList default address port → form = .hostPort) ∧
    (∀ default, ∃ l, ofText "1::2:3" default = .ok l ∧ l.address = .ipv6 a ∧ l.port = 3) ∧
    (¬ ∃ (form : Form) (address : Address) (port : UInt16),
      form.Reads "[1.2.3.4]:5".toList none address port) ∧
    ∃ fault, (ofText "[1.2.3.4]:5" none).mapError Error.invalidHostname =
      .error (.invalidHostname fault) := by
  intro a
  obtain ⟨accepted, -, exclusive, no_influence⟩ := forms_are_the_grammar "1::2:3"
  obtain ⟨accepted', refused', -, -⟩ := forms_are_the_grammar "[1.2.3.4]:5"
  have reads : Form.hostPort.Reads "1::2:3".toList none (.ipv6 a) 3 :=
    ⟨by decide, "1::2".toList, "3".toList, rfl, by decide, rfl, rfl⟩
  have gives : GivesPort "1::2:3".toList :=
    .inr ⟨by decide, "1::2".toList, "3".toList, 3, rfl, by decide, rfl⟩
  have no_form : ¬ ∃ (form : Form) (address : Address) (port : UInt16),
      form.Reads "[1.2.3.4]:5".toList none address port := by
    rintro ⟨form, address, port, reads⟩
    obtain ⟨l, read, -⟩ := (accepted' none address port).2 ⟨form, reads⟩
    have error : ofText "[1.2.3.4]:5" none = .error (.notIpv6 "[1.2.3.4]:5".toList) := rfl
    cases error.symm.trans read
  refine ⟨gives, reads, ?_, fun default => ?_, no_form, refused' none no_form⟩
  · intro form default address port other
    exact exclusive form .hostPort default none address (.ipv6 a) port 3 other reads
  · rw [no_influence gives default none]
    exact (accepted none (.ipv6 a) 3).2 ⟨.hostPort, reads⟩

/-! ## IPv6 addresses without brackets -/

/-- The text of an IPv6 address does not start with a bracket. -/
theorem plain_of_ipv6 {a : Ipv6} (literal : Ipv6.ofText? text = some a) :
    text.head? ≠ some '[' := by
  obtain ⟨lead, rest, rfl, digits⟩ := Ipv6.lead_of_ofText? literal
  cases lead with
  | nil => exact nofun
  | cons c lead =>
    rintro ⟨⟩
    cases digits '[' List.mem_cons_self

/-- **What becomes of an IPv6 address without brackets**, when there is a default port. It takes the
default port, unless what stands behind its last colon is a port itself, which it is if it has
digits and all of them are decimal. Then that is the port, and only what stands in front of the last
colon is the host: an IPv6 address, or a text that is refused. -/
theorem bare_ipv6_comes_to (text : String) (a : Ipv6)
    (literal : Ipv6.ofText? text.toList = some a) :
    ∃ before last, text.toList = before ++ ':' :: last ∧ ':' ∉ last ∧
      ((∃ number, Numeral.readWord16 last = .ok number) ↔
        last ≠ [] ∧ ∀ c ∈ last, Numeral.isDigit c = true) ∧
      (Address.ofText before = match Ipv6.ofText? before with
        | some b => .ok (.ipv6 b)
        | none => .error (.unparsable before)) ∧
      ∀ port : UInt16, ofText text (some port) = match Numeral.readWord16 last with
        | .error _ => .ok (ofIpv6 a port)
        | .ok number => match Ipv6.ofText? before with
          | some b => .ok (ofIpv6 b number)
          | none => .error (.unparsable before) := by
  obtain ⟨before, last, together, colon, clear, part⟩ := Ipv6.last_of_ofText? literal
  have plain : text.toList.head? ≠ some '[' := plain_of_ipv6 literal
  -- The double colon or a group in front brings the look to a colon, so no hostname comes of it.
  have seen : Address.ColonSeen before := by
    refine Address.ColonSeen.of_prefix (Address.colonSeen_of_ipv6 literal) ?_ colon
    rw [together]
    exact List.prefix_append before (':' :: last)
  have host := Address.ofText_of_colonSeen seen
  refine ⟨before, last, together, clear, part.readWord16_iff, host, fun port => ?_⟩
  rw [ofText]
  cases read : Numeral.readWord16 last with
  | error fault =>
    have unread : ∀ number, Numeral.readWord16 last ≠ .ok number := by
      intro number found
      cases read.symm.trans found
    have reads : Form.bareIpv6.Reads text.toList (some port) (.ipv6 a) port :=
      ⟨plain, before, last, a, together, clear, unread, literal, rfl, rfl⟩
    exact ofChars_of_form (l := ofIpv6 a port) reads
  | ok number =>
    cases front : Ipv6.ofText? before with
    | some b =>
      have reads : Form.hostPort.Reads text.toList (some port) (.ipv6 b) number :=
        ⟨plain, before, last, together, clear, read, Address.ofText_of_ipv6 front⟩
      exact ofChars_of_form (l := ofIpv6 b number) reads
    | none =>
      rw [together] at plain ⊢
      rw [front] at host
      rw [ofChars, Parts.ofText_of_port plain clear read]
      exact ofParts_of_unread host

/-- A letter in the last group keeps it from being a port, so that the address takes the default. -/
theorem letter_takes_default :
    let a : Ipv6 := ⟨[0xFE, 0x80, 0, 0, 0, 0, 0, 0, 0, 0, 0, 0, 0, 0, 0, 0x1A], rfl⟩
    Ipv6.ofText? "fe80::1a".toList = some a ∧ ofText "fe80::1a" (some 53) = .ok (ofIpv6 a 53) := by
  intro a
  have literal : Ipv6.ofText? "fe80::1a".toList = some a := rfl
  obtain ⟨before, last, together, clear, -, -, comes_to⟩ := bare_ipv6_comes_to "fe80::1a" a literal
  refine ⟨literal, ?_⟩
  -- There is only one last colon.
  have cut : splitLast ':' "fe80::1a".toList = some ("fe80:".toList, "1a".toList) := rfl
  rw [together, splitLast_append before clear] at cut
  cases cut
  exact comes_to 53

/-- **A last group of decimal digits is taken for a port**: the text `::1` is an IPv6 address, and
no host and port, since there is no host `:`. With a default port it is still refused. -/
theorem loopback_is_refused :
    Ipv6.ofText? "::1".toList = some ⟨[0, 0, 0, 0, 0, 0, 0, 0, 0, 0, 0, 0, 0, 0, 0, 1], rfl⟩ ∧
    "::1".toList = ":".toList ++ ':' :: "1".toList ∧
    Address.ofText ":".toList = .error (.unparsable ":".toList) ∧
    ofText "::1" (some 53) = .error (.unparsable ":".toList) :=
  ⟨rfl, rfl, rfl, rfl⟩

end DatagramTunnel.Location
