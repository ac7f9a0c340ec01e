import DatagramTunnel.Proofs.Location.Document
import DatagramTunnel.Proofs.Location.Grammar
import DatagramTunnel.Proofs.Location.Outcome

/-!
# Every location can be encoded

A location is put together from an address and a port, comes from an IP address, is read from a
text, from the string of a JSON or YAML document, from a byte sequence, or from a stream: its
`Origin`. The length field has one byte, so a hostname has to have 1 to 255 bytes. Not every way to
a location looks at that again. A text is a hostname only if `Address.ofText` has counted its bytes;
a host on the wire has been counted by a length byte, and is too long for none, but may be empty.

`locations_are_encodable` says that nothing gets past these checks: a location has the address and
the port that its origin names, and its code tells them in full.
-/

namespace DatagramTunnel.Location

open Text

variable {data taken : List UInt8} {address address' : Address} {port port' : UInt16}
  {l : Location} {size : Nat} {f rest : Flow}

/-! ## The code of a location -/

/-- What can be counted on when a location is written. -/
structure Encodable (l : Location) : Prop where
  /-- A hostname has 1 to 255 bytes, and the byte in front of it tells how many. -/
  hostname : ∀ name, l.address = .hostname name → 1 ≤ name.length ∧ name.length ≤ 255 ∧
    ∃ length : UInt8, length.toNat = name.length ∧
      l.encode = AddressType.domainName.code :: length :: name ++ BigEndian.encode l.port.toNat
  /-- The code is as long as announced. -/
  length : l.encode.length = l.encodedLength
  bounds : 5 ≤ l.encodedLength ∧ l.encodedLength ≤ 259
  /-- Bytes that are already there stay, and just the code is written behind them. -/
  appends : ∀ bytes, l.appendTo bytes = bytes ++ l.encode

theorem length_of_hostname {name : List UInt8} (host : l.address = .hostname name) :
    1 ≤ name.length ∧ name.length ≤ 255 := by
  have fits := l.address_fits
  rw [host, Address.fits, Bool.and_eq_true, decide_eq_true_eq, decide_eq_true_eq] at fits
  exact fits

/-- **Every location can be encoded.** -/
theorem encodable (l : Location) : l.Encodable where
  hostname name host := by
    obtain ⟨some_byte, short⟩ := length_of_hostname host
    refine ⟨some_byte, short, UInt8.ofNat name.length, ?_, by rw [encode, host]; rfl⟩
    exact UInt8.toNat_ofNat_of_lt' (Nat.lt_succ_of_le short)
  length := l.length_encode
  bounds := by
    unfold encodedLength
    split
    · omega
    · omega
    · next name host =>
      have counted := length_of_hostname host
      omega
  appends := l.appendTo_eq

/-! ## Addresses on the wire -/

/-- Data starts with an address and a port: the bytes that tell the type and the length of a host,
the host, and the port. -/
def StartsWith (data : List UInt8) (address : Address) (port : UInt16) : Prop :=
  ∃ lead type host more, data = lead ++ (host ++ (BigEndian.encode port.toNat ++ more)) ∧
    Opens lead type host.length ∧ hostAddress type host = .ok address

/-- The code of a location starts with its address and its port. -/
theorem startsWith_of_prefix (code : l.encode <+: data) : StartsWith data l.address l.port := by
  obtain ⟨more, rfl⟩ := code
  refine ⟨_, _, l.address.bytes, more, ?_, l.opens_lead, hostAddress_bytes l.address⟩
  rw [encode_eq, body, List.append_assoc, List.append_assoc]

/-- Data starts with one address at most. -/
theorem StartsWith.unique (first : StartsWith data address port)
    (second : StartsWith data address' port') : address = address' := by
  obtain ⟨lead, type, host, more, rfl, opens, read⟩ := first
  obtain ⟨lead', type', host', more', same, opens', read'⟩ := second
  -- The first bytes tell how long the host is, so both have the same one.
  have header := opens.header (host ++ (BigEndian.encode port.toNat ++ more))
  rw [same, opens'.header] at header
  obtain ⟨rfl, length, behind⟩ := Header.known.inj header
  obtain ⟨rfl, -⟩ := List.append_inj behind length
  exact Except.ok.inj (read.symm.trans read')

/-- A length byte can count every hostname that it is in front of, so only one of no byte is
refused. -/
theorem StartsWith.eq_empty (starts : StartsWith data address port) (unfit : address.fits = false) :
    address = .hostname [] := by
  obtain ⟨lead, type, host, more, -, opens, read⟩ := starts
  obtain ⟨address', read', -, fits⟩ := opens.hostAddress rfl
  cases read.symm.trans read'
  have no_byte : host.length = 0 := Decidable.byContradiction fun some_byte => by
    cases (fits some_byte).symm.trans unfit
  obtain rfl := List.eq_nil_of_length_eq_zero no_byte
  -- Of the three beginnings, only that of a hostname tells a host of no byte.
  generalize [].length = hostLength at opens no_byte
  cases opens with
  | ipv4 => cases no_byte
  | ipv6 => cases no_byte
  | domainName count => exact (Except.ok.inj read).symm

/-! ## Reads from a stream -/

/-- Bytes that settle a read start with the code of the location that is read. -/
theorem prefix_of_settled (settled : demand taken = .settled (.ok (l, size))) :
    l.encode <+: taken := by
  obtain ⟨count, settles, -⟩ := decode_of_settled settled
  obtain ⟨-, code⟩ := settles.code l size rfl
  rw [code]
  exact List.take_prefix count taken

/-- What is read off a flow has its code at the front of the bytes of the flow. -/
theorem prefix_of_readOff (read : readOff taken f = some (.ok (l, size), rest)) :
    l.encode <+: taken ++ f.bytes := by
  fun_induction readOff taken f with
  | case1 taken f result settled =>
    cases read
    exact (prefix_of_settled settled).trans (List.prefix_append taken rest.bytes)
  | case2 => cases read
  | case3 taken f field count called b after next shorter ih =>
    rw [Flow.bytes_of_byte next, List.append_cons]
    exact ih read
  | case4 => cases read
  | case5 taken f field count called cause after next shorter again ih =>
    rw [← Flow.bytes_of_stop next]
    exact ih read
  | case6 => cases read

/-- An answer is the one that the flow gives, however often the read is polled. -/
theorem readOff_of_drive {i : Inlet} {polls : Nat} {result : Except Error (Location × Nat)}
    (answered : (drive receive polls [] i).1 = some result) :
    ∃ rest, readOff [] i.flow = some (result, rest) := by
  -- The invariant over the polls: what is left gives what the whole flow gives.
  refine drive_induction (I := fun taken j => readOff taken j.flow = readOff [] i.flow)
    (Q := fun answer _ => answer = some result → ∃ rest, readOff [] i.flow = some (result, rest))
    nofun ?_ ?_ polls [] i rfl answered
  · intro taken j answer j' same polled told
    have follows := receive_follows taken j
    rw [polled, Follows, same] at follows
    cases told
    exact ⟨_, follows.1⟩
  · intro taken j taken' j' same polled
    have follows := receive_follows taken j
    rw [polled, Follows, same] at follows
    exact follows.1

/-! ## Where locations come from -/

/-- A way to obtain a location. -/
inductive Origin where
  | parts (address : Address) (port : UInt16)
  | ipv4 (address : Ipv4) (port : UInt16)
  | ipv6 (address : Ipv6) (port : UInt16)
  | text (string : String) (default : Option UInt16)
  | json (document : List Char)
  | yaml (document : List Char)
  | bytes (data : List UInt8)
  /-- A stream that is read from, in so many polls. -/
  | stream (inlet : Inlet) (polls : Nat)

/-- The location comes out. -/
def Origin.Gives (origin : Origin) (l : Location) : Prop :=
  match origin with
  | .parts address port => new address port = .ok l
  | .ipv4 address port => ofIpv4 address port = l
  | .ipv6 address port => ofIpv6 address port = l
  | .text string default => ofText string default = .ok l
  | .json document => ofJson document = .ok l
  | .yaml document => ofYaml document = .ok l
  | .bytes data => ∃ size, (decode data).1 = .ok (l, size)
  | .stream inlet polls => ∃ size, (drive receive polls [] inlet).1 = some (.ok (l, size))

/-- The address and the port are what goes in. Whether they can be encoded is another matter. -/
def Origin.Names (origin : Origin) (address : Address) (port : UInt16) : Prop :=
  match origin with
  | .parts given number => address = given ∧ port = number
  | .ipv4 given number => address = .ipv4 given ∧ port = number
  | .ipv6 given number => address = .ipv6 given ∧ port = number
  | .text string default => ∃ form : Form, form.Reads string.toList default address port
  | .json document => ∃ string, Json.leadingString? document = some (string, true) ∧
      ∃ form : Form, form.Reads string none address port
  | .yaml document => ∃ string, (Yaml.Document.ofText document).Holds string ∧
      ∃ form : Form, form.Reads string none address port
  | .bytes data => StartsWith data address port
  | .stream inlet _ => StartsWith inlet.rest address port

/-- **What comes out went in.** -/
theorem Origin.Gives.names {origin : Origin} (gives : origin.Gives l) :
    origin.Names l.address l.port := by
  cases origin with
  | parts given number => exact new_eq_ok_iff.1 gives
  | ipv4 given number => cases gives; exact ⟨rfl, rfl⟩
  | ipv6 given number => cases gives; exact ⟨rfl, rfl⟩
  | text string default => exact form_of_ofChars gives
  | json document =>
    obtain ⟨string, present, found⟩ := ofJson_eq_ok_iff.1 gives
    exact ⟨string, present, form_of_ofChars (ofString_eq_ok_iff.1 found)⟩
  | yaml document =>
    obtain ⟨string, holds, found⟩ := ofYaml_eq_ok_iff.1 gives
    exact ⟨string, holds, form_of_ofChars (ofString_eq_ok_iff.1 found)⟩
  | bytes data =>
    obtain ⟨size, decoded⟩ := gives
    obtain ⟨-, code, -⟩ := decode_ok decoded
    exact startsWith_of_prefix (code ▸ List.take_prefix size data)
  | stream inlet polls =>
    obtain ⟨size, answered⟩ := gives
    obtain ⟨rest, read⟩ := readOff_of_drive answered
    have code := prefix_of_readOff read
    rw [List.nil_append, Inlet.bytes_flow] at code
    exact startsWith_of_prefix code

/-- The location is read from the bytes of its code. -/
def Origin.OnWire (origin : Origin) : Prop :=
  (∃ data, origin = .bytes data) ∨ ∃ inlet polls, origin = .stream inlet polls

/-- **What cannot be encoded is refused.** It is named only where parts are put together, and on the
wire, where a hostname may have no byte. -/
theorem Origin.Names.refused {origin : Origin} (names : origin.Names address port)
    (unfit : address.fits = false) :
    (∀ l, ¬ origin.Gives l) ∧
      (origin = .parts address port ∨ origin.OnWire ∧ address = .hostname []) := by
  have none_given (unique : ∀ l, origin.Gives l → l.address = address) : ∀ l, ¬ origin.Gives l := by
    intro l gives
    cases (unique l gives ▸ l.address_fits).symm.trans unfit
  cases origin with
  | parts given number =>
    obtain ⟨rfl, rfl⟩ := names
    exact ⟨none_given fun l gives => gives.names.1, .inl rfl⟩
  | ipv4 given number => obtain ⟨rfl, -⟩ := names; cases unfit
  | ipv6 given number => obtain ⟨rfl, -⟩ := names; cases unfit
  -- The reader of texts has counted the bytes of every hostname.
  | text string default =>
    obtain ⟨form, reads⟩ := names
    cases reads.fits.symm.trans unfit
  | json document =>
    obtain ⟨string, -, form, reads⟩ := names
    cases reads.fits.symm.trans unfit
  | yaml document =>
    obtain ⟨string, -, form, reads⟩ := names
    cases reads.fits.symm.trans unfit
  -- A length byte has counted those of the wire, which leaves the hostname of no byte.
  | bytes data =>
    exact ⟨none_given fun l gives => gives.names.unique names,
      .inr ⟨.inl ⟨data, rfl⟩, names.eq_empty unfit⟩⟩
  | stream inlet polls =>
    exact ⟨none_given fun l gives => gives.names.unique names,
      .inr ⟨.inr ⟨inlet, polls, rfl⟩, names.eq_empty unfit⟩⟩

/-- **Every location can be encoded**, wherever it comes from. It has the address and the port that
its origin names. A hostname has 1 to 255 bytes and a length byte that tells their number; the code
is as long as announced, which is 5 to 259 bytes; and writing it behind other bytes leaves these. A
hostname that the length field cannot count makes no location. It is met only where an address and a
port are put together, or, if it is empty, on the wire. -/
theorem locations_are_encodable (origin : Origin) :
    (∀ l, origin.Gives l → origin.Names l.address l.port ∧ l.Encodable) ∧
    ∀ name port, origin.Names (.hostname name) port → ¬ (1 ≤ name.length ∧ name.length ≤ 255) →
      (∀ l, ¬ origin.Gives l) ∧
        (origin = .parts (.hostname name) port ∨ origin.OnWire ∧ name = []) := by
  refine ⟨fun l gives => ⟨gives.names, l.encodable⟩, fun name port names uncountable => ?_⟩
  have unfit : (Address.hostname name).fits = false := by
    rw [← Bool.not_eq_true, Address.fits, Bool.and_eq_true, decide_eq_true_eq, decide_eq_true_eq]
    exact uncountable
  obtain ⟨none_given, source⟩ := names.refused unfit
  exact ⟨none_given, source.imp_right (And.imp_right Address.hostname.inj)⟩

/-- A hostname comes in pieces, and from a text, and its code is put behind two bytes. A hostname of
no byte is refused. -/
theorem host_in_pieces_is_encodable :
    let l : Location := ⟨.hostname [97, 46, 98], 53, rfl⟩
    let pieces : Origin := .stream
      { arrivals := [.data [3], .pending, .data [3, 97, 46], .data [98, 0, 53, 9]] } 2
    let text : Origin := .text "a.b:53" none
    let empty : Origin := .bytes [3, 0, 0, 53]
    (pieces.Gives l ∧ pieces.Names l.address 53 ∧ text.Gives l ∧ text.Names l.address 53) ∧
    (l.Encodable ∧ l.appendTo [1, 2] = [1, 2, 3, 3, 97, 46, 98, 0, 53]) ∧
    empty.Names (.hostname []) 53 ∧ ∀ l, ¬ empty.Gives l := by
  intro l pieces text empty
  have read : pieces.Gives l := ⟨7, by cbv⟩
  have parsed : text.Gives l := rfl
  have named : empty.Names (.hostname []) 53 := ⟨[3, 0], _, [], [], rfl, .domainName 0, rfl⟩
  obtain ⟨wire, -⟩ := locations_are_encodable pieces
  obtain ⟨texts, -⟩ := locations_are_encodable text
  obtain ⟨-, refused⟩ := locations_are_encodable empty
  obtain ⟨names, encodable⟩ := wire l read
  obtain ⟨none_given, -⟩ := refused [] 53 named (by decide)
  have appended : l.appendTo [1, 2] = [1, 2, 3, 3, 97, 46, 98, 0, 53] :=
    (encodable.appends [1, 2]).trans (by decide)
  exact ⟨⟨read, names, parsed, (texts l parsed).1⟩, ⟨encodable, appended⟩, named, none_given⟩

end DatagramTunnel.Location
