import DatagramTunnel.Location.Encoding

/-!
# What the bytes of a location call for

A location is read byte by byte, and after each byte `Location.demand` says what is still missing.
The first one or two bytes tell how many there have to be: `announced`. Until they are there, more
is called for (`unsettled_iff`); with them, the read is settled, whatever comes behind
(`demand_append_of_settled`). Bytes that are enough are the code of the location that they settle,
unless that has a hostname of no byte (`demand_of_size`), and the code of a location settles that
location (`demand_encode`).
-/

namespace DatagramTunnel.Location

/-! ## How long a location is -/

/-- What the first bytes of data tell about the location that they begin. -/
inductive Announcement where
  /-- The type is missing, or the length of a hostname is. -/
  | unclear
  /-- There is no such type. -/
  | unknown (type : UInt8)
  /-- The location takes so many bytes. -/
  | size (count : Nat)
  deriving DecidableEq

/-- What data announces: an IPv4 address takes seven bytes with its type and its port, an IPv6
address nineteen, and a hostname four more than its length byte counts. -/
def announced : List UInt8 → Announcement
  | [] => .unclear
  | type :: rest =>
    if type = 1 then .size 7
    else if type = 4 then .size 19
    else if type = 3 then match rest with
      | [] => .unclear
      | length :: _ => .size (4 + length.toNat)
    else .unknown type

/-- The bytes in front of a host, the type that they tell, and the length of the host. -/
inductive Opens : List UInt8 → AddressType → Nat → Prop where
  | ipv4 : Opens [0x01] .ipv4 4
  | ipv6 : Opens [0x04] .ipv6 16
  | domainName (length : UInt8) : Opens [0x03, length] .domainName length.toNat

section Opens

variable {lead body : List UInt8} {type : AddressType} {hostLength : Nat}

/-- With the bytes in front of the host there, the length of the rest is known. -/
theorem Opens.header (h : Opens lead type hostLength) (body : List UInt8) :
    header (lead ++ body) = .known type hostLength body := by
  cases h <;> rfl

theorem Opens.announced (h : Opens lead type hostLength) (body : List UInt8) :
    announced (lead ++ body) = .size (lead.length + hostLength + 2) := by
  cases h with
  | ipv4 => rfl
  | ipv6 => rfl
  | domainName length =>
    show Announcement.size (4 + length.toNat) = .size (2 + length.toNat + 2)
    congr 1
    omega

/-- Only a hostname can have no byte. -/
theorem Opens.hostLength_eq_zero_iff (h : Opens lead type hostLength) (body : List UInt8) :
    hostLength = 0 ↔ (lead ++ body).take 2 = [3, 0] := by
  cases h with
  | ipv4 => simp
  | ipv6 => simp
  | domainName length => simp [← UInt8.toNat_inj]

/-- The three ways in which data can begin. -/
theorem beginnings (data : List UInt8) :
    (∃ field : Field, header data = .incomplete field ∧ field.isNumber = true ∧
      announced data = .unclear) ∨
    (∃ type rest, data = type :: rest ∧ (∀ more, announced (type :: more) = .unknown type) ∧
      ∀ more, header (type :: more) = .unknown type) ∨
    ∃ lead type hostLength body, data = lead ++ body ∧ Opens lead type hostLength := by
  cases data with
  | nil => exact .inl ⟨.type, rfl, rfl, rfl⟩
  | cons type rest =>
    by_cases ipv4 : type = 1
    · subst ipv4
      exact .inr (.inr ⟨_, _, _, rest, rfl, .ipv4⟩)
    by_cases ipv6 : type = 4
    · subst ipv6
      exact .inr (.inr ⟨_, _, _, rest, rfl, .ipv6⟩)
    by_cases domainName : type = 3
    · subst domainName
      cases rest with
      | nil => exact .inl ⟨.length, rfl, rfl, rfl⟩
      | cons length body => exact .inr (.inr ⟨_, _, _, body, rfl, .domainName length⟩)
    · refine .inr (.inl ⟨type, rest, rfl, fun more => ?_, fun more => ?_⟩)
      · simp only [Location.announced, if_neg ipv4, if_neg ipv6, if_neg domainName]
      · simp only [Location.header, AddressType.ofCode?, AddressType.code, ipv4, ipv6, domainName,
          if_false]

end Opens

/-! ## What is called for -/

/-- Whether bytes call for more. -/
def Unsettled (taken : List UInt8) : Prop := ∃ field count, demand taken = .more field count

/-- A body that is all there is read the same whatever comes behind it. -/
theorem ofBody_append {type : AddressType} {hostLength : Nat} {body : List UInt8}
    (enough : hostLength + 2 ≤ body.length) (more : List UInt8) :
    ofBody type hostLength (body ++ more) = ofBody type hostLength body := by
  have host : hostLength ≤ body.length := by omega
  have port : portOfBytes (body.drop hostLength ++ more) = portOfBytes (body.drop hostLength) := by
    have length : 2 ≤ (body.drop hostLength).length := by rw [List.length_drop]; omega
    match body.drop hostLength, length with
    | high :: low :: _, _ => rfl
  rw [ofBody, ofBody, List.take_append_of_le_length host, List.drop_append_of_le_length host, port]

section Demand

variable {lead body taken more : List UInt8} {type : AddressType} {hostLength count size : Nat}
  {field : Field} {result : Except Error (Location × Nat)}

theorem Opens.demand (h : Opens lead type hostLength) (body : List UInt8) :
    demand (lead ++ body) =
      if body.length < hostLength then .more .host (hostLength - body.length)
      else if body.length < hostLength + 2 then .more .port (hostLength + 2 - body.length)
      else .settled (ofBody type hostLength body) := by
  rw [Location.demand, h.header]

/-- The type is refused, whatever comes behind it. -/
theorem demand_of_unknown {code : UInt8} (h : announced taken = .unknown code) :
    demand (taken.take 1) = .settled (.error (.invalidAddressType code)) := by
  rcases beginnings taken with ⟨_, _, _, unclear⟩ | ⟨type, rest, rfl, told, unknown⟩ |
    ⟨lead, type, hostLength, body, rfl, opens⟩
  · rw [unclear] at h
    cases h
  · rw [told] at h
    cases h
    show demand (code :: []) = _
    rw [demand, unknown]
  · rw [opens.announced] at h
    cases h

/-- Where the type or the length of a hostname is missing, one byte is called for. -/
theorem demand_of_unclear (h : announced taken = .unclear) :
    ∃ field : Field, demand taken = .more field 1 ∧ field.isNumber = true := by
  rcases beginnings taken with ⟨field, header, number, -⟩ | ⟨type, rest, rfl, told, -⟩ |
    ⟨lead, type, hostLength, body, rfl, opens⟩
  · exact ⟨field, by rw [demand, header], number⟩
  · rw [told] at h
    cases h
  · rw [opens.announced] at h
    cases h

/-- Data that announces a size has the bytes that tell it in front. -/
theorem opens_of_size (h : announced taken = .size size) :
    ∃ lead type hostLength body, taken = lead ++ body ∧ Opens lead type hostLength ∧
      size = lead.length + hostLength + 2 := by
  rcases beginnings taken with ⟨_, _, _, unclear⟩ | ⟨type, rest, rfl, told, -⟩ |
    ⟨lead, type, hostLength, body, rfl, opens⟩
  · rw [unclear] at h
    cases h
  · rw [told] at h
    cases h
  · rw [opens.announced] at h
    cases h
    exact ⟨lead, type, hostLength, body, rfl, opens, rfl⟩

/-- What is announced stays announced. -/
theorem announced_append (h : announced taken = .size size) (more : List UInt8) :
    announced (taken ++ more) = .size size := by
  obtain ⟨lead, type, hostLength, body, rfl, opens, rfl⟩ := opens_of_size h
  rw [List.append_assoc, opens.announced]

/-- Fewer bytes than are announced call for more: of the host, or of the port once it is there. -/
theorem demand_of_short (h : announced taken = .size size) (short : taken.length < size) :
    ∃ count, demand taken = .more (if taken.length + 2 < size then .host else .port) count := by
  obtain ⟨lead, type, hostLength, body, rfl, opens, rfl⟩ := opens_of_size h
  rw [List.length_append] at short ⊢
  rw [opens.demand]
  by_cases host : body.length < hostLength
  · exact ⟨_, by rw [if_pos host, if_pos (by omega)]⟩
  · exact ⟨_, by rw [if_neg host, if_pos (by omega), if_neg (by omega)]⟩

/-- **What is called for.** Where the size is not told yet, it is one byte of a number. Otherwise it
is what is missing of the host or, behind it, of the port. -/
theorem missing_of_more (called : demand taken = .more field count) :
    (announced taken = .unclear ∧ field.isNumber = true ∧ count = 1) ∨
    ∃ size, announced taken = .size size ∧
      ((field = .host ∧ 0 < count ∧ taken.length + count + 2 = size) ∨
        (field = .port ∧ 0 < count ∧ count ≤ 2 ∧ taken.length + count = size)) := by
  rcases beginnings taken with ⟨_, header, number, unclear⟩ | ⟨type, rest, rfl, -, unknown⟩ |
    ⟨lead, type, hostLength, body, rfl, opens⟩
  · rw [demand, header] at called
    cases called
    exact .inl ⟨unclear, number, rfl⟩
  · rw [demand, unknown] at called
    cases called
  · refine .inr ⟨_, opens.announced body, ?_⟩
    rw [opens.demand] at called
    rw [List.length_append]
    by_cases host : body.length < hostLength
    · rw [if_pos host] at called
      cases called
      exact .inl ⟨rfl, by omega, by omega⟩
    · by_cases port : body.length < hostLength + 2
      · rw [if_neg host, if_pos port] at called
        cases called
        exact .inr ⟨rfl, by omega, by omega, by omega⟩
      · rw [if_neg host, if_neg port] at called
        cases called

theorem count_pos (called : demand taken = .more field count) : 0 < count := by
  rcases missing_of_more called with ⟨-, -, rfl⟩ | ⟨_, -, ⟨-, pos, -⟩ | ⟨-, pos, -⟩⟩
  · exact Nat.one_pos
  · exact pos
  · exact pos

/-- **When more is called for**: the size is not told yet, or it is not there yet. -/
theorem unsettled_iff : Unsettled taken ↔
    announced taken = .unclear ∨ ∃ size, announced taken = .size size ∧ taken.length < size := by
  constructor
  · rintro ⟨field, count, called⟩
    rcases missing_of_more called with
      ⟨unclear, -⟩ | ⟨size, told, ⟨-, pos, left⟩ | ⟨-, pos, -, left⟩⟩
    · exact .inl unclear
    · exact .inr ⟨size, told, by omega⟩
    · exact .inr ⟨size, told, by omega⟩
  · rintro (unclear | ⟨size, told, short⟩)
    · obtain ⟨field, called, -⟩ := demand_of_unclear unclear
      exact ⟨field, 1, called⟩
    · obtain ⟨count, called⟩ := demand_of_short told short
      exact ⟨_, count, called⟩

/-- A part of data calls for more as long as it is shorter than the data announces. -/
theorem unsettled_of_short (told : announced (taken ++ more) = .size size)
    (short : taken.length < size) : Unsettled taken := by
  rcases beginnings taken with ⟨_, _, _, unclear⟩ | ⟨type, rest, rfl, unknown, -⟩ |
    ⟨lead, type, hostLength, body, rfl, opens⟩
  · exact unsettled_iff.2 (.inl unclear)
  · rw [List.cons_append, unknown] at told
    cases told
  · -- What the part announces is what the data announces, since the data begins with the part.
    cases (announced_append (opens.announced body) more).symm.trans told
    exact unsettled_iff.2 (.inr ⟨_, opens.announced body, short⟩)

/-- Fewer bytes than are called for leave the read unsettled. -/
theorem unsettled_append (called : demand taken = .more field count) (fewer : more.length < count) :
    Unsettled (taken ++ more) := by
  rcases missing_of_more called with ⟨unclear, -, rfl⟩ | ⟨size, told, missing⟩
  · obtain rfl : more = [] := List.eq_nil_of_length_eq_zero (by omega)
    rw [List.append_nil]
    exact ⟨_, _, called⟩
  · refine unsettled_iff.2 (.inr ⟨size, announced_append told more, ?_⟩)
    rw [List.length_append]
    rcases missing with ⟨-, -, left⟩ | ⟨-, -, -, left⟩ <;> omega

/-- What can be settled: an unknown type is refused, or the body is all there and decides. -/
theorem settled_cases (settled : demand taken = .settled result) :
    (∃ type rest, taken = type :: rest ∧ (∀ more, announced (type :: more) = .unknown type) ∧
      (∀ more, header (type :: more) = .unknown type) ∧
      result = .error (.invalidAddressType type)) ∨
    ∃ lead type hostLength body, taken = lead ++ body ∧ Opens lead type hostLength ∧
      hostLength + 2 ≤ body.length ∧ result = ofBody type hostLength body := by
  rcases beginnings taken with ⟨_, header, -, -⟩ | ⟨type, rest, rfl, told, unknown⟩ |
    ⟨lead, type, hostLength, body, rfl, opens⟩
  · rw [demand, header] at settled
    cases settled
  · rw [demand, unknown] at settled
    cases settled
    exact .inl ⟨type, rest, rfl, told, unknown, rfl⟩
  · rw [opens.demand] at settled
    split at settled
    · cases settled
    · split at settled
      · cases settled
      · cases settled
        exact .inr ⟨lead, type, hostLength, body, rfl, opens, by omega, rfl⟩

/-- What is settled by some bytes is settled by more: none behind them is looked at. -/
theorem demand_append_of_settled (settled : demand taken = .settled result) (more : List UInt8) :
    demand (taken ++ more) = .settled result := by
  rcases settled_cases settled with ⟨type, rest, rfl, -, unknown, rfl⟩ |
    ⟨lead, type, hostLength, body, rfl, opens, enough, rfl⟩
  · rw [List.cons_append, demand, unknown]
  · rw [List.append_assoc, opens.demand, List.length_append, if_neg (by omega), if_neg (by omega),
      ofBody_append enough]

/-- A part of bytes that call for more calls for more. -/
theorem Unsettled.of_append (h : Unsettled (taken ++ more)) : Unsettled taken := by
  cases called : demand taken with
  | more field count => exact ⟨field, count, called⟩
  | settled result =>
    obtain ⟨field, count, called'⟩ := h
    rw [demand_append_of_settled called] at called'
    cases called'

end Demand

/-! ## What is settled -/

section Settled

variable {lead body host : List UInt8} {type : AddressType} {hostLength size : Nat}

/-- A host of the right length is read as an address whose code is that host. -/
theorem Opens.hostAddress (h : Opens lead type hostLength) (length : host.length = hostLength) :
    ∃ address, hostAddress type host = .ok address ∧ encodeAddress address = lead ++ host ∧
      (hostLength ≠ 0 → address.fits = true) := by
  cases h with
  | ipv4 =>
    exact ⟨.ipv4 ⟨host, length⟩, by simp [Location.hostAddress, Ipv4.ofOctets?, length], rfl,
      fun _ => rfl⟩
  | ipv6 =>
    exact ⟨.ipv6 ⟨host, length⟩, by simp [Location.hostAddress, Ipv6.ofOctets?, length], rfl,
      fun _ => rfl⟩
  | domainName count =>
    -- The length byte counts the host, so it is the byte that is written for it.
    have counted : UInt8.ofNat host.length = count := by rw [length, UInt8.ofNat_toNat]
    have bound := count.toNat_lt
    refine ⟨.hostname host, rfl, ?_, fun some_byte => ?_⟩
    · rw [encodeAddress, counted]
      rfl
    · simp only [Address.fits, maxHostnameLength, Bool.and_eq_true, decide_eq_true_eq, length]
      omega

/-- An address that the length field can count makes a location with any port. -/
theorem new_of_fits {address : Address} (fits : address.fits = true) (port : UInt16) :
    Location.new address port = .ok ⟨address, port, fits⟩ := by
  have no_fault := (address.fault?_eq_none_iff).2 fits
  unfold Location.new
  split
  · next fault => rw [no_fault] at fault; exact absurd fault (by simp)
  · rfl

theorem encode_portOfBytes {port : List UInt8} (length : port.length = 2) (more : List UInt8) :
    BigEndian.encode (portOfBytes (port ++ more)).toNat = port := by
  match port, length with
  | [high, low], _ =>
    have word := BigEndian.decode_lt high low
    show BigEndian.encode (UInt16.ofNat (BigEndian.decode high low)).toNat = [high, low]
    rw [UInt16.toNat_ofNat_of_lt' word, BigEndian.encode_decode]

/-- **A body that is all there** is the body of a location, unless its host has no byte. -/
theorem Opens.ofBody (h : Opens lead type hostLength) (enough : hostLength + 2 ≤ body.length) :
    (hostLength = 0 → ofBody type hostLength body = .error (.invalidHostname .empty)) ∧
    (hostLength ≠ 0 → ∃ l, ofBody type hostLength body = .ok (l, lead.length + hostLength + 2) ∧
      l.encode = lead ++ body.take (hostLength + 2)) := by
  constructor
  · intro no_byte
    cases h with
    | ipv4 => cases no_byte
    | ipv6 => cases no_byte
    | domainName count => rw [Location.ofBody, no_byte]; rfl
  · intro some_byte
    have length : (body.take hostLength).length = hostLength := List.length_take_of_le (by omega)
    have two : ((body.drop hostLength).take 2).length = 2 :=
      List.length_take_of_le (by rw [List.length_drop]; omega)
    obtain ⟨address, read, code, fits⟩ := h.hostAddress length
    have port := encode_portOfBytes two ((body.drop hostLength).drop 2)
    rw [List.take_append_drop] at port
    have encoded : encode ⟨address, portOfBytes (body.drop hostLength), fits some_byte⟩ =
        lead ++ body.take (hostLength + 2) := by
      rw [encode, code, port, List.append_assoc, ← List.take_add]
    refine ⟨_, ?_, encoded⟩
    have size := congrArg List.length encoded
    rw [length_encode, List.length_append, List.length_take_of_le enough] at size
    rw [Location.ofBody, read]
    simp only [new_of_fits (fits some_byte), size, Nat.add_assoc]

variable {data : List UInt8}

/-- **Data with as many bytes as it announces** is settled by these: they are the code of a
location, unless they announce a hostname of no byte. -/
theorem demand_of_size (h : announced data = .size size) (enough : size ≤ data.length) :
    (data.take 2 = [3, 0] → demand (data.take size) = .settled (.error (.invalidHostname .empty))) ∧
    (data.take 2 ≠ [3, 0] → ∃ l, demand (data.take size) = .settled (.ok (l, size)) ∧
      l.encode = data.take size) := by
  obtain ⟨lead, type, hostLength, body, rfl, opens, rfl⟩ := opens_of_size h
  rw [List.length_append] at enough
  have there : hostLength + 2 ≤ (body.take (hostLength + 2)).length :=
    Nat.le_of_eq (List.length_take_of_le (by omega)).symm
  -- The bytes in front of the host are all there, so the cut falls into the body.
  have front : (lead ++ body).take (lead.length + hostLength + 2) =
      lead ++ body.take (hostLength + 2) := by
    rw [Nat.add_assoc, List.take_length_add_append]
  rw [front, opens.demand, if_neg (by omega), if_neg (by omega), ne_eq,
    ← opens.hostLength_eq_zero_iff]
  obtain ⟨refused, complete⟩ := opens.ofBody there
  refine ⟨fun no_byte => by rw [refused no_byte], fun some_byte => ?_⟩
  obtain ⟨l, read, code⟩ := complete some_byte
  rw [List.take_take, Nat.min_self] at code
  exact ⟨l, by rw [read], code⟩

end Settled

/-! ## The code of a location -/

/-- The type of an address on the wire. -/
def typeOf : Address → AddressType
  | .ipv4 _ => .ipv4
  | .ipv6 _ => .ipv6
  | .hostname _ => .domainName

/-- The bytes in front of the host. -/
def lead : Address → List UInt8
  | .hostname name => [AddressType.domainName.code, UInt8.ofNat name.length]
  | address => [(typeOf address).code]

/-- The host and the port. -/
def body (l : Location) : List UInt8 := l.address.bytes ++ BigEndian.encode l.port.toNat

theorem encode_eq (l : Location) : l.encode = lead l.address ++ l.body := by
  obtain ⟨address, port, fits⟩ := l
  cases address <;> rfl

theorem length_body (l : Location) : l.body.length = l.address.bytes.length + 2 := by
  rw [body, List.length_append, BigEndian.length_encode]

/-- The bytes in front of the host tell its length. -/
theorem opens_lead (l : Location) :
    Opens (lead l.address) (typeOf l.address) l.address.bytes.length := by
  obtain ⟨address, port, fits⟩ := l
  cases address with
  | ipv4 a => rw [Address.bytes, a.length_octets]; exact .ipv4
  | ipv6 a => rw [Address.bytes, a.length_octets]; exact .ipv6
  | hostname name =>
    have counted : (UInt8.ofNat name.length).toNat = name.length := by
      simp only [Address.fits, maxHostnameLength, Bool.and_eq_true] at fits
      obtain ⟨-, short⟩ := fits
      exact UInt8.toNat_ofNat_of_lt' (Nat.lt_succ_of_le (of_decide_eq_true short))
    have opens := Opens.domainName (UInt8.ofNat name.length)
    rw [counted] at opens
    exact opens

/-- **A location announces as many bytes as it takes.** -/
theorem announced_encode (l : Location) : announced l.encode = .size l.encodedLength := by
  rw [encode_eq, l.opens_lead.announced, ← length_encode, encode_eq, List.length_append,
    length_body, Nat.add_assoc]

/-- The host of an address is read back as that address. -/
theorem hostAddress_bytes (a : Address) : hostAddress (typeOf a) a.bytes = .ok a := by
  cases a with
  | ipv4 a => simp [hostAddress, typeOf, Address.bytes, Ipv4.ofOctets?, a.length_octets]
  | ipv6 a => simp [hostAddress, typeOf, Address.bytes, Ipv6.ofOctets?, a.length_octets]
  | hostname name => rfl

theorem portOfBytes_encode (port : UInt16) :
    portOfBytes (BigEndian.encode port.toNat) = port := by
  simp only [BigEndian.encode, portOfBytes, BigEndian.decode_encode port.toNat_lt,
    UInt16.ofNat_toNat]

/-- **All bytes of a location settle it.** -/
theorem demand_encode (l : Location) : demand l.encode = .settled (.ok (l, l.encodedLength)) := by
  have long := l.length_body
  rw [encode_eq, l.opens_lead.demand, if_neg (by omega), if_neg (by omega), ofBody, body,
    List.take_left' rfl, List.drop_left' rfl, hostAddress_bytes, portOfBytes_encode]
  simp only [new_of_fits l.address_fits]

/-- A part of a location calls for more. -/
theorem unsettled_part {l : Location} {taken rest : List UInt8} (some_left : rest ≠ [])
    (h : l.encode = taken ++ rest) : Unsettled taken := by
  have told : announced (taken ++ rest) = .size l.encodedLength := h ▸ l.announced_encode
  have lengths := congrArg List.length h
  rw [length_encode, List.length_append] at lengths
  have pos : 0 < rest.length := List.length_pos_iff.2 some_left
  exact unsettled_of_short told (by omega)

/-- **No location is a first part of another.** -/
theorem eq_of_prefix {l l' : Location} (h : l.encode <+: l'.encode) : l = l' := by
  obtain ⟨more, whole⟩ := h
  -- Both settle the read of the longer code, and a read has one result.
  have settled := demand_append_of_settled l.demand_encode more
  rw [whole, demand_encode] at settled
  cases settled
  rfl

end DatagramTunnel.Location
