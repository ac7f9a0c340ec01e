import DatagramTunnel.Proofs.Location.Receiving

/-!
# What a read of a location comes to

A location that comes is read back, and nothing behind it is taken: `encoded_location_returns`. For
any data at all, `reads_classified` says what a read comes to and how much it takes, in whatever
pieces the data comes and whatever comes behind it. Data that is no location is refused once its
type is known, or once all that it announces is there; data that breaks off is taken to its end.

There is one exception: an interruption that comes where a number is read, which is the type, a
length or a port, is passed over (`PassedOver`), so the read goes on with what comes behind it.

`drive_eq_decode` says that a byte sequence is read as an inlet is that brings it and ends. So what
holds of a read from an inlet holds of the location in front of a datagram.
-/

namespace DatagramTunnel.Location

/-- **An encoded location is read back**, whatever comes behind it, in whatever pieces: the read
gives this location and the number of its bytes, has taken just so many, and leaves the rest. A
`Location` has any IPv4 or IPv6 address or any hostname of 1 to 255 bytes, and any port. So no
location's bytes are the first bytes of another's. -/
theorem encoded_location_returns (l : Location) :
    (∀ (rest : List UInt8) (f : Flow) (i : Inlet) (polls : Nat),
      i.flow = f.prepend (l.encode ++ rest) → i.waits < polls →
      ∃ j, drive receive polls [] i = (some (.ok (l, l.encodedLength)), j) ∧
        j.taken = i.taken + l.encodedLength ∧ j.flow = f.prepend rest) ∧
    ∀ l' : Location, l.encode <+: l'.encode → l = l' := by
  refine ⟨fun rest f i polls flow often => ?_, fun l' h => eq_of_prefix h⟩
  obtain ⟨j, driven, taken, left, -⟩ := drive_receive flow often
  exact ⟨j, driven, taken, left⟩

/-- A hostname that looks like an IP address comes in pieces and stays a hostname; the byte behind
it is left. -/
theorem hostname_of_digits_returns :
    let name : List UInt8 := [49, 46, 49, 46, 49, 46, 49]
    let i : Inlet := { arrivals := [.data [3], .pending, .data [7, 49, 46, 49, 46], .pending,
      .data [49, 46, 49, 0], .data [80, 9]] }
    ∃ j, drive receive 3 [] i = (some (.ok (⟨.hostname name, 80, rfl⟩, 11)), j) ∧
      j.taken = 11 ∧ j.flow = ⟨[.byte 9], false⟩ := by
  intro name i
  obtain ⟨returns, -⟩ := encoded_location_returns ⟨.hostname name, 80, rfl⟩
  obtain ⟨j, driven, taken, left⟩ := returns [9] ⟨[], false⟩ i 3 (by decide) (by decide)
  exact ⟨j, driven, taken, left⟩

variable {data : List UInt8} {field : Field} {count size : Nat} {cause : Option Failure}
  {f after : Flow} {i : Inlet} {polls : Nat}

/-! ## Data that breaks off -/

/-- Whether a read passes over what comes behind data that is too short: an interruption, except
where bytes of the host are missing. -/
def PassedOver (data : List UInt8) (cause : Option Failure) : Prop :=
  (∃ failure, cause = some failure ∧ failure.kind = .interrupted) ∧
    ¬ ∃ size, announced data = .size size ∧ data.length + 2 < size

/-- What a read comes to when a failure or an end comes behind data that is too short. The location
is cut off, and all that came has been taken. The reported cause is the failure; of an end, an
unexpected one is reported. A failure that is passed over is as if it had not been there. -/
def BreaksOff (data : List UInt8) (cause : Option Failure) (after : Flow) (i : Inlet)
    (answer : Option (Except Error (Location × Nat))) (j : Inlet) : Prop :=
  (¬ PassedOver data cause →
    (∃ source, answer = some (.error (.truncatedAddress source)) ∧
      (cause = some source ∨ cause = none ∧ source.kind = .unexpectedEof)) ∧
    j.taken = i.taken + data.length ∧ j.flow = after) ∧
  (PassedOver data cause → ∀ (k : Inlet) (polls : Nat), k.flow = after.prepend data →
    k.waits < polls → answer = (drive receive polls [] k).1 ∧
      (answer ≠ none → j.flow = (drive receive polls [] k).2.flow))

/-- A failure is passed over if it comes where a number is read. -/
theorem passedOver_iff (called : demand data = .more field count) :
    PassedOver data cause ↔ ∃ failure, cause = some failure ∧ field.triesAgain failure = true := by
  -- The host is the one field that is no number. It is called for if its length is told and more
  -- than the port is missing.
  have number : field.isNumber = true ↔
      ¬ ∃ size, announced data = .size size ∧ data.length + 2 < size := by
    rcases missing_of_more called with ⟨unclear, number, -⟩ |
      ⟨size, told, ⟨rfl, pos, left⟩ | ⟨rfl, -, few, left⟩⟩
    · simp [unclear, number]
    · exact iff_of_false (by decide) (not_not_intro ⟨size, told, by omega⟩)
    · refine iff_of_true rfl ?_
      rintro ⟨size', told', short⟩
      cases told.symm.trans told'
      omega
  simp only [PassedOver, ← number, Field.triesAgain, Bool.and_eq_true, decide_eq_true_eq]
  constructor
  · rintro ⟨⟨failure, rfl, interrupted⟩, number⟩
    exact ⟨failure, rfl, number, interrupted⟩
  · rintro ⟨failure, rfl, number, interrupted⟩
    exact ⟨⟨failure, rfl, interrupted⟩, number⟩

theorem kind_cutOff (field : Field) : field.cutOff.kind = .unexpectedEof := by
  cases field <;> rfl

/-- **Data that is too short.** -/
theorem drive_breaksOff (unsettled : Unsettled data) (stop : f.next? = some (.stop cause, after))
    (flow : i.flow = f.prepend data) (often : i.waits < polls) :
    BreaksOff data cause after i (drive receive polls [] i).1 (drive receive polls [] i).2 := by
  obtain ⟨field, count, called⟩ := id unsettled
  have gives : readOff [] i.flow = readOff data f := by rw [flow, readOff_of_unsettled unsettled]
  rw [readOff_of_more called, stop] at gives
  -- What is called for decides whether the cause ends the read.
  rw [BreaksOff, passedOver_iff called]
  constructor
  · intro ends
    have reported : ∃ source, readOff [] i.flow = some (.error (.truncatedAddress source), after) ∧
        (cause = some source ∨ cause = none ∧ source.kind = .unexpectedEof) := by
      cases cause with
      | none => exact ⟨field.cutOff, gives, .inr ⟨rfl, kind_cutOff field⟩⟩
      | some failure =>
        have ended : field.triesAgain failure ≠ true := fun again => ends ⟨failure, rfl, again⟩
        exact ⟨failure, gives.trans (if_neg ended), .inl rfl⟩
    obtain ⟨source, gives, reported⟩ := reported
    obtain ⟨j, driven, left, -⟩ := drive_receive_of_some gives often
    have taken := taken_of_drive driven flow (left ▸ Flow.bytes_of_stop stop : _ = [] ++ f.bytes)
    rw [driven]
    exact ⟨⟨source, rfl, reported⟩, taken, left⟩
  · rintro ⟨failure, rfl, again⟩ k polls' flow' often'
    -- The failure is not seen in what the flow gives, so an inlet without it gives the same.
    have same : readOff [] i.flow = readOff [] k.flow := by
      rw [flow', readOff_of_unsettled unsettled]
      exact gives.trans (if_pos again)
    exact drive_receive_of_readOff_eq same often often'

/-! ## Data that is all there -/

/-- The first `count` bytes of data settle the read, and no fewer. -/
structure Settles (data : List UInt8) (count : Nat) (result : Except Error (Location × Nat)) :
    Prop where
  pos : 0 < count
  enough : count ≤ data.length
  unsettled : Unsettled (data.take (count - 1))
  settled : demand (data.take count) = .settled result
  code : ∀ l size, result = .ok (l, size) → size = count ∧ l.encode = data.take count

theorem settles_of_unknown {code : UInt8} (told : announced data = .unknown code) :
    Settles data 1 (.error (.invalidAddressType code)) where
  pos := Nat.one_pos
  enough := List.length_pos_iff.2 fun none_there => by
    rw [none_there] at told
    cases told
  unsettled := ⟨.type, 1, rfl⟩
  settled := demand_of_unknown told
  code := nofun

/-- Data with as many bytes as it announces is settled by these. -/
theorem settles_of_size (told : announced data = .size size) (enough : size ≤ data.length) :
    ∃ result, Settles data size result ∧
      if data.take 2 = [3, 0] then result = .error (.invalidHostname .empty)
      else ∃ l : Location, result = .ok (l, size) ∧ l.encode = data.take size := by
  have pos : 0 < size := by
    obtain ⟨lead, type, hostLength, body, -, -, rfl⟩ := opens_of_size told
    omega
  have unsettled : Unsettled (data.take (size - 1)) := by
    rw [← List.take_append_drop (size - 1) data] at told
    refine unsettled_of_short told ?_
    rw [List.length_take_of_le (by omega)]
    omega
  obtain ⟨refused, complete⟩ := demand_of_size told enough
  by_cases no_byte : data.take 2 = [3, 0]
  · exact ⟨_, ⟨pos, enough, unsettled, refused no_byte, nofun⟩, (if_pos no_byte).mpr rfl⟩
  · obtain ⟨l, settled, code⟩ := complete no_byte
    refine ⟨_, ⟨pos, enough, unsettled, settled, ?_⟩, (if_neg no_byte).mpr ⟨l, rfl, code⟩⟩
    rintro _ _ ⟨⟩
    exact ⟨rfl, code⟩

/-- **As many bytes as settle a read** are taken, and what is behind them is left. -/
theorem drive_of_settles {result : Except Error (Location × Nat)} (h : Settles data count result)
    (flow : i.flow = f.prepend data) (often : i.waits < polls) :
    ∃ j, drive receive polls [] i = (some result, j) ∧ j.taken = i.taken + count ∧
      j.flow = f.prepend (data.drop count) := by
  have pos := h.pos
  have length : (data.take count).length = count := List.length_take_of_le h.enough
  have some_bytes : data.take count ≠ [] := List.ne_nil_of_length_pos (by omega)
  -- All but the last of these bytes leave the read unsettled.
  have shorter : (data.take count).dropLast = data.take (count - 1) := by
    rw [List.dropLast_eq_take, length, List.take_take, Nat.min_eq_left (Nat.sub_le count 1)]
  rw [← List.take_append_drop count data] at flow
  obtain ⟨j, driven, taken, left, -⟩ :=
    drive_receive_of_settling some_bytes (shorter ▸ h.unsettled) h.settled flow often
  exact ⟨j, driven, length ▸ taken, left⟩

/-! ## Byte sequences -/

/-- Data that is too short is taken whole. -/
theorem decode_of_more (called : demand data = .more field count) :
    decode data = (.error (.truncatedAddress field.cutOff), []) := by
  rw [demand] at called
  rw [decode]
  split at called
  · cases called
    rfl
  · cases called
  · split at called
    · next host =>
      cases called
      exact if_pos host
    · next host =>
      split at called
      · next port =>
        cases called
        exact (if_neg host).trans (if_pos port)
      · cases called

/-- Of data that settles a read, so much is taken as does. -/
theorem decode_of_settled {result : Except Error (Location × Nat)}
    (settled : demand data = .settled result) :
    ∃ count, Settles data count result ∧ decode data = (result, data.drop count) := by
  rcases settled_cases settled with ⟨type, rest, rfl, told, unknown, rfl⟩ |
    ⟨lead, type, hostLength, body, rfl, opens, enough, rfl⟩
  · exact ⟨1, settles_of_unknown (told rest), by rw [decode, unknown]⟩
  · obtain ⟨result', settles, -⟩ :=
      settles_of_size (opens.announced body) (by rw [List.length_append]; omega)
    -- The bytes that settle the read settle it as all of the data does.
    have same := demand_append_of_settled settles.settled
      ((lead ++ body).drop (lead.length + hostLength + 2))
    rw [List.take_append_drop, settled] at same
    cases same
    refine ⟨_, settles, ?_⟩
    rw [decode, opens.header, Nat.add_assoc, List.drop_length_add_append]
    exact (if_neg (by omega)).trans (if_neg (by omega))

/-- A location read from a byte sequence is the one whose code is in front. -/
theorem decode_ok {l : Location} (decoded : (decode data).1 = .ok (l, size)) :
    size ≤ data.length ∧ l.encode = data.take size ∧ (decode data).2 = data.drop size := by
  cases called : demand data with
  | more field count =>
    rw [decode_of_more called] at decoded
    cases decoded
  | settled result =>
    obtain ⟨count, settles, read⟩ := decode_of_settled called
    rw [read] at decoded ⊢
    obtain ⟨rfl, code⟩ := settles.code l size decoded
    exact ⟨settles.enough, code, rfl⟩

/-- The code of a location is read back, whatever comes behind it. -/
theorem decode_encode (l : Location) (more : List UInt8) :
    (decode (l.encode ++ more)).1 = .ok (l, l.encodedLength) := by
  obtain ⟨count, -, read⟩ := decode_of_settled (demand_append_of_settled l.demand_encode more)
  rw [read]

/-- A part of the code of a location is not read. -/
theorem decode_part {l : Location} {part missing : List UInt8} (h : l.encode = part ++ missing)
    (some_missing : missing ≠ []) :
    ∃ source, (decode part).1 = .error (.truncatedAddress source) ∧
      source.kind = .unexpectedEof := by
  obtain ⟨field, count, called⟩ := unsettled_part some_missing h
  rw [decode_of_more called]
  exact ⟨field.cutOff, rfl, kind_cutOff field⟩

/-- **A byte sequence is read as an inlet is** that brings it and ends. What is left of it is what
the read from the inlet does not take. -/
theorem drive_eq_decode (ends : f.next? = some (.stop none, after)) (flow : i.flow = f.prepend data)
    (often : i.waits < polls) :
    ∃ j front, drive receive polls [] i = (some (decode data).1, j) ∧
      data = front ++ (decode data).2 ∧ j.taken = i.taken + front.length := by
  cases called : demand data with
  | more field count =>
    have gives : readOff [] i.flow = some (.error (.truncatedAddress field.cutOff), after) := by
      rw [flow, readOff_of_unsettled ⟨field, count, called⟩, readOff_of_more called, ends]
    obtain ⟨j, driven, left, -⟩ := drive_receive_of_some gives often
    have taken := taken_of_drive driven flow (left ▸ Flow.bytes_of_stop ends : _ = [] ++ f.bytes)
    rw [decode_of_more called]
    exact ⟨j, data, driven, (List.append_nil data).symm, taken⟩
  | settled result =>
    obtain ⟨count, settles, decoded⟩ := decode_of_settled called
    obtain ⟨j, driven, taken, -⟩ := drive_of_settles settles flow often
    rw [decoded]
    refine ⟨j, data.take count, driven, (List.take_append_drop count data).symm, ?_⟩
    rw [taken, List.length_take_of_le settles.enough]

/-! ## Any data -/

/-- **What a read of a location comes to, for any data.** Let an inlet bring the data, in whatever
pieces and with waits anywhere, and then a failure or an end. An unknown type is refused, and taken
alone. Otherwise the data announces how many bytes there have to be. If these do not all come, the
data breaks off. If they come, just these are taken: a hostname of no byte is refused, and in every
other case the read gives a location and the number of these bytes, which are its code. -/
theorem reads_classified (data : List UInt8) (stop : f.next? = some (.stop cause, after))
    (flow : i.flow = f.prepend data) (often : i.waits < polls) :
    let answer := (drive receive polls [] i).1
    let j := (drive receive polls [] i).2
    match announced data with
    | .unclear => BreaksOff data cause after i answer j
    | .unknown type => answer = some (.error (.invalidAddressType type)) ∧
      j.taken = i.taken + 1 ∧ j.flow = f.prepend (data.drop 1)
    | .size n =>
      if data.length < n then BreaksOff data cause after i answer j
      else j.taken = i.taken + n ∧ j.flow = f.prepend (data.drop n) ∧
        if data.take 2 = [3, 0] then answer = some (.error (.invalidHostname .empty))
        else ∃ l : Location, answer = some (.ok (l, n)) ∧ l.encode = data.take n := by
  intro answer j
  -- Either the data is too short, or a first part of it settles the read.
  have broken (unsettled : Unsettled data) : BreaksOff data cause after i answer j :=
    drive_breaksOff unsettled stop flow often
  have read {count result} (settles : Settles data count result) :
      answer = some result ∧ j.taken = i.taken + count ∧
        j.flow = f.prepend (data.drop count) := by
    obtain ⟨k, driven, taken, left⟩ := drive_of_settles settles flow often
    simp only [answer, j, driven, taken, left, and_self]
  split
  case h_1 unclear => exact broken (unsettled_iff.2 (.inl unclear))
  case h_2 type unknown => exact read (settles_of_unknown unknown)
  case h_3 n told =>
    by_cases short : data.length < n
    · rw [if_pos short]
      exact broken (unsettled_iff.2 (.inr ⟨n, told, short⟩))
    · obtain ⟨result, settles, complete⟩ := settles_of_size told (Nat.not_lt.1 short)
      obtain ⟨answered, taken, left⟩ := read settles
      rw [if_neg short, answered]
      refine ⟨taken, left, ?_⟩
      by_cases no_byte : data.take 2 = [3, 0]
      · rw [if_pos no_byte] at complete ⊢
        rw [complete]
      · rw [if_neg no_byte] at complete ⊢
        obtain ⟨l, rfl, code⟩ := complete
        exact ⟨l, rfl, code⟩

/-- A reset comes inside the port of a hostname: the location is cut off, its bytes are taken. -/
theorem reset_classified :
    let reset : Failure := ⟨.connectionReset, "reset"⟩
    let i : Inlet := { arrivals :=
      [.data [3, 1], .pending, .data [97, 0], .failed reset, .data [53]] }
    ∃ j, drive receive 2 [] i = (some (.error (.truncatedAddress reset)), j) ∧ j.taken = 4 ∧
      j.flow = ⟨[.byte 53], false⟩ := by
  intro reset i
  obtain ⟨cut, -⟩ := reads_classified [3, 1, 97, 0] (f := ⟨[.stop (some reset), .byte 53], false⟩)
    (i := i) rfl rfl (show i.waits < 2 by decide)
  have surfaced : ¬ PassedOver [3, 1, 97, 0] (some reset) := by
    rintro ⟨⟨failure, same, interrupted⟩, -⟩
    cases same
    cases interrupted
  obtain ⟨⟨source, answered, reported | ⟨ended, -⟩⟩, taken, left⟩ := cut surfaced
  · cases reported
    exact ⟨_, Prod.ext answered rfl, taken, left⟩
  · cases ended

/-- An interruption comes before any byte. A location behind it is read all the same; and if nothing
is behind it, there is no answer, however often the read is polled. -/
theorem interruption_passed_over :
    let interruption : Failure := ⟨.interrupted, "eintr"⟩
    let stopped : Inlet := { arrivals := [.failed interruption], staysOpen := true }
    let i : Inlet := { arrivals := [.failed interruption, .data [1, 10, 0, 0, 1, 0, 53]] }
    announced [] = .unclear ∧
      (drive receive 1 [] i).1 = some (.ok (ofIpv4 ⟨[10, 0, 0, 1], rfl⟩ 53, 7)) ∧
      ∀ polls, (drive receive polls [] stopped).1 = none := by
  intro interruption stopped i
  have called : demand [] = .more .type 1 := rfl
  have nothing : readOff [] ⟨[], true⟩ = none := readOff_of_more called _
  have passed_over : readOff [] stopped.flow = readOff [] ⟨[], true⟩ :=
    (readOff_of_more called _).trans (if_pos rfl)
  exact ⟨rfl, by cbv, drive_receive_of_none (passed_over.trans nothing)⟩

end DatagramTunnel.Location
