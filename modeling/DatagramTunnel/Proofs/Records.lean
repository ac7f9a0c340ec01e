import DatagramTunnel.Record

/-!
# Records one after the other

`Record.encodeAll` is what a stream of whole records looks like. A record that breaks off is a
`ProperPart` of it. Since a record tells its own length, bytes divide up into records in one way
only: `encodeAll_append_part_ne` says that whole records and a part of one more are never whole
records.
-/

namespace DatagramTunnel.Record

/-- The records of some payloads, one after the other. -/
def encodeAll (payloads : List (List UInt8)) : List UInt8 := payloads.flatMap encode

@[simp] theorem encodeAll_nil : encodeAll [] = [] := rfl

@[simp] theorem encodeAll_cons (payload : List UInt8) (payloads : List (List UInt8)) :
    encodeAll (payload :: payloads) = encode payload ++ encodeAll payloads := rfl

@[simp] theorem encodeAll_append (first second : List (List UInt8)) :
    encodeAll (first ++ second) = encodeAll first ++ encodeAll second := List.flatMap_append

/-- A first part of a record, neither empty nor all of it. -/
def ProperPart (part record : List UInt8) : Prop :=
  part ≠ [] ∧ ∃ rest, rest ≠ [] ∧ record = part ++ rest

/-- Each record has its length, at least. -/
theorem encode_ne_nil (payload : List UInt8) : encode payload ≠ [] := by
  simp [encode, BigEndian.encode]

/-- Bytes with a complete record in front are that record and what follows it. -/
theorem eq_of_split? {bytes payload rest : List UInt8}
    (h : split? bytes = some (payload, rest)) : bytes = encode payload ++ rest := by
  match bytes, h with
  | high :: low :: body, h =>
    simp only [split?] at h
    split at h
    · next enough =>
      obtain ⟨rfl, rfl⟩ := Prod.mk.inj (Option.some.inj h)
      rw [encode, List.length_take_of_le enough, BigEndian.encode_decode, List.append_assoc,
        List.take_append_drop]
      rfl
    · cases h

/-- No record is longer than the longest one. -/
theorem extent_le (bytes : List UInt8) : extent bytes ≤ lengthSize + maxPacketSize := by
  unfold extent
  split
  · next high low _ =>
    have := BigEndian.decode_lt high low
    simp only [maxPacketSize]
    omega
  · exact Nat.le_add_right _ _

/-- A complete record in front ends where its length says. -/
theorem drop_extent_of_split? {bytes payload rest : List UInt8}
    (h : split? bytes = some (payload, rest)) :
    extent bytes ≤ bytes.length ∧ bytes.drop (extent bytes) = rest := by
  match bytes, h with
  | high :: low :: body, h =>
    simp only [split?] at h
    split at h
    · next enough =>
      obtain ⟨rfl, rfl⟩ := Prod.mk.inj (Option.some.inj h)
      simp only [extent, lengthSize, List.length_cons]
      refine ⟨by omega, ?_⟩
      rw [Nat.add_comm, List.drop_succ_cons, List.drop_succ_cons]
    · cases h

/-- A complete record in front stays in front, whatever follows. -/
theorem split?_append {bytes payload rest : List UInt8}
    (h : split? bytes = some (payload, rest)) (later : List UInt8) :
    split? (bytes ++ later) = some (payload, rest ++ later) := by
  match bytes, h with
  | high :: low :: body, h =>
    simp only [split?] at h
    split at h
    · next enough =>
      obtain ⟨rfl, rfl⟩ := Prod.mk.inj (Option.some.inj h)
      have enough' : BigEndian.decode high low ≤ (body ++ later).length := by
        rw [List.length_append]
        omega
      simp only [List.cons_append, split?, if_pos enough', List.take_append_of_le_length enough,
        List.drop_append_of_le_length enough]
    · simp at h

/-- A part of a record is not read as a record. -/
theorem split?_part {part payload : List UInt8} (fits : payload.length ≤ maxPacketSize)
    (h : ProperPart part (encode payload)) : split? part = none := by
  obtain ⟨-, rest, some_left, whole⟩ := h
  cases front : split? part with
  | none => rfl
  | some read =>
    obtain ⟨payload', later⟩ := read
    -- If a record could be split off the part, the same one could be split off the whole, and
    -- something would be left over.
    have all := split?_encode fits []
    rw [List.append_nil, whole, split?_append front] at all
    have none_left : later ++ rest = [] := (Prod.mk.inj (Option.some.inj all)).2
    exact absurd (List.append_eq_nil_iff.1 none_left).2 some_left

/-- How long a record is of which a part has arrived: unknown before its length is there. -/
theorem extent_part {part payload : List UInt8} (fits : payload.length ≤ maxPacketSize)
    (h : ProperPart part (encode payload)) :
    extent part = if part.length < lengthSize then lengthSize else lengthSize + payload.length := by
  obtain ⟨-, rest, -, whole⟩ := h
  simp only [maxPacketSize] at fits
  rcases part with _ | ⟨high, _ | ⟨low, body⟩⟩
  · rfl
  · rfl
  · simp only [encode, BigEndian.encode, List.cons_append, List.nil_append,
      List.cons.injEq] at whole
    obtain ⟨rfl, rfl, -⟩ := whole
    rw [extent, BigEndian.decode_encode (show payload.length < 65536 by omega), if_neg]
    simp [lengthSize]

/-- **Whole records and a part of one more are never whole records.** -/
theorem encodeAll_append_part_ne {payloads others : List (List UInt8)} {part payload : List UInt8}
    (fit : ∀ p ∈ payloads, p.length ≤ maxPacketSize)
    (others_fit : ∀ p ∈ others, p.length ≤ maxPacketSize)
    (fits : payload.length ≤ maxPacketSize) (h : ProperPart part (encode payload)) :
    encodeAll payloads ++ part ≠ encodeAll others := by
  -- The induction is on the whole records in front, which are split off on both sides.
  induction payloads generalizing others with
  | nil =>
    intro same
    cases others with
    | nil => exact h.1 same
    | cons other others =>
      have other_fits := others_fit other List.mem_cons_self
      have front := split?_encode other_fits (encodeAll others)
      rw [← encodeAll_cons, ← same] at front
      simp [split?_part fits h] at front
  | cons p payloads ih =>
    intro same
    have front := split?_encode (fit p List.mem_cons_self) (encodeAll payloads ++ part)
    rw [← List.append_assoc, ← encodeAll_cons, same] at front
    cases others with
    | nil => simp [split?] at front
    | cons other others =>
      have other_fits := others_fit other List.mem_cons_self
      rw [encodeAll_cons, split?_encode other_fits] at front
      obtain ⟨-, later⟩ := Prod.mk.inj (Option.some.inj front)
      exact ih (fun p mem => fit p (List.mem_cons_of_mem _ mem))
        (fun p mem => others_fit p (List.mem_cons_of_mem _ mem)) later.symm

/-- **A cut through records** leaves the records in front of it, and a part of the next one unless
it falls between two. -/
theorem take_encodeAll (count : Nat) (payloads : List (List UInt8)) :
    ∃ inside part, (encodeAll payloads).take count = encodeAll inside ++ part ∧
      inside <+: payloads ∧
      (part = [] ∨ ∃ next, inside ++ [next] <+: payloads ∧ ProperPart part (encode next)) := by
  induction payloads generalizing count with
  | nil => exact ⟨[], [], by simp, List.nil_prefix, Or.inl rfl⟩
  | cons payload payloads ih =>
    rw [encodeAll_cons]
    -- Either the first record lies in front of the cut, or the cut falls into it or in front of it.
    by_cases whole : (encode payload).length ≤ count
    · obtain ⟨inside, part, cut, front, next⟩ := ih (count - (encode payload).length)
      refine ⟨payload :: inside, part, ?_, List.cons_prefix_cons.2 ⟨rfl, front⟩, ?_⟩
      · rw [List.take_append, List.take_of_length_le whole, cut, encodeAll_cons, List.append_assoc]
      · exact next.imp_right fun ⟨next, front, proper⟩ =>
          ⟨next, List.cons_prefix_cons.2 ⟨rfl, front⟩, proper⟩
    · refine ⟨[], (encode payload).take count, ?_, List.nil_prefix, ?_⟩
      · rw [List.take_append_of_le_length (by omega)]
        rfl
      · by_cases nothing : count = 0
        · exact Or.inl (by rw [nothing, List.take_zero])
        · have taken : (encode payload).take count ≠ [] := by
            simp [nothing, encode_ne_nil]
          have left : (encode payload).drop count ≠ [] := by
            rw [Ne, List.drop_eq_nil_iff]
            omega
          exact Or.inr ⟨payload, List.prefix_append [payload] payloads, taken, _, left,
            (List.take_append_drop count (encode payload)).symm⟩

end DatagramTunnel.Record
