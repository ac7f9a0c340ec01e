import DatagramTunnel.Location.Receiving
import DatagramTunnel.Proofs.Call
import DatagramTunnel.Proofs.Location.Demand
import DatagramTunnel.Proofs.Transport.Flow

/-!
# Receiving a location

`readOff` says what a read of a location makes of a flow, one byte, failure or end after the other,
without chunks or waits. A read from an inlet has the same result, and leaves the same flow behind,
if it is polled often enough: `drive_receive_of_some`. So a location that comes out of an inlet is
received, in whatever pieces it comes, and what follows it stays in the inlet: `drive_receive`. If
the inlet ends inside the location, it is cut off: `drive_receive_cut`.
-/

namespace DatagramTunnel.Location

variable {taken bytes more : List UInt8} {f after rest : Flow} {cause : Option Failure}
  {result : Except Error (Location × Nat)} {field : Field} {count : Nat}

/-! ## Reading off a flow -/

/-- What a read of a location makes of a flow when `taken` are its bytes read so far: the result,
and the flow behind what was read. There is none if too few items come, and nothing else. -/
def readOff (taken : List UInt8) (f : Flow) :
    Option (Except Error (Location × Nat) × Flow) :=
  match demand taken with
  | .settled result => some (result, f)
  | .more field _ => match next : f.next? with
    | none => none
    | some (.byte b, rest) =>
      have := Flow.length_items_lt next (by simp)
      readOff (taken ++ [b]) rest
    | some (.stop none, rest) => some (.error (.truncatedAddress field.cutOff), rest)
    | some (.stop (some cause), rest) =>
      have := Flow.length_items_lt next (by simp)
      if field.triesAgain cause then readOff taken rest
      else some (.error (.truncatedAddress cause), rest)
termination_by f.items.length

theorem readOff_of_settled (settled : demand taken = .settled result) (f : Flow) :
    readOff taken f = some (result, f) := by
  rw [readOff, settled]

/-- Where more is called for, the next item decides. -/
theorem readOff_of_more (called : demand taken = .more field count) (f : Flow) :
    readOff taken f = match f.next? with
      | none => none
      | some (.byte b, rest) => readOff (taken ++ [b]) rest
      | some (.stop none, rest) => some (.error (.truncatedAddress field.cutOff), rest)
      | some (.stop (some cause), rest) =>
        if field.triesAgain cause then readOff taken rest
        else some (.error (.truncatedAddress cause), rest) := by
  rw [readOff]
  simp only [called]
  split <;> next next => rw [next]

theorem readOff_of_byte (unsettled : Unsettled taken) {b : UInt8}
    (next : f.next? = some (.byte b, rest)) : readOff taken f = readOff (taken ++ [b]) rest := by
  obtain ⟨field, count, called⟩ := unsettled
  rw [readOff_of_more called, next]

/-- Bytes that leave the read unsettled are read. -/
theorem readOff_prepend (unsettled : Unsettled (taken ++ bytes)) (f : Flow) :
    readOff taken (f.prepend bytes) = readOff (taken ++ bytes) f := by
  -- One byte after the other: none of them settles the read, because all together do not.
  induction bytes generalizing taken with
  | nil => rw [Flow.prepend_nil, List.append_nil]
  | cons b bytes ih =>
    have whole : taken ++ b :: bytes = taken ++ [b] ++ bytes := by simp
    rw [readOff_of_byte unsettled.of_append (f.next?_prepend_cons b bytes), whole]
    exact ih (whole ▸ unsettled)

/-- One more byte than these is read, too. -/
theorem readOff_prepend_concat (unsettled : Unsettled (taken ++ bytes)) (b : UInt8) (f : Flow) :
    readOff taken (f.prepend (bytes ++ [b])) = readOff (taken ++ (bytes ++ [b])) f := by
  rw [Flow.prepend_append, readOff_prepend unsettled, ← List.append_assoc]
  exact readOff_of_byte unsettled (f.next?_prepend_cons b [])

/-- **Bytes that just settle a read**: it ends behind the last of them. -/
theorem readOff_of_settling (some_bytes : bytes ≠ []) (unsettled : Unsettled bytes.dropLast)
    (settled : demand bytes = .settled result) (f : Flow) :
    readOff [] (f.prepend bytes) = some (result, f) := by
  have divided := List.dropLast_concat_getLast some_bytes
  have from_nothing : Unsettled ([] ++ bytes.dropLast) := unsettled
  have read := readOff_prepend_concat from_nothing (bytes.getLast some_bytes) f
  rw [divided] at read
  exact read.trans (readOff_of_settled settled f)

/-- **Bytes that leave a read unsettled**: what comes behind them decides. -/
theorem readOff_of_unsettled (unsettled : Unsettled bytes) (f : Flow) :
    readOff [] (f.prepend bytes) = readOff bytes f := by
  have from_nothing : Unsettled ([] ++ bytes) := unsettled
  exact readOff_prepend from_nothing f

/-! ## Receiving is reading off the flow -/

/-- What a poll makes of an inlet. An answer is the one that the flow gives, and leaves the flow
behind that is left over. Without one, the flow still gives the same, and one of the waits is used
up, unless it gives no answer at all. -/
def Follows (taken : List UInt8) (i : Inlet) :
    Progress (List UInt8) (Except Error (Location × Nat)) × Inlet → Prop
  | (.ready result, j) => readOff taken i.flow = some (result, j.flow) ∧ j.waits ≤ i.waits
  | (.waiting taken', j) => readOff taken' j.flow = readOff taken i.flow ∧
      (j.waits < i.waits ∨ readOff taken i.flow = none)

/-- A poll that goes on after a read. -/
theorem Follows.of_read {taken' : List UInt8} {i j : Inlet}
    (same : readOff taken i.flow = readOff taken' j.flow) (waits : j.waits ≤ i.waits)
    {polled : Progress (List UInt8) (Except Error (Location × Nat)) × Inlet}
    (later : Follows taken' j polled) : Follows taken i polled := by
  match polled, later with
  | (.ready _, _), ⟨gives, fewer⟩ => exact ⟨same.trans gives, Nat.le_trans fewer waits⟩
  | (.waiting _, _), ⟨gives, fewer⟩ =>
    exact ⟨gives.trans same.symm, fewer.imp (Nat.lt_of_lt_of_le · waits) same.trans⟩

/-- The bytes of one read are read off the flow one by one: they are no more than were called for,
so only the last of them can settle the read. -/
theorem readOff_chunk (called : demand taken = .more field count) {b : UInt8} {bs : List UInt8}
    (short : (b :: bs).length ≤ count) (f : Flow) :
    readOff taken (f.prepend (b :: bs)) = readOff (taken ++ b :: bs) f := by
  have divided := List.dropLast_concat_getLast (List.cons_ne_nil b bs)
  have fewer : (b :: bs).dropLast.length < count := by
    rw [List.length_dropLast]
    simp only [List.length_cons] at short ⊢
    omega
  rw [← divided]
  exact readOff_prepend_concat (unsettled_append called fewer) _ f

/-- **One poll.** The induction is on the reads that bring bytes, or a failure that is passed
over. -/
theorem receive_follows (taken : List UInt8) (i : Inlet) : Follows taken i (receive taken i) := by
  fun_induction receive taken i with
  | case1 taken i result settled => exact ⟨readOff_of_settled settled _, Nat.le_refl _⟩
  | case2 taken i field count called j read =>
    have flow : j.flow = i.flow := Inlet.read_flow (count_pos called) read
    refine ⟨by rw [flow], (Inlet.waits_lt_of_pending read).imp_right fun nothing => ?_⟩
    rw [readOff_of_more called, nothing]
  | case3 taken i field count called cause j read _ again ih =>
    have stop : i.flow.next? = some (.stop (some cause), j.flow) :=
      Inlet.read_flow (count_pos called) read
    refine ih.of_read ?_ (Inlet.waits_read_le read)
    rw [readOff_of_more called, stop]
    exact if_pos again
  | case4 taken i field count called cause j read _ ends =>
    have stop : i.flow.next? = some (.stop (some cause), j.flow) :=
      Inlet.read_flow (count_pos called) read
    refine ⟨?_, Inlet.waits_read_le read⟩
    rw [readOff_of_more called, stop]
    exact if_neg ends
  | case5 taken i field count called j read =>
    have stop : i.flow.next? = some (.stop none, j.flow) :=
      Inlet.read_flow (count_pos called) read
    refine ⟨?_, Inlet.waits_read_le read⟩
    rw [readOff_of_more called, stop]
  | case6 taken i field count called b bs j read _ ih =>
    have flow : i.flow = j.flow.prepend (b :: bs) := Inlet.read_flow (count_pos called) read
    refine ih.of_read ?_ (Inlet.waits_read_le read)
    rw [flow, readOff_chunk called (Inlet.length_le_of_read read)]

/-- **A read that the flow answers** has this answer if it is polled often enough. -/
theorem drive_receive_of_some {i : Inlet} (gives : readOff [] i.flow = some (result, rest))
    {polls : Nat} (often : i.waits < polls) :
    ∃ j, drive receive polls [] i = (some result, j) ∧ j.flow = rest ∧ j.waits ≤ i.waits := by
  -- The invariant over the polls: the flow that is left gives the same answer as the whole flow.
  have answered taken j result' j'
      (coming : readOff taken j.flow = some (result, rest) ∧ j.waits ≤ i.waits)
      (polled : receive taken j = (.ready result', j')) :
      result' = result ∧ j'.flow = rest ∧ j'.waits ≤ i.waits := by
    have follows := receive_follows taken j
    rw [polled, Follows, coming.1] at follows
    obtain ⟨same, waits⟩ := follows
    cases same
    exact ⟨rfl, rfl, Nat.le_trans waits coming.2⟩
  have kept taken j taken' j'
      (coming : readOff taken j.flow = some (result, rest) ∧ j.waits ≤ i.waits)
      (polled : receive taken j = (.waiting taken', j')) :
      (readOff taken' j'.flow = some (result, rest) ∧ j'.waits ≤ i.waits) ∧ j'.waits < j.waits := by
    have follows := receive_follows taken j
    rw [polled, Follows, coming.1] at follows
    obtain ⟨same, fewer | nothing⟩ := follows
    · exact ⟨⟨same, Nat.le_trans (Nat.le_of_lt fewer) coming.2⟩, fewer⟩
    · cases nothing
  obtain ⟨_, j, driven, rfl, left, waits⟩ := drive_answers receive Inlet.waits answered kept [] i
    ⟨gives, Nat.le_refl _⟩ often
  exact ⟨j, driven, left, waits⟩

/-- A read that the flow does not answer has no answer, however often it is polled. -/
theorem drive_receive_of_none {i : Inlet} (gives : readOff [] i.flow = none) (polls : Nat) :
    (drive receive polls [] i).1 = none := by
  refine drive_induction (I := fun taken j => readOff taken j.flow = none)
    (Q := fun answer _ => answer = none) (fun _ _ _ => rfl) ?_ ?_ polls [] i gives
  · intro taken j result j' nothing polled
    have follows := receive_follows taken j
    rw [polled, Follows, nothing] at follows
    cases follows.1
  · intro taken j taken' j' nothing polled
    have follows := receive_follows taken j
    rw [polled, Follows, nothing] at follows
    exact follows.1

/-- **Chunks and waits do not matter**: inlets whose flows give the same give the same answer, and
with an answer they leave the same. -/
theorem drive_receive_of_readOff_eq {i j : Inlet} (same : readOff [] i.flow = readOff [] j.flow)
    {polls polls' : Nat} (often : i.waits < polls) (often' : j.waits < polls') :
    (drive receive polls [] i).1 = (drive receive polls' [] j).1 ∧
      ((drive receive polls [] i).1 ≠ none →
        (drive receive polls [] i).2.flow = (drive receive polls' [] j).2.flow) := by
  cases gives : readOff [] i.flow with
  | none =>
    rw [drive_receive_of_none gives, drive_receive_of_none (same.symm.trans gives)]
    exact ⟨rfl, fun answered => absurd rfl answered⟩
  | some given =>
    obtain ⟨result, rest⟩ := given
    obtain ⟨i', driven, left, -⟩ := drive_receive_of_some gives often
    obtain ⟨j', driven', left', -⟩ := drive_receive_of_some (same.symm.trans gives) often'
    rw [driven, driven']
    exact ⟨rfl, fun _ => left.trans left'.symm⟩

/-- What has been taken and what is still to come make up the same number all the time. -/
theorem taken_drive_receive (polls : Nat) (i : Inlet) :
    (drive receive polls [] i).2.taken + (drive receive polls [] i).2.unread =
      i.taken + i.unread := by
  refine drive_keeps
    (R := fun i j => j.taken + j.unread = i.taken + i.unread)
    (fun _ => rfl) (fun _ _ _ first second => second.trans first) ?_ polls [] i
  intro taken i
  fun_induction receive taken i with
  | case1 taken i result settled => rfl
  | case2 taken i field count called j read => exact Inlet.taken_read read
  | case3 taken i field count called cause j read _ again ih =>
    exact ih.trans (Inlet.taken_read read)
  | case4 taken i field count called cause j read _ ends => exact Inlet.taken_read read
  | case5 taken i field count called j read => exact Inlet.taken_read read
  | case6 taken i field count called b bs j read _ ih => exact ih.trans (Inlet.taken_read read)

/-- As many bytes have been taken as the flow has fewer than before. -/
theorem taken_of_drive {i j : Inlet} {polls : Nat}
    {answer : Option (Except Error (Location × Nat))}
    (driven : drive receive polls [] i = (answer, j))
    (flow : i.flow = f.prepend bytes) (left : j.flow.bytes = more ++ f.bytes) :
    j.taken + more.length = i.taken + bytes.length := by
  have total := taken_drive_receive polls i
  rw [driven] at total
  simp only [Inlet.unread, ← Inlet.bytes_flow, flow, left, Flow.bytes_prepend,
    List.length_append] at total
  omega

/-! ## A location that comes, or a part of it -/

/-- **Bytes that just settle a read, and more**: the read takes these and leaves what is behind. -/
theorem drive_receive_of_settling (some_bytes : bytes ≠ []) (unsettled : Unsettled bytes.dropLast)
    (settled : demand bytes = .settled result) {i : Inlet}
    (flow : i.flow = f.prepend (bytes ++ more)) {polls : Nat} (often : i.waits < polls) :
    ∃ j, drive receive polls [] i = (some result, j) ∧ j.taken = i.taken + bytes.length ∧
      j.flow = f.prepend more ∧ j.waits ≤ i.waits := by
  have gives : readOff [] i.flow = some (result, f.prepend more) := by
    rw [flow, Flow.prepend_append]
    exact readOff_of_settling some_bytes unsettled settled _
  obtain ⟨j, driven, left, waits⟩ := drive_receive_of_some gives often
  have taken := taken_of_drive driven flow (left ▸ f.bytes_prepend more)
  rw [List.length_append] at taken
  exact ⟨j, driven, by omega, left, waits⟩

variable {l : Location}

/-- **A location that comes is received**, in whatever pieces, and what follows it is left. -/
theorem drive_receive {i : Inlet} (flow : i.flow = f.prepend (l.encode ++ more)) {polls : Nat}
    (often : i.waits < polls) :
    ∃ j, drive receive polls [] i = (some (.ok (l, l.encodedLength)), j) ∧
      j.taken = i.taken + l.encodedLength ∧ j.flow = f.prepend more ∧ j.waits ≤ i.waits := by
  have some_bytes : l.encode ≠ [] := by rw [encode_eq]; cases l.address <;> simp [lead]
  -- No first part of the code settles the read, so it ends with the last byte.
  have unsettled := unsettled_part (List.cons_ne_nil (l.encode.getLast some_bytes) [])
    (List.dropLast_concat_getLast some_bytes).symm
  have settled : demand l.encode = .settled (.ok (l, l.encode.length)) :=
    length_encode l ▸ l.demand_encode
  rw [← length_encode]
  exact drive_receive_of_settling some_bytes unsettled settled flow often

/-- **A location that is cut off is not received.** -/
theorem drive_receive_cut {part missing : List UInt8} {i : Inlet} (h : l.encode = part ++ missing)
    (some_missing : missing ≠ []) (flow : i.flow = f.prepend part)
    (ends : f.next? = some (.stop none, after)) {polls : Nat} (often : i.waits < polls) :
    ∃ j, ∃ field : Field,
      drive receive polls [] i = (some (.error (.truncatedAddress field.cutOff)), j) := by
  obtain ⟨field, count, called⟩ := unsettled_part some_missing h
  have gives : readOff [] i.flow = some (.error (.truncatedAddress field.cutOff), after) := by
    rw [flow, readOff_of_unsettled ⟨field, count, called⟩, readOff_of_more called, ends]
  obtain ⟨j, driven, -⟩ := drive_receive_of_some gives often
  exact ⟨j, field, driven⟩

end DatagramTunnel.Location
