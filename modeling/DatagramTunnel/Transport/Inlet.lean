import DatagramTunnel.Call

/-!
# The read side of a transport

An inlet is known by what it will do: a list of events, and what comes when they are used up. A read
takes at most as many bytes as the reader has room for; the others stay in front. `rest_of_read`
says that no byte is lost, made up or moved on the way.
-/

namespace DatagramTunnel

/-- What the read side of a transport does at one read. -/
inductive Arrival where
  /-- Bytes come in, for as many reads as it takes. -/
  | data (bytes : List UInt8)
  /-- One read gets no byte, which is how a stream ends. -/
  | ended
  | failed (cause : Failure)
  | pending
  deriving DecidableEq

/-- The read side of a transport. -/
structure Inlet where
  arrivals : List Arrival
  /-- After the last arrival nothing comes, but the stream does not end. -/
  staysOpen : Bool := false
  /-- How many bytes have been read. -/
  taken : Nat := 0
  deriving DecidableEq

namespace Inlet

/-- The bytes that an arrival brings. -/
def bytesOf : Arrival → List UInt8
  | .data bytes => bytes
  | _ => []

/-- The bytes that are still to come. -/
def rest (i : Inlet) : List UInt8 := i.arrivals.flatMap bytesOf

/-- How many bytes are still to come. -/
def unread (i : Inlet) : Nat := i.rest.length

/-- Reads at most `room` bytes. -/
def read (room : Nat) (i : Inlet) : Reply (List UInt8) × Inlet :=
  match i.arrivals with
  | [] => (if i.staysOpen then .pending else .done [], i)
  | .data bytes :: later =>
    let chunk := bytes.take room
    let left := bytes.drop room
    let arrivals := if left.isEmpty then later else .data left :: later
    (.done chunk, { i with arrivals, taken := i.taken + chunk.length })
  | .ended :: later => (.done [], { i with arrivals := later })
  | .failed cause :: later => (.failed cause, { i with arrivals := later })
  | .pending :: later => (.pending, { i with arrivals := later })

/-- More will come. -/
def feed (i : Inlet) (arrivals : List Arrival) : Inlet :=
  { i with arrivals := i.arrivals ++ arrivals }

/-- The bytes of a read are the first of those that were to come. -/
theorem rest_of_read {room : Nat} {i j : Inlet} {chunk : List UInt8}
    (h : i.read room = (.done chunk, j)) : chunk ++ j.rest = i.rest := by
  unfold read at h
  split at h
  · next hi =>
    split at h
    · simp at h
    · simp only [Prod.mk.injEq, Reply.done.injEq] at h
      obtain ⟨rfl, rfl⟩ := h
      rfl
  · next bytes later hi =>
    simp only [Prod.mk.injEq, Reply.done.injEq] at h
    obtain ⟨rfl, rfl⟩ := h
    have cut := List.take_append_drop room bytes
    simp only [rest, hi, List.flatMap_cons, bytesOf]
    split
    · next none_left =>
      rw [List.isEmpty_iff.1 none_left, List.append_nil] at cut
      rw [cut]
    · rw [List.flatMap_cons, bytesOf, ← List.append_assoc, cut]
  · next later hi =>
    simp only [Prod.mk.injEq, Reply.done.injEq] at h
    obtain ⟨rfl, rfl⟩ := h
    simp [rest, hi, bytesOf]
  · simp at h
  · simp at h

/-- A read that brings a byte leaves fewer to come. -/
theorem unread_lt_of_read {room : Nat} {i j : Inlet} {b : UInt8} {bs : List UInt8}
    (h : i.read room = (.done (b :: bs), j)) : j.unread < i.unread := by
  have := congrArg List.length (rest_of_read h)
  simp only [List.length_append, List.length_cons] at this
  simp only [unread]
  omega

/-- A bound on the reads that can still bring something. -/
def supply (i : Inlet) : Nat := i.unread + i.arrivals.length

/-- A read never adds an arrival. -/
theorem length_arrivals_read {room : Nat} {i j : Inlet} {reply : Reply (List UInt8)}
    (h : i.read room = (reply, j)) : j.arrivals.length ≤ i.arrivals.length := by
  unfold read at h
  split at h <;> simp only [Prod.mk.injEq] at h <;> obtain ⟨-, rfl⟩ := h <;> simp_all
  split <;> simp

/-- A read that brings a byte uses up some of the supply. -/
theorem supply_lt_of_read {room : Nat} {i j : Inlet} {b : UInt8} {bs : List UInt8}
    (h : i.read room = (.done (b :: bs), j)) : j.supply < i.supply := by
  have := unread_lt_of_read h
  have := length_arrivals_read h
  simp only [supply]
  omega

/-- A read that fails uses up some of the supply. -/
theorem supply_lt_of_failed {room : Nat} {i j : Inlet} {cause : Failure}
    (h : i.read room = (.failed cause, j)) : j.supply < i.supply := by
  unfold read at h
  split at h
  · split at h <;> simp at h
  · simp at h
  · simp at h
  · next c later hi =>
    simp only [Prod.mk.injEq] at h
    obtain ⟨-, rfl⟩ := h
    simp [supply, unread, rest, hi, bytesOf]
  · simp at h

end Inlet

end DatagramTunnel
