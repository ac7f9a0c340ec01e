import DatagramTunnel.Transport.Inlet

/-!
# What an inlet brings, item by item

An inlet brings its bytes in chunks of any size, and makes its reader wait in between. `Flow` is
what remains when both are forgotten: bytes, failures and ends, one after the other. `Inlet.flow` is
the flow of an inlet, and `read_flow` says what each reply to a read takes off its front: nothing if
the reader has to wait, and otherwise exactly what the reply tells. `taken_read` counts the bytes.
-/

namespace DatagramTunnel

/-- One thing that comes out of the read side of a transport. -/
inductive Flow.Item where
  | byte (b : UInt8)
  /-- A failure, or an end if there is no cause. -/
  | stop (cause : Option Failure)
  deriving DecidableEq

/-- What is still to come out of the read side of a transport, chunks and waits forgotten. -/
structure Flow where
  items : List Flow.Item
  /-- After the last item nothing comes; otherwise the flow ends there, again and again. -/
  staysOpen : Bool := false
  deriving DecidableEq

namespace Flow

/-- The flow with some bytes in front. -/
def prepend (bytes : List UInt8) (f : Flow) : Flow :=
  { f with items := bytes.map .byte ++ f.items }

/-- The next item and what comes after it, if anything comes. -/
def next? (f : Flow) : Option (Item × Flow) :=
  match f.items with
  | item :: items => some (item, { f with items })
  | [] => if f.staysOpen then none else some (.stop none, f)

@[simp] theorem prepend_nil (f : Flow) : f.prepend [] = f := rfl

theorem prepend_append (first second : List UInt8) (f : Flow) :
    f.prepend (first ++ second) = (f.prepend second).prepend first := by
  simp [prepend]

@[simp] theorem next?_prepend_cons (b : UInt8) (bytes : List UInt8) (f : Flow) :
    (f.prepend (b :: bytes)).next? = some (.byte b, f.prepend bytes) := rfl

end Flow

/-- The items of an arrival. Data of no byte is a read that gets no byte, which is an end. -/
def Arrival.items : Arrival → List Flow.Item
  | .data [] => [.stop none]
  | .data (b :: bs) => (b :: bs).map .byte
  | .ended => [.stop none]
  | .failed cause => [.stop (some cause)]
  | .pending => []

namespace Inlet

/-- What the inlet still brings. -/
def flow (i : Inlet) : Flow := ⟨i.arrivals.flatMap Arrival.items, i.staysOpen⟩

/-- How often the inlet still makes its reader wait, before its arrivals are used up. -/
def waits (i : Inlet) : Nat := i.arrivals.count .pending

/-- What a reply to a read takes off the front of a flow: `before` is the flow of the inlet in front
of the read, and `after` the flow behind it. -/
def Takes (before after : Flow) : Reply (List UInt8) → Prop
  | .pending => after = before
  | .failed cause => before.next? = some (.stop (some cause), after)
  | .done [] => before.next? = some (.stop none, after)
  | .done (b :: bs) => before = after.prepend (b :: bs)

/-- **A read takes off the flow exactly what its reply tells.** -/
theorem read_flow {room : Nat} (some_room : 0 < room) {i j : Inlet} {reply : Reply (List UInt8)}
    (h : i.read room = (reply, j)) : Takes i.flow j.flow reply := by
  unfold read at h
  split at h <;> obtain ⟨rfl, rfl⟩ := Prod.mk.inj h
  case h_1 empty =>
    cases open_end : i.staysOpen with
    | true => rfl
    | false => simp [Takes, Flow.next?, flow, empty, open_end]
  case h_2 bytes later coming =>
    obtain ⟨room, rfl⟩ : ∃ n, room = n + 1 := ⟨room - 1, by omega⟩
    cases bytes with
    | nil => simp [Takes, Flow.next?, flow, coming, Arrival.items]
    | cons b bs =>
      simp only [List.take_succ_cons, List.drop_succ_cons, Takes, flow, coming, Flow.prepend]
      -- A chunk that is not taken whole leaves its rest as an arrival; one that is leaves none.
      cases left : bs.drop room with
      | nil =>
        have all_taken : bs.take room = bs :=
          List.take_of_length_le (List.drop_eq_nil_iff.1 left)
        simp [Arrival.items, all_taken]
      | cons c cs =>
        have cut : bs = bs.take room ++ c :: cs := by rw [← left, List.take_append_drop]
        simp only [List.isEmpty_cons, Bool.false_eq_true, if_false, List.flatMap_cons,
          Arrival.items, ← List.append_assoc, ← List.map_append, List.cons_append, ← cut]
  case h_3 later coming => simp [Takes, Flow.next?, flow, coming, Arrival.items]
  case h_4 cause later coming => simp [Takes, Flow.next?, flow, coming, Arrival.items]
  case h_5 later coming => simp [Takes, flow, coming, Arrival.items]

/-- A read adds no wait. -/
theorem waits_read_le {room : Nat} {i j : Inlet} {reply : Reply (List UInt8)}
    (h : i.read room = (reply, j)) : j.waits ≤ i.waits := by
  unfold read at h
  split at h <;> obtain ⟨-, rfl⟩ := Prod.mk.inj h
  case h_1 => exact Nat.le_refl _
  case h_2 bytes later coming =>
    simp only [waits, coming]
    split <;> simp
  all_goals
    next coming => simp [waits, coming]

/-- A read that waits uses up one of the waits, unless nothing comes any more. -/
theorem waits_lt_of_pending {room : Nat} {i j : Inlet} (h : i.read room = (.pending, j)) :
    j.waits < i.waits ∨ i.flow.next? = none := by
  unfold read at h
  split at h <;> simp only [Prod.mk.injEq, reduceCtorEq, false_and] at h
  case h_1 empty =>
    right
    cases open_end : i.staysOpen with
    | true => simp [Flow.next?, flow, empty, open_end]
    | false => simp [open_end] at h
  case h_5 later coming =>
    left
    obtain ⟨-, rfl⟩ := h
    simp [waits, coming]

/-- No more is read than there is room for. -/
theorem length_le_of_read {room : Nat} {i j : Inlet} {chunk : List UInt8}
    (h : i.read room = (.done chunk, j)) : chunk.length ≤ room := by
  unfold read at h
  split at h <;> simp only [Prod.mk.injEq, Reply.done.injEq, reduceCtorEq, false_and] at h
  case h_1 =>
    split at h
    · simp at h
    · obtain ⟨none_read, -⟩ := h
      simp [← Reply.done.inj none_read]
  case h_2 bytes later coming =>
    obtain ⟨rfl, -⟩ := h
    exact List.length_take_le room bytes
  case h_3 => simp [← h.1]

end Inlet

/-! ## How many bytes are taken -/

namespace Flow

/-- The byte that an item is. -/
def Item.byte? : Item → Option UInt8
  | .byte b => some b
  | .stop _ => none

/-- The bytes of a flow. -/
def bytes (f : Flow) : List UInt8 := f.items.filterMap Item.byte?

@[simp] theorem bytes_prepend (front : List UInt8) (f : Flow) :
    (f.prepend front).bytes = front ++ f.bytes := by
  induction front with
  | nil => rfl
  | cons b front ih => exact congrArg (b :: ·) ih

/-- A failure or an end is no byte. -/
theorem bytes_of_stop {f after : Flow} {cause : Option Failure}
    (stop : f.next? = some (.stop cause, after)) : after.bytes = f.bytes := by
  obtain ⟨items, staysOpen⟩ := f
  cases items with
  | nil =>
    cases staysOpen with
    | true => cases stop
    | false => cases stop; rfl
  | cons item items => cases stop; rfl

/-- A byte that is next is the first of the bytes. -/
theorem bytes_of_byte {f after : Flow} {b : UInt8} (next : f.next? = some (.byte b, after)) :
    f.bytes = b :: after.bytes := by
  obtain ⟨items, staysOpen⟩ := f
  cases items with
  | nil => cases staysOpen <;> cases next
  | cons item items => cases next; rfl

/-- The next item, unless it is an end, was one of the items. -/
theorem length_items_lt {f rest : Flow} {item : Item} (next : f.next? = some (item, rest))
    (no_end : item ≠ .stop none) : rest.items.length < f.items.length := by
  obtain ⟨items, staysOpen⟩ := f
  cases items with
  | nil =>
    cases staysOpen with
    | true => cases next
    | false => cases next; exact absurd rfl no_end
  | cons item items => cases next; exact Nat.lt_succ_self _

end Flow

/-- The bytes of a reply. -/
def Reply.bytes : Reply (List UInt8) → List UInt8
  | .done chunk => chunk
  | _ => []

namespace Inlet

theorem filterMap_items (a : Arrival) : a.items.filterMap Flow.Item.byte? = bytesOf a := by
  cases a with
  | data chunk =>
    cases chunk with
    | nil => rfl
    | cons b bs =>
      have whole := Flow.bytes_prepend (b :: bs) ⟨[], false⟩
      simp only [Flow.prepend, Flow.bytes, List.filterMap_nil, List.append_nil] at whole
      exact whole
  | ended => rfl
  | failed cause => rfl
  | pending => rfl

/-- The bytes of the flow are those that are still to come. -/
theorem bytes_flow (i : Inlet) : i.flow.bytes = i.rest := by
  simp only [Flow.bytes, flow, rest, List.filterMap_flatMap, filterMap_items]

/-- The bytes of any reply are the first of those that were to come. -/
theorem bytes_append_rest {room : Nat} {i j : Inlet} {reply : Reply (List UInt8)}
    (h : i.read room = (reply, j)) : reply.bytes ++ j.rest = i.rest := by
  cases reply with
  | done chunk => exact rest_of_read h
  | failed cause =>
    unfold read at h
    split at h <;> simp only [Prod.mk.injEq, reduceCtorEq, false_and] at h
    case h_1 => split at h <;> cases h.1
    case h_4 later coming =>
      obtain ⟨-, rfl⟩ := h
      simp [rest, coming, bytesOf, Reply.bytes]
  | pending =>
    unfold read at h
    split at h <;> simp only [Prod.mk.injEq, reduceCtorEq, false_and] at h
    case h_1 => rw [← h.2]; rfl
    case h_5 later coming =>
      obtain ⟨-, rfl⟩ := h
      simp [rest, coming, bytesOf, Reply.bytes]

/-- What has been taken and what is still to come make up the same number all the time. -/
theorem taken_read {room : Nat} {i j : Inlet} {reply : Reply (List UInt8)}
    (h : i.read room = (reply, j)) : j.taken + j.unread = i.taken + i.unread := by
  unfold read at h
  split at h <;> obtain ⟨-, rfl⟩ := Prod.mk.inj h
  case h_1 => rfl
  case h_2 bytes later coming =>
    have cut : bytes.length = (bytes.take room).length + (bytes.drop room).length := by
      rw [← List.length_append, List.take_append_drop]
    simp only [unread, rest, coming, List.flatMap_cons, bytesOf, List.length_append, cut]
    split
    · next none_left =>
      rw [List.isEmpty_iff.1 none_left, List.length_nil]
      omega
    · rw [List.flatMap_cons, bytesOf, List.length_append]
      omega
  all_goals
    next coming => simp [unread, rest, coming, bytesOf]

end Inlet

end DatagramTunnel
