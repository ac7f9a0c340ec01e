import DatagramTunnel.Transport.Outlet

/-!
# Offering bytes until all are taken

Whoever sends bytes offers them to an outlet until all are taken, or the outlet makes the sender
wait or refuses: it fails, or takes no byte at all. `Outlet.push` is this loop on its own.
`push_spec` says what it leaves behind: the bytes taken are a first part of those offered, and of
the outlet's script exactly the intakes that were asked for are gone.
-/

namespace DatagramTunnel

/-- Whether an intake refuses the bytes that it is offered. -/
def Intake.refuses : Intake → Bool
  | .upTo 0 | .failed _ => true
  | .upTo (_ + 1) | .all | .pending => false

/-- Whether the last of some intakes refuses. -/
def lastRefuses (intakes : List Intake) : Bool := intakes.getLast?.any Intake.refuses

@[simp] theorem lastRefuses_concat (intakes : List Intake) (intake : Intake) :
    lastRefuses (intakes ++ [intake]) = intake.refuses := by
  simp [lastRefuses]

/-- How offering bytes ends. -/
inductive Pushed where
  /-- All are taken. -/
  | whole
  | waiting (unsent : List UInt8)
  /-- The outlet fails, or takes no byte if there is no cause. -/
  | refused (unsent : List UInt8) (cause : Option Failure)

/-- The bytes that are not taken. -/
def Pushed.unsent : Pushed → List UInt8
  | .whole => []
  | .waiting unsent | .refused unsent _ => unsent

/-- The intakes that make a sender stop. -/
def Pushed.StopsAt : Pushed → List Intake → Prop
  | .whole, stop => stop = []
  | .waiting _, stop => stop = [.pending]
  | .refused _ _, stop => ∃ last, stop = [last] ∧ last.refuses = true

namespace Outlet

/-- Offers bytes until all are taken. -/
def push (bytes : List UInt8) (o : Outlet) : Pushed × Outlet :=
  match bytes with
  | [] => (.whole, o)
  | b :: bs => match o.write (b :: bs) with
    | (.pending, o) => (.waiting (b :: bs), o)
    | (.failed cause, o) => (.refused (b :: bs) (some cause), o)
    | (.done 0, o) => (.refused (b :: bs) none, o)
    | (.done (count + 1), o) => push (bs.drop count) o
termination_by bytes.length
decreasing_by simp only [List.length_drop, List.length_cons]; omega

/-- The loop, for bytes of which there are some. -/
theorem push_of_some {bytes : List UInt8} (some_left : bytes ≠ []) (o : Outlet) :
    o.push bytes = match o.write bytes with
      | (.pending, o) => (.waiting bytes, o)
      | (.failed cause, o) => (.refused bytes (some cause), o)
      | (.done 0, o) => (.refused bytes none, o)
      | (.done (count + 1), o) => o.push (bytes.drop (count + 1)) := by
  cases bytes with
  | nil => exact absurd rfl some_left
  | cons b bs => rw [push]; rfl

/-- All of an outlet that requests to take bytes leave alone. -/
def signals (o : Outlet) : List Signal × List Signal × Nat × Nat :=
  (o.flushSignals, o.shutdownSignals, o.flushes, o.shutdowns)

/-- An outlet that makes the sender wait has used up one intake. -/
theorem write_pending {o o' : Outlet} {bytes : List UInt8} (h : o.write bytes = (.pending, o')) :
    o.intakes = .pending :: o'.intakes ∧ o'.accepted = o.accepted ∧ o'.signals = o.signals := by
  unfold write at h
  split at h <;> simp only [accept, Prod.mk.injEq, reduceCtorEq, false_and, true_and] at h
  next later next =>
  subst h
  exact ⟨next, rfl, rfl⟩

/-- An outlet that fails has used up one intake. -/
theorem write_failed {o o' : Outlet} {bytes : List UInt8} {cause : Failure}
    (h : o.write bytes = (.failed cause, o')) :
    o.intakes = .failed cause :: o'.intakes ∧ o'.accepted = o.accepted ∧
      o'.signals = o.signals := by
  unfold write at h
  split at h <;>
    simp only [accept, Prod.mk.injEq, Reply.failed.injEq, reduceCtorEq, false_and] at h
  next later next =>
  obtain ⟨rfl, rfl⟩ := h
  exact ⟨next, rfl, rfl⟩

/-- An outlet that takes bytes takes the first of them, and has used up at most one intake. -/
theorem write_done {o o' : Outlet} {bytes : List UInt8} {count : Nat}
    (h : o.write bytes = (.done count, o')) :
    o'.accepted = o.accepted ++ bytes.take count ∧ o'.signals = o.signals ∧
      ∃ used, o.intakes = used ++ o'.intakes := by
  unfold write at h
  split at h <;> simp only [accept, Prod.mk.injEq, Reply.done.injEq, reduceCtorEq, false_and] at h
  case h_1 empty =>
    obtain ⟨rfl, rfl⟩ := h
    exact ⟨by simp, rfl, [], empty⟩
  case h_2 later next =>
    obtain ⟨rfl, rfl⟩ := h
    exact ⟨by simp, rfl, [.all], next⟩
  case h_3 most later next =>
    obtain ⟨rfl, rfl⟩ := h
    exact ⟨by simp, rfl, [.upTo most], next⟩

/-- An outlet that takes none of the bytes offered has refused them. -/
theorem write_done_zero {o o' : Outlet} {b : UInt8} {bs : List UInt8}
    (h : o.write (b :: bs) = (.done 0, o')) :
    ∃ last, o.intakes = last :: o'.intakes ∧ last.refuses = true := by
  unfold write at h
  split at h <;> simp only [accept, Prod.mk.injEq, Reply.done.injEq, reduceCtorEq, false_and] at h
  case h_1 => simp at h
  case h_2 => simp at h
  case h_3 most later next =>
    -- Of some bytes none is taken only by an intake of no byte.
    obtain ⟨none_taken, rfl⟩ := h
    cases most with
    | zero => exact ⟨.upTo 0, next, rfl⟩
    | succ most => simp at none_taken

/-- What offering bytes until all are taken does to an outlet. -/
structure Pushes (o : Outlet) (bytes : List UInt8) (result : Pushed) (o' : Outlet) : Prop where
  signals : o'.signals = o.signals
  /-- The bytes taken are a first part of those offered. -/
  taken : ∃ sent, bytes = sent ++ result.unsent ∧ o'.accepted = o.accepted ++ sent
  /-- Something is left exactly if not all is taken. -/
  left : result.unsent = [] ↔ result = .whole
  /-- Intakes are used up in order; where the sender stops, the last of them is the reason. -/
  used : ∃ used stop, o.intakes = used ++ stop ++ o'.intakes ∧ result.StopsAt stop

/-- **What offering bytes until all are taken leaves behind.** The induction is on the requests that
take some of the bytes. -/
theorem push_spec (bytes : List UInt8) (o : Outlet) :
    o.Pushes bytes (o.push bytes).1 (o.push bytes).2 := by
  fun_induction push bytes o with
  | case1 o => exact ⟨rfl, ⟨[], rfl, by simp⟩, by simp [Pushed.unsent], ⟨[], [], rfl, rfl⟩⟩
  | case2 o b bs o' write =>
    obtain ⟨next, accepted, signals⟩ := write_pending write
    exact ⟨signals, ⟨[], rfl, by simp [accepted]⟩, by simp [Pushed.unsent],
      ⟨[], [.pending], next, rfl⟩⟩
  | case3 o b bs cause o' write =>
    obtain ⟨next, accepted, signals⟩ := write_failed write
    exact ⟨signals, ⟨[], rfl, by simp [accepted]⟩, by simp [Pushed.unsent],
      ⟨[], [.failed cause], next, .failed cause, rfl, rfl⟩⟩
  | case4 o b bs o' write =>
    obtain ⟨accepted, signals, -⟩ := write_done write
    obtain ⟨last, next, refuses⟩ := write_done_zero write
    exact ⟨signals, ⟨[], rfl, by simp [accepted]⟩, by simp [Pushed.unsent],
      ⟨[], [last], next, last, rfl, refuses⟩⟩
  | case5 o b bs count o' write ih =>
    obtain ⟨accepted, signals, first, intakes⟩ := write_done write
    obtain ⟨signals', ⟨sent, offered, accepted'⟩, left, used, stop, intakes', reason⟩ := ih
    refine ⟨signals'.trans signals, ⟨b :: bs.take count ++ sent, ?_, ?_⟩, left,
      first ++ used, stop, ?_, reason⟩
    · rw [List.append_assoc, ← offered, List.cons_append, List.take_append_drop]
    · rw [accepted', accepted, List.append_assoc, List.take_succ_cons]
    · rw [intakes, intakes', List.append_assoc, List.append_assoc, List.append_assoc]

/-! ## Flushes and shutdowns -/

/-- Asking an outlet to pass on what it has leaves its bytes and its intakes alone. -/
theorem flush_keeps (o : Outlet) :
    o.flush.2.accepted = o.accepted ∧ o.flush.2.intakes = o.intakes := by
  unfold flush
  split <;> exact ⟨rfl, rfl⟩

/-- A flush that succeeds is counted. -/
theorem flushes_flush (o : Outlet) : o.flush.2.flushes = match o.flush.1 with
    | .done () => o.flushes + 1
    | .failed _ | .pending => o.flushes := by
  unfold flush
  split <;> rfl

/-- Asking an outlet to pass on what it has does not shut it down. -/
theorem shutdowns_flush (o : Outlet) : o.flush.2.shutdowns = o.shutdowns := by
  unfold flush
  split <;> rfl

/-- A shutdown that succeeds is counted. -/
theorem shutdowns_shutdown (o : Outlet) : o.shutdown.2.shutdowns = match o.shutdown.1 with
    | .done () => o.shutdowns + 1
    | .failed _ | .pending => o.shutdowns := by
  unfold shutdown
  split <;> rfl

/-- Asking an outlet to close leaves its bytes and its intakes alone. -/
theorem shutdown_keeps (o : Outlet) :
    o.shutdown.2.accepted = o.accepted ∧ o.shutdown.2.intakes = o.intakes := by
  unfold shutdown
  split <;> exact ⟨rfl, rfl⟩

end Outlet

end DatagramTunnel
