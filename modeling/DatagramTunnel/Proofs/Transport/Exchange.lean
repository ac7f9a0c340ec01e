import DatagramTunnel.Proofs.Transport.Push

/-!
# What passes between a sender and an outlet

An exchange is one request to an outlet together with the reply. `Outlet.Serves` says that certain
exchanges, one after the other, lead from one state of an outlet to another; each wait among them is
one of those that the outlet had left (`Serves.waits`).

`Finishing` describes the exchanges of a sender that brings bytes to their end. `Finishing.accepted`
says which bytes are then taken, `Finishing.flush_of_failure` what can fail when all are, and
`push_serves` that the loop of `Outlet.push` is such a sender.
-/

namespace DatagramTunnel

/-- One request to an outlet, and its reply. -/
inductive Exchange where
  | write (offered : List UInt8) (reply : Reply Nat)
  | flush (reply : Reply Unit)
  | shutdown (reply : Reply Unit)

namespace Exchange

/-- The exchange leads from one state of an outlet to another. -/
def Leads (o : Outlet) : Exchange → Outlet → Prop
  | .write offered reply, p => o.write offered = (reply, p)
  | .flush reply, p => o.flush = (reply, p)
  | .shutdown reply, p => o.shutdown = (reply, p)

/-- Whether the outlet makes the sender wait. -/
def waits : Exchange → Bool
  | .write _ .pending | .flush .pending | .shutdown .pending => true
  | _ => false

/-- What went wrong, if anything. An outlet that takes no byte of a record has refused it. -/
def failure? : Exchange → Option Failure
  | .write _ (.failed cause) | .flush (.failed cause) | .shutdown (.failed cause) => some cause
  | .write _ (.done 0) => some .recordNotTaken
  | _ => none

/-- The exchange is what a sender asks for that is bringing these bytes to their end: it offers all
of them, or has the outlet flushed if there are none. -/
def Finishes (bytes : List UInt8) : Exchange → Prop
  | .write offered _ => offered = bytes ∧ bytes ≠ []
  | .flush _ => bytes = []
  | .shutdown _ => False

/-- The bytes that such a sender still has to bring to their end after it. -/
def left (bytes : List UInt8) : Exchange → List UInt8
  | .write _ (.done count) => bytes.drop count
  | _ => bytes

end Exchange

/-- The first thing that went wrong in some exchanges, if anything. -/
def firstFailure (xs : List Exchange) : Option Failure := xs.findSome? Exchange.failure?

theorem firstFailure_cons {x : Exchange} (smooth : x.failure? = none) (xs : List Exchange) :
    firstFailure (x :: xs) = firstFailure xs := by
  rw [firstFailure, List.findSome?_cons, smooth, firstFailure]

theorem firstFailure_append {xs : List Exchange} (smooth : firstFailure xs = none)
    (ys : List Exchange) : firstFailure (xs ++ ys) = firstFailure ys := by
  rw [firstFailure, List.findSome?_append, ← firstFailure, smooth, Option.none_or, firstFailure]

namespace Outlet

/-- The exchanges lead from one state of an outlet to another. -/
inductive Serves : Outlet → List Exchange → Outlet → Prop
  | nil (o : Outlet) : Serves o [] o
  | cons {o p q : Outlet} {x : Exchange} {xs : List Exchange} (first : x.Leads o p)
      (later : Serves p xs q) : Serves o (x :: xs) q

namespace Serves

variable {o p q : Outlet} {x : Exchange} {xs ys : List Exchange}

theorem single (leads : x.Leads o p) : o.Serves [x] p := .cons leads (.nil p)

theorem append (first : o.Serves xs p) (second : p.Serves ys q) : o.Serves (xs ++ ys) q := by
  induction first with
  | nil o => exact second
  | cons leads _ ih => exact .cons leads (ih second)

end Serves

/-! ## Waits -/

/-- How often the outlet will still make a sender wait. -/
def waits (o : Outlet) : Nat :=
  o.intakes.count .pending + o.flushSignals.count .pending + o.shutdownSignals.count .pending

/-- An exchange uses up a wait if it asks for one, and no other. -/
theorem waits_of_leads {o p : Outlet} {x : Exchange} (leads : x.Leads o p) :
    p.waits + (if x.waits then 1 else 0) = o.waits := by
  cases x with
  | write offered reply =>
    simp only [Exchange.Leads, write] at leads
    split at leads <;> obtain ⟨rfl, rfl⟩ := Prod.mk.inj leads
    all_goals next coming => simp [waits, Exchange.waits, coming] <;> omega
  | flush reply =>
    simp only [Exchange.Leads, flush] at leads
    split at leads <;> obtain ⟨rfl, rfl⟩ := Prod.mk.inj leads
    all_goals next coming => simp [waits, Exchange.waits, coming] <;> omega
  | shutdown reply =>
    simp only [Exchange.Leads, shutdown] at leads
    split at leads <;> obtain ⟨rfl, rfl⟩ := Prod.mk.inj leads
    all_goals next coming => simp [waits, Exchange.waits, coming] <;> omega

/-- **Every wait is one of those that were left.** -/
theorem Serves.waits {o p : Outlet} {xs : List Exchange} (serves : o.Serves xs p) :
    p.waits + xs.countP Exchange.waits = o.waits := by
  induction serves with
  | nil o => rfl
  | cons leads _ ih =>
    rw [List.countP_cons, ← waits_of_leads leads, ← ih, Nat.add_assoc]

/-- No exchange brings waits back. -/
theorem Serves.waits_le {o p : Outlet} {xs : List Exchange} (serves : o.Serves xs p) :
    p.waits ≤ o.waits :=
  Nat.le.intro serves.waits

/-- After a wait there are fewer left. -/
theorem Serves.waits_lt {o p : Outlet} {xs : List Exchange} (serves : o.Serves xs p)
    (waited : ∃ x ∈ xs, x.waits = true) : p.waits < o.waits := by
  have counted := serves.waits
  have some_wait := List.countP_pos_iff.2 waited
  omega

end Outlet

/-! ## Bringing bytes to their end -/

/-- Exchanges of a sender that brings bytes to their end, as far as to the bytes that are left: it
offers what has not been taken, has the outlet flushed when all has, and asks for nothing after a
failure. -/
inductive Finishing : List UInt8 → List Exchange → List UInt8 → Prop
  | nil (bytes : List UInt8) : Finishing bytes [] bytes
  | cons {bytes left : List UInt8} {x : Exchange} {xs : List Exchange} (finishes : x.Finishes bytes)
      (last : x.failure? = none ∨ xs = []) (later : Finishing (x.left bytes) xs left) :
      Finishing bytes (x :: xs) left

namespace Finishing

variable {bytes left rest : List UInt8} {x : Exchange} {xs ys : List Exchange}

theorem single (finishes : x.Finishes bytes) : Finishing bytes [x] (x.left bytes) :=
  .cons finishes (.inr rfl) (.nil _)

/-- A sender that has met no failure may go on. -/
theorem append (first : Finishing bytes xs left) (smooth : firstFailure xs = none)
    (second : Finishing left ys rest) : Finishing bytes (xs ++ ys) rest := by
  induction first with
  | nil bytes => exact second
  | @cons bytes left x xs finishes _ _ ih =>
    obtain ⟨smooth_x, smooth_xs⟩ : x.failure? = none ∧ firstFailure xs = none := by
      simpa [firstFailure] using smooth
    exact .cons finishes (.inl smooth_x) (ih smooth_xs second)

/-- **The bytes taken are the first of those to be brought to their end.** -/
theorem accepted (finishing : Finishing bytes xs left) {o p : Outlet} (serves : o.Serves xs p) :
    ∃ taken, bytes = taken ++ left ∧ p.accepted = o.accepted ++ taken := by
  induction finishing generalizing o with
  | nil bytes =>
    cases serves
    exact ⟨[], rfl, (List.append_nil _).symm⟩
  | @cons bytes left x xs finishes _ _ ih =>
    cases serves with
    | @cons _ q _ _ _ first later =>
      obtain ⟨taken, cut, accepted⟩ := ih later
      -- Only a write that takes bytes moves on.
      suffices ∃ now, bytes = now ++ x.left bytes ∧ q.accepted = o.accepted ++ now by
        obtain ⟨now, cut_now, accepted_now⟩ := this
        refine ⟨now ++ taken, ?_, ?_⟩
        · rw [List.append_assoc, ← cut, ← cut_now]
        · rw [accepted, accepted_now, List.append_assoc]
      match x, finishes, first with
      | .write _ .pending, _, first =>
        exact ⟨[], rfl, by simp [(Outlet.write_pending first).2.1]⟩
      | .write _ (.failed _), _, first =>
        exact ⟨[], rfl, by simp [(Outlet.write_failed first).2.1]⟩
      | .write _ (.done count), ⟨rfl, _⟩, first =>
        exact ⟨_, (List.take_append_drop count _).symm, (Outlet.write_done first).1⟩
      | .flush _, _, first =>
        have kept := o.flush_keeps.1
        rw [show o.flush = (_, q) from first] at kept
        exact ⟨[], rfl, kept.trans (List.append_nil _).symm⟩

/-- When all is taken, only the flush can have failed, and it was asked for last. -/
theorem flush_of_failure (finishing : Finishing bytes xs left) {cause : Failure}
    (failed : firstFailure xs = some cause) (all_taken : left = []) :
    xs.getLast? = some (.flush (.failed cause)) := by
  induction finishing with
  | nil bytes => simp [firstFailure] at failed
  | @cons bytes left x xs finishes last later ih =>
    rcases last with smooth | rfl
    · rw [firstFailure_cons smooth] at failed
      simp [List.getLast?_cons, ih failed all_taken]
    · -- The last exchange: a write that failed would have left its bytes, so it was the flush.
      cases later
      match x, finishes, all_taken, failed with
      | .write _ .pending, _, _, failed => simp [firstFailure, Exchange.failure?] at failed
      | .write _ (.failed _), finishes, all_taken, _ => exact absurd all_taken finishes.2
      | .write _ (.done 0), finishes, all_taken, _ => exact absurd all_taken finishes.2
      | .write _ (.done (_ + 1)), _, _, failed => simp [firstFailure, Exchange.failure?] at failed
      | .flush .pending, _, _, failed => simp [firstFailure, Exchange.failure?] at failed
      | .flush (.done ()), _, _, failed => simp [firstFailure, Exchange.failure?] at failed
      | .flush (.failed _), _, _, failed =>
        obtain rfl : _ = cause := by simpa [firstFailure, Exchange.failure?] using failed
        rfl

end Finishing

/-! ## Offering bytes -/

/-- What the exchanges of offering bytes tell of how it ends. -/
def Pushed.ToldBy : Pushed → List Exchange → Prop
  | .whole, xs => firstFailure xs = none
  | .waiting _, xs => firstFailure xs = none ∧ ∃ x ∈ xs, x.waits = true
  | .refused _ cause, xs => firstFailure xs = some (cause.getD .recordNotTaken)

/-- One exchange more in front. -/
theorem Pushed.ToldBy.cons {result : Pushed} {x : Exchange} {xs : List Exchange}
    (told : result.ToldBy xs) (smooth : x.failure? = none) : result.ToldBy (x :: xs) := by
  cases result with
  | whole => exact (firstFailure_cons smooth xs).trans told
  | waiting unsent =>
    obtain ⟨none_failed, y, mem, waits⟩ := told
    exact ⟨(firstFailure_cons smooth xs).trans none_failed, y, List.mem_cons_of_mem x mem, waits⟩
  | refused unsent cause => exact (firstFailure_cons smooth xs).trans told

/-- **The exchanges of offering bytes until all are taken.** The induction is on the requests that
take some of the bytes. -/
theorem Outlet.push_serves (bytes : List UInt8) (o : Outlet) :
    ∃ xs, o.Serves xs (o.push bytes).2 ∧ Finishing bytes xs (o.push bytes).1.unsent ∧
      (o.push bytes).1.ToldBy xs := by
  fun_induction push bytes o with
  | case1 o => exact ⟨[], .nil o, .nil [], rfl⟩
  | case2 o b bs o' write =>
    have leads : Exchange.Leads o (.write (b :: bs) .pending) o' := write
    exact ⟨_, .single leads, .single ⟨rfl, List.cons_ne_nil b bs⟩, rfl, _,
      List.mem_singleton_self _, rfl⟩
  | case3 o b bs cause o' write =>
    have leads : Exchange.Leads o (.write (b :: bs) (.failed cause)) o' := write
    exact ⟨_, .single leads, .single ⟨rfl, List.cons_ne_nil b bs⟩, rfl⟩
  | case4 o b bs o' write =>
    have leads : Exchange.Leads o (.write (b :: bs) (.done 0)) o' := write
    exact ⟨_, .single leads, .single ⟨rfl, List.cons_ne_nil b bs⟩, rfl⟩
  | case5 o b bs count o' write ih =>
    have leads : Exchange.Leads o (.write (b :: bs) (.done (count + 1))) o' := write
    obtain ⟨xs, serves, finishing, told⟩ := ih
    exact ⟨_, .cons leads serves, .cons ⟨rfl, List.cons_ne_nil b bs⟩ (.inl rfl) finishing,
      told.cons rfl⟩

end DatagramTunnel
