import DatagramTunnel.Call

/-!
# What calls keep

`drive` polls one call a limited number of times and then drops it. `drive_induction` carries an
invariant of the call's stages over all those polls and hands it to whatever ends the call: its
answer or the drop; `drive_keeps` is the case of what every poll keeps. `drive_answers` says when
there is an answer: each poll that waits uses up one of the waits that are left, so a call that is
polled more often than that is not dropped; and `drive_of_le` that polling more often does not
change an answer.

`runAll` makes calls one after the other on a shared state, and lists each with its reply.
`runAll_induction` is the induction over such a run, in the order in which the calls are made,
`runAll_simulation` compares two such runs, and `runAll_side` compares a run with one in which only
some of the calls are made.
-/

namespace DatagramTunnel

section Drive

variable {Stage State Answer : Type} {poll : Stage → State → Progress Stage Answer × State}

/-- **An invariant over all polls of a call.** `I` holds at each stage between two polls, and `Q` is
what it leaves behind when the call has its answer or is dropped. -/
theorem drive_induction {I : Stage → State → Prop} {Q : Option Answer → State → Prop}
    (dropped : ∀ stage state, I stage state → Q none state)
    (answered : ∀ stage state answer state', I stage state →
      poll stage state = (.ready answer, state') → Q (some answer) state')
    (kept : ∀ stage state stage' state', I stage state →
      poll stage state = (.waiting stage', state') → I stage' state')
    (polls : Nat) (stage : Stage) (state : State) (h : I stage state) :
    Q (drive poll polls stage state).1 (drive poll polls stage state).2 := by
  -- On the polls that are left, for every stage: the invariant is carried from stage to stage.
  induction polls generalizing stage state with
  | zero => exact dropped stage state h
  | succ polls ih =>
    rw [drive]
    split
    · next answer state' hpoll => exact answered stage state answer state' h hpoll
    · next stage' state' hpoll => exact ih stage' state' (kept stage state stage' state' h hpoll)

/-- **What every poll keeps, a call keeps**, if what is kept over each of two polls is kept over
both. -/
theorem drive_keeps {R : State → State → Prop} (refl : ∀ state, R state state)
    (trans : ∀ first second third, R first second → R second third → R first third)
    (step : ∀ stage state, R state (poll stage state).2)
    (polls : Nat) (stage : Stage) (state : State) : R state (drive poll polls stage state).2 := by
  refine drive_induction (I := fun _ later => R state later) (Q := fun _ later => R state later)
    (fun _ _ kept => kept) ?_ ?_ polls stage state (refl state)
  · intro stage later answer last kept polled
    have kept_by_poll := step stage later
    rw [polled] at kept_by_poll
    exact trans _ _ _ kept kept_by_poll
  · intro stage later stage' last kept polled
    have kept_by_poll := step stage later
    rw [polled] at kept_by_poll
    exact trans _ _ _ kept kept_by_poll

variable (poll) in
/-- **A call that is polled often enough has its answer.** `waits` counts how often the call can
still be made to wait, and `Q` is what an answer leaves behind. -/
theorem drive_answers {I : Stage → State → Prop} {Q : Answer → State → Prop} (waits : State → Nat)
    (answered : ∀ stage state answer state', I stage state →
      poll stage state = (.ready answer, state') → Q answer state')
    (kept : ∀ stage state stage' state', I stage state →
      poll stage state = (.waiting stage', state') → I stage' state' ∧ waits state' < waits state)
    {polls : Nat} (stage : Stage) (state : State) (h : I stage state)
    (often : waits state < polls) :
    ∃ answer state', drive poll polls stage state = (some answer, state') ∧ Q answer state' := by
  induction polls generalizing stage state with
  | zero => omega
  | succ polls ih =>
    rw [drive]
    split
    · next answer state' hpoll =>
      exact ⟨answer, state', rfl, answered stage state answer state' h hpoll⟩
    · next stage' state' hpoll =>
      -- A poll that waits lowers the waits by one at least, and the polls by just one.
      obtain ⟨h', fewer⟩ := kept stage state stage' state' h hpoll
      exact ih stage' state' h' (by omega)

/-- A call that has its answer at once, and leaves the state as it is. -/
theorem drive_of_ready {stage : Stage} {state : State} {answer : Answer}
    (ready : poll stage state = (.ready answer, state)) (polls : Nat) :
    drive poll polls stage state = (if polls = 0 then none else some answer, state) := by
  cases polls with
  | zero => rfl
  | succ polls => rw [drive, ready, if_neg (Nat.succ_ne_zero polls)]

/-- A call that has its answer has the same one if it would be polled more often. -/
theorem drive_of_le {polls more : Nat} {stage : Stage} {state state' : State} {answer : Answer}
    (driven : drive poll polls stage state = (some answer, state')) (le : polls ≤ more) :
    drive poll more stage state = (some answer, state') := by
  induction polls generalizing more stage state with
  | zero => simp [drive] at driven
  | succ polls ih =>
    obtain ⟨more, rfl⟩ : ∃ n, more = n + 1 := ⟨more - 1, by omega⟩
    rw [drive] at driven ⊢
    split at driven
    · exact driven
    · exact ih driven (by omega)

end Drive

section RunAll

variable {Call Reply State : Type}

/-- Makes the calls one after the other, and lists each call with its reply. -/
def runAll (call : Call → State → Reply × State) :
    List Call → State → List (Call × Reply) × State
  | [], state => ([], state)
  | c :: calls, state =>
    let (reply, state) := call c state
    let (replies, state) := runAll call calls state
    ((c, reply) :: replies, state)

variable {call : Call → State → Reply × State}

@[simp] theorem runAll_nil (state : State) : runAll call [] state = ([], state) := rfl

theorem runAll_cons (c : Call) (calls : List Call) (state : State) :
    runAll call (c :: calls) state =
      ((c, (call c state).1) :: (runAll call calls (call c state).2).1,
        (runAll call calls (call c state).2).2) := rfl

/-- A run goes on where the run of its first calls has stopped. -/
theorem runAll_append (first second : List Call) (state : State) :
    runAll call (first ++ second) state =
      ((runAll call first state).1 ++ (runAll call second (runAll call first state).2).1,
        (runAll call second (runAll call first state).2).2) := by
  induction first generalizing state with
  | nil => rfl
  | cons c first ih => simp only [List.cons_append, runAll_cons, ih]

/-- A run lists its calls, one after the other. -/
theorem map_fst_runAll (calls : List Call) (state : State) :
    (runAll call calls state).1.map Prod.fst = calls := by
  induction calls generalizing state with
  | nil => rfl
  | cons c calls ih => rw [runAll_cons, List.map_cons, ih]

/-- What a run lists was called. -/
theorem fst_mem_of_mem_runAll {calls : List Call} {state : State} {step : Call × Reply}
    (mem : step ∈ (runAll call calls state).1) : step.1 ∈ calls := by
  have listed := List.mem_map_of_mem (f := Prod.fst) mem
  rwa [map_fst_runAll] at listed

/-- Calls that leave the state as it is have the replies that each would have first. -/
theorem runAll_of_unchanged {state : State} {reply : Call → Reply}
    (unchanged : ∀ c, call c state = (reply c, state)) (calls : List Call) :
    runAll call calls state = (calls.map fun c => (c, reply c), state) := by
  induction calls with
  | nil => rfl
  | cons c calls ih => rw [runAll_cons, unchanged c, ih, List.map_cons]

/-- The induction over a run that goes on after some calls. -/
theorem runAll_induction_after {P : List (Call × Reply) → State → Prop}
    (step : ∀ done state c, P done state →
      P (done ++ [(c, (call c state).1)]) (call c state).2)
    (calls : List Call) (done : List (Call × Reply)) {state : State} (h : P done state) :
    P (done ++ (runAll call calls state).1) (runAll call calls state).2 := by
  -- Generalized over what was done before, which grows by one step at each call.
  induction calls generalizing done state with
  | nil => simpa using h
  | cons c calls ih =>
    have one_more := ih _ (step done state c h)
    rw [List.append_assoc] at one_more
    exact one_more

/-- **The induction over a run**, in the order of its calls: `P` relates what was done so far to the
state that it has led to. -/
theorem runAll_induction {P : List (Call × Reply) → State → Prop}
    (step : ∀ done state c, P done state →
      P (done ++ [(c, (call c state).1)]) (call c state).2)
    (calls : List Call) {state : State} (h : P [] state) :
    P (runAll call calls state).1 (runAll call calls state).2 :=
  runAll_induction_after step calls [] h

/-- **The same calls on two kinds of state**: if each call has the same reply on related states and
leaves related states behind, so does a run. -/
theorem runAll_simulation {State' : Type} {call' : Call → State' → Reply × State'}
    {R : State → State' → Prop}
    (step : ∀ c s t, R s t → (call c s).1 = (call' c t).1 ∧ R (call c s).2 (call' c t).2)
    (calls : List Call) {s : State} {t : State'} (h : R s t) :
    (runAll call calls s).1 = (runAll call' calls t).1 ∧
      R (runAll call calls s).2 (runAll call' calls t).2 := by
  induction calls generalizing s t with
  | nil => exact ⟨rfl, h⟩
  | cons c calls ih =>
    obtain ⟨reply, related⟩ := step c s t h
    obtain ⟨replies, related'⟩ := ih related
    exact ⟨by rw [runAll_cons, runAll_cons, reply, replies], related'⟩

/-- **A run seen from one side.** `side?` picks the calls that concern the side, and `step?` does so
together with their replies. If such a call has the reply that the side gives, and every other call
leaves the side as it is, then the run is a run of the side. -/
theorem runAll_side {Call' Reply' State' : Type} {call' : Call' → State' → Reply' × State'}
    {side? : Call → Option Call'} {step? : Call × Reply → Option (Call' × Reply')}
    {R : State → State' → Prop} {calls : List Call}
    (seen : ∀ c ∈ calls, ∀ c', side? c = some c' → ∀ s t, R s t →
      step? (c, (call c s).1) = some (c', (call' c' t).1) ∧ R (call c s).2 (call' c' t).2)
    (unseen : ∀ c ∈ calls, side? c = none → ∀ s t, R s t →
      step? (c, (call c s).1) = none ∧ R (call c s).2 t)
    {s : State} {t : State'} (h : R s t) :
    (runAll call calls s).1.filterMap step? = (runAll call' (calls.filterMap side?) t).1 ∧
      R (runAll call calls s).2 (runAll call' (calls.filterMap side?) t).2 := by
  induction calls generalizing s t with
  | nil => exact ⟨rfl, h⟩
  | cons c calls ih =>
    have later_seen := fun d mem => seen d (List.mem_cons_of_mem c mem)
    have later_unseen := fun d mem => unseen d (List.mem_cons_of_mem c mem)
    rw [runAll_cons]
    cases side : side? c with
    | some c' =>
      obtain ⟨reply, related⟩ := seen c List.mem_cons_self c' side s t h
      obtain ⟨replies, related'⟩ := ih later_seen later_unseen related
      rw [List.filterMap_cons_some side, runAll_cons, List.filterMap_cons_some reply, replies]
      exact ⟨rfl, related'⟩
    | none =>
      obtain ⟨reply, related⟩ := unseen c List.mem_cons_self side s t h
      rw [List.filterMap_cons_none side, List.filterMap_cons_none reply]
      exact ih later_seen later_unseen related

end RunAll

end DatagramTunnel
