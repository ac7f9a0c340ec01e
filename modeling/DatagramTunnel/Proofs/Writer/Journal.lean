import DatagramTunnel.Proofs.Writer.Flush

/-!
# The journal of a writer

The journal lists the writes that were called, in order, each with its answer. Some of them are the
ones whose records are complete on the wire: `Complete` says which can be. `Ledger` divides what the
outlet has taken into these records and a part of one more, and `Ledger.concat` and `Ledger.skip`
say how it goes on when a write is entered.
-/

namespace DatagramTunnel

/-- A payload that may be written is one that a record can hold. -/
theorem maxPayloadSize_le_maxPacketSize : maxPayloadSize ≤ Record.maxPacketSize := by decide

/-- A write that was called: its payload, and its answer unless it was dropped first. -/
structure Entry where
  payload : List UInt8
  answer : Option WriteAnswer

namespace Entry

/-- The caller was told that the payload is written. -/
def succeeded (e : Entry) : Bool :=
  match e.answer with
  | some (.ok ()) => true
  | _ => false

/-- The payload is one that a writer accepts. -/
def Fits (e : Entry) : Prop := e.payload.length ≤ maxPayloadSize

end Entry

/-- The writes among some calls. -/
def journal (steps : List (WriteCall × Option WriteAnswer)) : List Entry :=
  steps.filterMap fun
    | (.write payload _, answer) => some ⟨payload, answer⟩
    | (.shutdown _, _) => none

@[simp] theorem journal_append (first second : List (WriteCall × Option WriteAnswer)) :
    journal (first ++ second) = journal first ++ journal second := List.filterMap_append

/-- The records of the payloads of some writes. -/
def recordsOf (entries : List Entry) : List UInt8 := Record.encodeAll (entries.map Entry.payload)

@[simp] theorem recordsOf_concat (entries : List Entry) (e : Entry) :
    recordsOf (entries ++ [e]) = recordsOf entries ++ Record.encode e.payload := by
  simp [recordsOf]

/-- The writes `whole` of a journal can be those whose records are complete: they are in order, none
of them is used twice, and all that have succeeded are among them. -/
structure Complete (J whole : List Entry) : Prop where
  order : whole.Sublist J
  succeeded : (J.filter Entry.succeeded).Sublist whole
  fit : ∀ e ∈ whole, e.Fits

namespace Complete

variable {J whole : List Entry} {e : Entry}

/-- At the beginning nothing is complete. -/
theorem nil : Complete [] [] := ⟨.slnil, .slnil, by simp⟩

/-- A write that has not succeeded is entered without its record. -/
theorem skip (complete : Complete J whole) (failed : e.succeeded = false) :
    Complete (J ++ [e]) whole where
  order := complete.order.trans (List.sublist_append_left J [e])
  succeeded := by
    simp only [List.filter_append, List.filter_cons, failed, Bool.false_eq_true, if_false,
      List.filter_nil, List.append_nil]
    exact complete.succeeded
  fit := complete.fit

/-- A write is entered with its record. -/
theorem concat (complete : Complete J whole) (fits : e.Fits) :
    Complete (J ++ [e]) (whole ++ [e]) where
  order := complete.order.append (.refl [e])
  succeeded := by
    rw [List.filter_append]
    exact complete.succeeded.append List.filter_sublist
  fit := by
    intro f mem
    rcases List.mem_append.1 mem with earlier | last
    · exact complete.fit f earlier
    · rwa [List.mem_singleton.1 last]

/-- The record of an earlier write becomes complete. -/
theorem finish (complete : Complete J whole) (next : (whole ++ [e]).Sublist J) (fits : e.Fits) :
    Complete J (whole ++ [e]) where
  order := next
  succeeded := complete.succeeded.trans (List.sublist_append_left whole [e])
  fit := by
    intro f mem
    rcases List.mem_append.1 mem with earlier | last
    · exact complete.fit f earlier
    · rwa [List.mem_singleton.1 last]

/-- Complete records are ones that are read back. -/
theorem length_le (complete : Complete J whole) {p : List UInt8}
    (mem : p ∈ whole.map Entry.payload) : p.length ≤ Record.maxPacketSize := by
  obtain ⟨e, of_whole, rfl⟩ := List.mem_map.1 mem
  exact Nat.le_trans (complete.fit e of_whole) maxPayloadSize_le_maxPacketSize

end Complete

/-- **What the outlet has taken since `start`**, divided up by a journal: the complete records of
some of its writes, and then nothing, or what is sent of the staged record of a later write, or the
part of such a record that was given up. -/
inductive Ledger (start : Outlet) (J : List Entry) (s : WriteSide) : Prop
  | idle {whole : List Entry} (complete : Complete J whole)
      (idle : s.Staging start (recordsOf whole) [])
  | staged {whole : List Entry} {e : Entry} (complete : Complete J whole)
      (next : (whole ++ [e]).Sublist J) (fits : e.Fits)
      (staging : s.Staging start (recordsOf whole) (Record.encode e.payload))
  | torn {whole : List Entry} {e : Entry} (complete : Complete J whole)
      (next : (whole ++ [e]).Sublist J) (fits : e.Fits)
      (torn : s.Torn start (recordsOf whole) (Record.encode e.payload))

namespace Ledger

variable {start : Outlet} {J whole : List Entry} {s : WriteSide} {e : Entry}

/-- A write that has not succeeded is entered without a byte. -/
theorem skip (ledger : Ledger start J s) (failed : e.succeeded = false) :
    Ledger start (J ++ [e]) s := by
  cases ledger with
  | idle complete idle => exact .idle (complete.skip failed) idle
  | staged complete next fits staging =>
    exact .staged (complete.skip failed) (next.trans (List.sublist_append_left J [e])) fits staging
  | torn complete next fits torn =>
    exact .torn (complete.skip failed) (next.trans (List.sublist_append_left J [e])) fits torn

/-- A write is entered whose record is complete. -/
theorem concat (complete : Complete J whole) (fits : e.Fits)
    (idle : s.Staging start (recordsOf whole ++ Record.encode e.payload) []) :
    Ledger start (J ++ [e]) s :=
  .idle (complete.concat fits) (by rwa [recordsOf_concat])

/-- The record of an earlier write is complete. -/
theorem finish (complete : Complete J whole) (next : (whole ++ [e]).Sublist J) (fits : e.Fits)
    (idle : s.Staging start (recordsOf whole ++ Record.encode e.payload) []) :
    Ledger start J s :=
  .idle (complete.finish next fits) (by rwa [recordsOf_concat])

/-- No writer accepts more than a record may hold. -/
theorem bounded (ledger : Ledger start J s) : s.writer.limit ≤ maxPayloadSize := by
  cases ledger with
  | idle _ idle => exact idle.bounded
  | staged _ _ _ staging => exact staging.bounded
  | torn _ _ _ torn => exact torn.bounded

/-- With nothing staged and no record given up, only complete records have been taken. -/
theorem idle_of_unstaged (ledger : Ledger start J s) (unbroken : s.writer.broken = false)
    (unstaged : s.writer.staged = []) :
    ∃ whole, Complete J whole ∧ s.Staging start (recordsOf whole) [] := by
  cases ledger with
  | idle complete idle => exact ⟨_, complete, idle⟩
  | staged _ _ _ staging =>
    exact absurd (staging.staged.symm.trans unstaged) (Record.encode_ne_nil _)
  | torn _ _ _ torn => exact absurd (torn.broken.symm.trans unbroken) (by simp)

/-- With no record given up, complete records have been taken, and behind them nothing is staged, or
the record of a later write is. -/
theorem staging_of_unbroken (ledger : Ledger start J s) (unbroken : s.writer.broken = false) :
    ∃ whole, Complete J whole ∧ s.Staging start (recordsOf whole) s.writer.staged ∧
      (s.writer.staged = [] ∨
        ∃ e, (whole ++ [e]).Sublist J ∧ e.Fits ∧ s.writer.staged = Record.encode e.payload) := by
  cases ledger with
  | @idle whole complete idle => exact ⟨whole, complete, by rwa [idle.staged], .inl idle.staged⟩
  | @staged whole e complete next fits staging =>
    exact ⟨whole, complete, by rwa [staging.staged], .inr ⟨e, next, fits, staging.staged⟩⟩
  | torn _ _ _ torn => exact absurd (torn.broken.symm.trans unbroken) (by simp)

/-- The ledger is about the wire only. -/
theorem of_same (ledger : Ledger start J s) {t : WriteSide} (same : s.SameWire t) :
    Ledger start J t := by
  cases ledger with
  | idle complete idle => exact .idle complete (idle.of_same same)
  | staged complete next fits staging => exact .staged complete next fits (staging.of_same same)
  | torn complete next fits torn => exact .torn complete next fits (torn.of_same same)

end Ledger

end DatagramTunnel
