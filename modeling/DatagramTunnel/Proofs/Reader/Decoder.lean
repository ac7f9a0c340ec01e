import DatagramTunnel.Proofs.Transport.Flow
import DatagramTunnel.Stream

/-!
# The reference decoder

`Decoder` says what reads of records are, on a flow of single bytes, failures and ends, with no
chunks, waits or buffers. It reads two bytes, and then as many as these count. `Decoder.read` is one
read into a caller's buffer.

The lemmas `Decoder.read_of_split`, `read_of_stop`, `read_of_stop_inside` and `read_of_nothing` say
what a read makes of a flow that begins with some bytes.
-/

namespace DatagramTunnel

/-- How reading a number of bytes from a flow ends. -/
inductive Fetched where
  | all (bytes : List UInt8) (rest : Flow)
  /-- A failure, or an end if there is no cause, comes in between. -/
  | cut (received : Nat) (cause : Option Failure) (rest : Flow)
  /-- Too few bytes come, and nothing else. -/
  | starved

/-- The same with one more byte in front. -/
def Fetched.cons (b : UInt8) : Fetched → Fetched
  | .all bytes rest => .all (b :: bytes) rest
  | .cut received cause rest => .cut (received + 1) cause rest
  | .starved => .starved

/-- What stands at the front of a flow of records. -/
inductive Front where
  | record (payload : List UInt8) (rest : Flow)
  /-- A failure, or an end if there is no cause, comes in front of the end of the record. -/
  | cut (expected received : Nat) (cause : Option Failure) (rest : Flow)
  /-- Too few bytes come, and nothing else. -/
  | starved

/-- The number that bytes stand for, the most significant byte first. -/
def valueOf (bytes : List UInt8) : Nat := bytes.foldl (fun n b => n * 256 + b.toNat) 0

namespace Flow

/-- Reads a number of bytes. -/
def fetch : Nat → Flow → Fetched
  | 0, f => .all [] f
  | count + 1, f => match f.next? with
    | some (.byte b, rest) => (fetch count rest).cons b
    | some (.stop cause, rest) => .cut 0 cause rest
    | none => .starved

/-- Reads the payload of a record whose length has been read. -/
def payload (size : Nat) (f : Flow) : Front :=
  match f.fetch size with
  | .all bytes rest => .record bytes rest
  | .cut received cause rest => .cut (2 + size) (2 + received) cause rest
  | .starved => .starved

/-- Reads the record in front: two bytes, and then as many as they count. -/
def front (f : Flow) : Front :=
  match f.fetch 2 with
  | .all size rest => rest.payload (valueOf size)
  | .cut received cause rest => .cut 2 received cause rest
  | .starved => .starved

end Flow

/-- Whether a decoder still reads records. -/
inductive Phase where
  | reading
  /-- The flow has ended between two records. -/
  | ended
  /-- The flow has ended or failed inside a record. -/
  | lost
  deriving DecidableEq

/-- A reference decoder. -/
structure Decoder where
  policy : ShortBufferPolicy
  flow : Flow
  phase : Phase := .reading
  deriving DecidableEq

namespace Decoder

/-- What a complete record in front makes of a read. -/
def handOut (d : Decoder) (buffer payload : List UInt8) (rest : Flow) :
    Stream.ReadReply × Decoder :=
  if payload.length ≤ buffer.length then
    (⟨some (.ok (some payload.length)), payload ++ buffer.drop payload.length⟩,
      { d with flow := rest })
  else
    (⟨some (.error (.shortBuffer payload.length buffer.length)), buffer⟩,
      match d.policy with
      | .discard => { d with flow := rest }
      | .retain => d)

/-- What a failure or an end between two records makes of a read: a failure passes, an end stays. -/
def pass (d : Decoder) (buffer : List UInt8) (cause : Option Failure) (rest : Flow) :
    Stream.ReadReply × Decoder :=
  match cause with
  | some cause => (⟨some (.error (.io cause)), buffer⟩, { d with flow := rest })
  | none => (⟨some (.ok none), buffer⟩, { d with flow := rest, phase := .ended })

/-- What a failure or an end inside a record makes of a read: the framing is lost for good. -/
def lose (d : Decoder) (buffer : List UInt8) (expected received : Nat) (cause : Option Failure)
    (rest : Flow) : Stream.ReadReply × Decoder :=
  (⟨some (.error (.truncatedPacket expected received (cause.getD .endInsideRecord))), buffer⟩,
    { d with flow := rest, phase := .lost })

/-- Reads a record into a buffer. There is no answer if too few bytes come and nothing else. -/
def read (buffer : List UInt8) (d : Decoder) : Stream.ReadReply × Decoder :=
  match d.phase with
  | .lost => (⟨some (.error (.protocolState .reading)), buffer⟩, d)
  | .ended => (⟨some (.ok none), buffer⟩, d)
  | .reading => match d.flow.front with
    | .record payload rest => d.handOut buffer payload rest
    | .cut _ 0 cause rest => d.pass buffer cause rest
    | .cut expected (received + 1) cause rest => d.lose buffer expected (received + 1) cause rest
    | .starved => (⟨none, buffer⟩, d)

/-- Without an answer, nothing is written and the decoder stays where it is. -/
theorem read_of_unanswered {d : Decoder} {buffer : List UInt8}
    (h : (d.read buffer).1.answer = none) : d.read buffer = (⟨none, buffer⟩, d) := by
  unfold read at h ⊢
  -- Only a flow that has starved leaves a read without an answer.
  split <;> simp only [*] at h
  · simp at h
  · simp at h
  · split <;> simp only [*] at h
    · unfold handOut at h
      split at h <;> simp at h
    · next cause _ _ => cases cause <;> simp [pass] at h
    · simp [lose] at h
    · rfl

end Decoder

/-! ## Bytes in front of a flow -/

namespace Flow

/-- As many bytes as are in front are read. -/
theorem fetch_prepend {count : Nat} {bytes : List UInt8} (h : count ≤ bytes.length) (f : Flow) :
    (f.prepend bytes).fetch count = .all (bytes.take count) (f.prepend (bytes.drop count)) := by
  induction count generalizing bytes with
  | zero => simp [fetch]
  | succ count ih =>
    cases bytes with
    | nil => simp at h
    | cons b bytes =>
      have fewer : count ≤ bytes.length := by simpa using h
      simp [fetch, ih fewer, Fetched.cons]

/-- Too few bytes are counted, up to the failure or end behind them. -/
theorem fetch_prepend_of_stop {count : Nat} {bytes : List UInt8} (h : bytes.length < count)
    {f rest : Flow} {cause : Option Failure} (stop : f.next? = some (.stop cause, rest)) :
    (f.prepend bytes).fetch count = .cut bytes.length cause rest := by
  induction count generalizing bytes with
  | zero => simp at h
  | succ count ih =>
    cases bytes with
    | nil => simp [fetch, stop]
    | cons b bytes =>
      have fewer : bytes.length < count := by simpa using h
      simp [fetch, ih fewer, Fetched.cons]

/-- Too few bytes with nothing behind them are not answered. -/
theorem fetch_prepend_of_nothing {count : Nat} {bytes : List UInt8} (h : bytes.length < count)
    {f : Flow} (nothing : f.next? = none) : (f.prepend bytes).fetch count = .starved := by
  induction count generalizing bytes with
  | zero => simp at h
  | succ count ih =>
    cases bytes with
    | nil => simp [fetch, nothing]
    | cons b bytes =>
      have fewer : bytes.length < count := by simpa using h
      simp [fetch, ih fewer, Fetched.cons]

/-! ## Records in front of a flow -/

/-- With its two bytes there, the length of the record in front is known. -/
theorem front_prepend_pair (high low : UInt8) (body : List UInt8) (f : Flow) :
    (f.prepend (high :: low :: body)).front =
      (f.prepend body).payload (BigEndian.decode high low) := by
  have size := fetch_prepend (show 2 ≤ (high :: low :: body).length by simp) f
  have value : valueOf [high, low] = BigEndian.decode high low := by
    simp [valueOf, BigEndian.decode]
  simp only [List.take_succ_cons, List.take_zero, List.drop_succ_cons, List.drop_zero] at size
  rw [front, size, ← value]

/-- The record in front of some bytes is in front of the flow that they begin. -/
theorem front_of_split {bytes payload later : List UInt8}
    (h : Record.split? bytes = some (payload, later)) (f : Flow) :
    (f.prepend bytes).front = .record payload (f.prepend later) := by
  -- A record that can be split off has its two length bytes.
  match bytes, h with
  | high :: low :: body, h =>
    simp only [Record.split?] at h
    split at h
    · next enough =>
      obtain ⟨rfl, rfl⟩ : body.take _ = payload ∧ body.drop _ = later := by simpa using h
      rw [front_prepend_pair, Flow.payload, fetch_prepend enough]
    · simp at h

/-- The rest of a record whose length is there is short of it. -/
private theorem body_short {high low : UInt8} {body : List UInt8}
    (h : Record.split? (high :: low :: body) = none) :
    body.length < BigEndian.decode high low := by
  have short := (Record.split?_eq_none_iff _).1 h
  simp only [Record.extent, Record.lengthSize, List.length_cons] at short
  omega

/-- A record that a failure or an end cuts off: as long as its bytes tell, and as long as they
are. -/
theorem front_of_stop {bytes : List UInt8} (h : Record.split? bytes = none) {f rest : Flow}
    {cause : Option Failure} (stop : f.next? = some (.stop cause, rest)) :
    (f.prepend bytes).front = .cut (Record.extent bytes) bytes.length cause rest := by
  match bytes, h with
  | [], _ => rw [front, fetch_prepend_of_stop (by simp) stop]; rfl
  | [b], _ => rw [front, fetch_prepend_of_stop (by simp) stop]; rfl
  | high :: low :: body, h =>
    have received : 2 + body.length = (high :: low :: body).length := by
      simp only [List.length_cons]; omega
    rw [front_prepend_pair, Flow.payload, fetch_prepend_of_stop (body_short h) stop]
    simp only [received, Record.extent, Record.lengthSize]

/-- An incomplete record with nothing behind it is not answered. -/
theorem front_of_nothing {bytes : List UInt8} (h : Record.split? bytes = none) {f : Flow}
    (nothing : f.next? = none) : (f.prepend bytes).front = .starved := by
  match bytes, h with
  | [], _ => rw [front, fetch_prepend_of_nothing (by simp) nothing]
  | [b], _ => rw [front, fetch_prepend_of_nothing (by simp) nothing]
  | high :: low :: body, h =>
    rw [front_prepend_pair, Flow.payload, fetch_prepend_of_nothing (body_short h) nothing]

end Flow

/-! ## Reads of a flow that begins with some bytes -/

namespace Decoder

variable (policy : ShortBufferPolicy) (buffer : List UInt8) {bytes : List UInt8} {f rest : Flow}

/-- A complete record is handed out. -/
theorem read_of_split {payload later : List UInt8}
    (h : Record.split? bytes = some (payload, later)) (f : Flow) :
    read buffer ⟨policy, f.prepend bytes, .reading⟩ =
      handOut ⟨policy, f.prepend bytes, .reading⟩ buffer payload (f.prepend later) := by
  simp only [read, Flow.front_of_split h]

/-- A failure or an end between two records. -/
theorem read_of_stop {cause : Option Failure} (stop : f.next? = some (.stop cause, rest)) :
    read buffer ⟨policy, f, .reading⟩ = pass ⟨policy, f, .reading⟩ buffer cause rest := by
  have front := Flow.front_of_stop (show Record.split? [] = none from rfl) stop
  rw [Flow.prepend_nil] at front
  simp only [read, front, List.length_nil]

/-- A failure or an end inside a record. -/
theorem read_of_stop_inside (h : Record.split? bytes = none) (some_bytes : bytes ≠ [])
    {cause : Option Failure} (stop : f.next? = some (.stop cause, rest)) :
    read buffer ⟨policy, f.prepend bytes, .reading⟩ =
      lose ⟨policy, f.prepend bytes, .reading⟩ buffer (Record.extent bytes) bytes.length cause
        rest := by
  obtain ⟨count, hcount⟩ : ∃ n, bytes.length = n + 1 :=
    Nat.exists_eq_succ_of_ne_zero (mt List.eq_nil_of_length_eq_zero some_bytes)
  have front := Flow.front_of_stop h stop
  rw [hcount] at front ⊢
  simp only [read, front]

/-- An incomplete record with nothing behind it. -/
theorem read_of_nothing (h : Record.split? bytes = none) (nothing : f.next? = none) :
    read buffer ⟨policy, f.prepend bytes, .reading⟩ =
      (⟨none, buffer⟩, ⟨policy, f.prepend bytes, .reading⟩) := by
  simp only [read, Flow.front_of_nothing h nothing]

end Decoder

end DatagramTunnel
