import DatagramTunnel.Failure

/-!
# Calls that wait

A call on a transport is polled until it has its answer. Between polls it waits in a stage, a value
that says where it goes on; everything else it has done so far is in the state that the calls share.
A call can be dropped between polls, which forgets the stage and keeps the state. `drive` polls a
call a limited number of times and then drops it.
-/

namespace DatagramTunnel

/-- What a transport says to a request. -/
inductive Reply (α : Type) where
  | done (value : α)
  | failed (cause : Failure)
  | pending

/-- How far a poll brings a call. -/
inductive Progress (Stage Answer : Type) where
  | ready (answer : Answer)
  | waiting (stage : Stage)

/-- Polls a call at most `polls` times. There is no answer if the call is dropped first. -/
def drive {Stage State Answer : Type} (poll : Stage → State → Progress Stage Answer × State) :
    Nat → Stage → State → Option Answer × State
  | 0, _, state => (none, state)
  | polls + 1, stage, state => match poll stage state with
    | (.ready answer, state) => (some answer, state)
    | (.waiting stage, state) => drive poll polls stage state

end DatagramTunnel
