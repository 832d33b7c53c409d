import IdFactory.Filter.Bloom

namespace IdFactory.Filter.Membership

/-!
# The shared membership filter

The factory's fill workers and its warm-up share one Bloom filter behind a
read-write lock. Adding a key takes the write lock and inserts the key.
Offering a key takes the read lock first and answers `false` at once when
the key is reported present; otherwise it releases the read lock, takes the
write lock, and inserts the key unless it is reported present by then,
answering whether it did. Each step under a lock is atomic. Between the two
steps of an offer other calls may run.

A run has a fixed list of calls, an addition written `Bloom.Call.insert`
and an offer `Bloom.Call.insertIfAbsent`, and a schedule that names, at
each moment, the call that takes its next step. A step of a finished call,
or of an index that names no call, does nothing. The history records in
real time the moment each call begins, at its first step, and ends, at its
last.
-/

/-- Where a call of a run stands: not started; an offer that found its key absent under the
read lock, waiting for the write lock; or finished with its answer, which for an addition is
`true`. -/
inductive Stage where
  | ready
  | checked
  | done (answer : Bool)
  deriving Repr, DecidableEq

/-- A moment of a run's history: call `i` begins, or call `i` ends. -/
inductive Moment where
  | began (call : Nat)
  | ended (call : Nat)
  deriving Repr, DecidableEq

/-- Calls sharing a filter: the filter, the calls, where each call stands, and the history of
the moments so far, oldest first. -/
structure State where
  filter : Bloom
  calls : List Bloom.Call
  stages : List Stage
  history : List Moment

namespace State

/-- A run of calls on a filter, none of them started. -/
def start (filter : Bloom) (calls : List Bloom.Call) : State :=
  ⟨filter, calls, calls.map fun _ => .ready, []⟩

/-- Call `i` takes its next step under the lock. -/
def step (s : State) (i : Nat) : State :=
  match s.calls[i]?, s.stages[i]? with
  | some (.insert key), some .ready =>
    { s with filter := s.filter.insert key, stages := s.stages.set i (.done true),
             history := s.history ++ [.began i, .ended i] }
  | some (.insertIfAbsent key), some .ready =>
    if s.filter.contains key then
      { s with stages := s.stages.set i (.done false), history := s.history ++ [.began i, .ended i] }
    else { s with stages := s.stages.set i .checked, history := s.history ++ [.began i] }
  | some (.insertIfAbsent key), some .checked =>
    let (answer, filter) := s.filter.insertIfAbsent key
    { s with filter := filter, stages := s.stages.set i (.done answer),
             history := s.history ++ [.ended i] }
  | _, _ => s

/-- Take the steps of a schedule, in order. -/
def run (s : State) (schedule : List Nat) : State :=
  schedule.foldl step s

/-- The answer of call `i`, once it has ended. -/
def answer? (s : State) (i : Nat) : Option Bool :=
  match s.stages[i]? with
  | some (.done answer) => some answer
  | _ => none

/-- The calls that have ended, in the order they ended. -/
def ended (s : State) : List Nat :=
  s.history.filterMap fun
    | .ended i => some i
    | .began _ => none

end State

end IdFactory.Filter.Membership
