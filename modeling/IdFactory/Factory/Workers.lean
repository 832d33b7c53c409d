namespace IdFactory

/-!
# Fill workers

A running refill scheduler owns a fixed set of fill workers. Each worker
has its own queue of requests, and a request names the bucket to fill.
Requests are handed out round-robin: a 64-bit counter, which wraps, counts
the requests handed out so far. The next request goes to the worker whose
index is that count modulo the number of workers. So the `i`-th request,
counting from zero, goes to worker `(i mod 2^64) mod n`. Any `n` requests
in a row reach `n` different workers as long as the counter does not wrap
between them; across the wrap they do only when `n` divides `2^64`, and
otherwise two of them reach the same worker (with three workers, requests
`2^64 - 1` and `2^64` both go to worker `0`).

A worker serves its queue oldest first. Requests still queued when the
scheduler stops are served all the same.
-/

/-- The fill workers of one scheduler: the queue of bucket indices waiting at each worker,
oldest first, and the number of requests handed out, wrapping at `2^64`. -/
structure Workers where
  queues : Array (List Nat)
  handedOut : UInt64 := 0
  deriving Repr, DecidableEq

namespace Workers

/-- `count` workers with empty queues, none of them handed a request yet. -/
def spawn (count : Nat) : Workers :=
  { queues := Array.replicate count [] }

/-- The number of workers. -/
def size (w : Workers) : Nat :=
  w.queues.size

/-- The worker that receives the next request: the count handed out so far modulo the number
of workers. -/
def nextIndex (w : Workers) : Nat :=
  w.handedOut.toNat % w.size

/-- Hand a request for `bucket` to the next worker, at the back of its queue. -/
def send (w : Workers) (bucket : Nat) : Workers :=
  { queues := w.queues.modify w.nextIndex (· ++ [bucket]), handedOut := w.handedOut + 1 }

/-- Every request still queued, worker by worker, each queue oldest first. -/
def pending (w : Workers) : List Nat :=
  w.queues.toList.flatten

/-- The same workers with every queue emptied. -/
def clear (w : Workers) : Workers :=
  { w with queues := w.queues.map fun _ => [] }

/-- With at least one worker, the next request goes to one of them. -/
theorem nextIndex_lt (w : Workers) (h : 0 < w.size) : w.nextIndex < w.size :=
  Nat.mod_lt _ h

@[simp]
theorem size_clear (w : Workers) : w.clear.size = w.size := by
  simp [clear, size]

@[simp]
theorem pending_clear (w : Workers) : w.clear.pending = [] := by
  simp [clear, pending]

end Workers

end IdFactory
