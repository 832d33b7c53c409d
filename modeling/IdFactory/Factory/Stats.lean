import IdFactory.Pool

namespace IdFactory

/-!
# Factory counters

The factory counts the batches it served, the requests it could not serve,
the buckets filled and the fills given up, and over successful fills the
candidates rejected as already issued and the failed draws. A snapshot of
the counters together with the pool's bucket counts is the factory's
statistics.
-/

/-- The running counters of a factory. -/
structure Counters where
  batchesServed : Nat := 0
  poolExhausted : Nat := 0
  bucketsFilled : Nat := 0
  fillsAborted : Nat := 0
  candidatesRejected : Nat := 0
  generationErrors : Nat := 0
  deriving Repr, DecidableEq

/-- The statistics of a factory: its counters and the states of its buckets. -/
structure FactoryStats where
  counters : Counters
  pool : PoolCounts
  deriving Repr, DecidableEq

end IdFactory
