namespace IdFactory.Random

/-!
# Random sources

A random source answers a request for a buffer of bytes. It may fail and
say why, or crash, which aborts the whole computation that asked. A source
is a value: a request returns the bytes together with the source to ask
next, so that a run over a source is a plain function of it.
-/

/-- Why a random source gave no bytes. -/
inductive DrawFailure where
  /-- The source reported a failure. -/
  | failed (reason : String)
  /-- The source crashed, taking the computation that asked with it. -/
  | crashed
  deriving Repr, DecidableEq

/-- A source of random bytes. -/
class RandomSource (σ : Type) where
  /-- Fill a buffer of the given size, or fail; also the source after the request. -/
  fill : σ → Nat → Except DrawFailure (List UInt8) × σ

end IdFactory.Random
