namespace IdFactory.Filter

/-!
# Probe positions

A filter draws the positions of a key from a 128-bit hash of it, given as
its low and high halves. A key probes `k` positions of a filter of `m` bits
by double hashing: with `h1` and `h2` the low and high halves of the key's
hash, position `i` is `(h1 + i * h2) mod m`, the sum taken in wrapping
64-bit arithmetic. The step `h2` is forced odd, so that on a filter whose
size is a power of two the positions never fall into a shorter cycle.

Which hash a filter uses is a parameter of the filter: the program's
filters use MurmurHash3 under a fixed seed (`keyHash`), and nothing proved
of filters depends on which hash it is.
-/

/-- A 128-bit hash, as its low and high 64-bit halves. -/
structure Lanes where
  low : UInt64
  high : UInt64
  deriving Repr, DecidableEq

/-- The step between the probes of a hash: its high half, forced odd. -/
def Lanes.step (hash : Lanes) : UInt64 :=
  hash.high ||| 1

/-- The positions `count` probes of a hash take in `size` bits: probe `i` is the low half plus
`i` steps, in wrapping 64-bit arithmetic, modulo `size`. -/
def Lanes.probes (hash : Lanes) (count size : Nat) : List Nat :=
  (List.range count).map fun i => (hash.low + i.toUInt64 * hash.step).toNat % size

end IdFactory.Filter
