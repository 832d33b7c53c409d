namespace IdFactory.Filter

/-!
# Sizing a filter

The size and hash count that make a Bloom filter of `n` keys answer wrongly
at the rate `p`: `m = ⌈-n ln p / (ln 2)^2⌉` bits, at least 64, and
`k = round (m / n * ln 2)` hashes, kept within 1 to 32. The computation is
in doubles; converting a double to a count saturates at `0` and `2^64 - 1`,
and a size that is not a number is taken as 64.

The estimated rate of wrong answers after `n` insertions is
`(1 - e^(-k n / m))^k`, the power taken by repeated squaring with the
exponent read as a signed 32-bit integer; a filter of no bits always
answers wrongly.
-/

/-- The size and hash count of a filter. -/
structure FilterParams where
  sizeBits : Nat
  hashCount : Nat
  deriving Repr, DecidableEq

/-- The natural logarithm of two, the double nearest to it. -/
def ln2 : Float := Float.ofBits 0x3FE62E42FEFA39EF

/-- A count as a double, rounded to nearest. -/
def countToFloat (n : Nat) : Float :=
  n.toUInt64.toFloat

/-- A double as a count: its integral part, saturating at `0` and `2^64 - 1`, zero for NaN. -/
def floatToCount (x : Float) : Nat :=
  x.toUInt64.toNat

/-- The larger of a double and a bound, the bound when the double is not a number. -/
def atLeast (bound x : Float) : Float :=
  if x.isNaN then bound else if x < bound then bound else x

/-- The parameters of a filter sized for a number of keys at a rate of wrong answers. -/
def FilterParams.optimal (capacity : Nat) (rate : Float) : FilterParams :=
  if capacity = 0 then ⟨64, 1⟩
  else
    let n := countToFloat capacity
    let size := floatToCount (atLeast 64.0 ((-n * rate.log / (ln2 * ln2)).ceil))
    let hashes := floatToCount ((countToFloat size / n * ln2).round)
    ⟨size, min (max hashes 1) 32⟩

/-- `r * a ^ n` by repeated squaring: the factor is taken when the low bit of `n` is set,
then `a` is squared for the next bit. -/
def squaringPower (r a : Float) (n : Nat) : Float :=
  let r := if n % 2 = 1 then r * a else r
  if h : n / 2 = 0 then r else squaringPower r (a * a) (n / 2)
termination_by n
decreasing_by omega

/-- A double to a signed integer power by repeated squaring, the reciprocal for a negative one. -/
def powInt (base : Float) (exponent : Int) : Float :=
  let r := squaringPower 1.0 base exponent.natAbs
  if exponent < 0 then 1.0 / r else r

/-- The low 32 bits of a count, read as a two's-complement integer. -/
def toSigned32 (n : Nat) : Int :=
  let low : Nat := n % Nat.pow 2 32
  if low < Nat.pow 2 31 then (low : Int) else (low : Int) - Nat.pow 2 32

/-- The estimated rate of wrong answers of a filter of `m` bits and `k` hashes holding `n` keys. -/
def falsePositiveRate (m k n : Nat) : Float :=
  if m = 0 then 1.0
  else
    let exponent := -countToFloat k * countToFloat n / countToFloat m
    powInt (1.0 - exponent.exp) (toSigned32 k)

end IdFactory.Filter
