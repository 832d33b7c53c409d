import IdFactory.Decimal.Binary

namespace IdFactory.Decimal

/-!
# The shortest decimal that reads back

A finite double stands for every real number that rounds to it: the
interval between the midpoints to its two neighbours, both ends included
when the mantissa is even (a tie there reads back as the even mantissa).
The shortest decimal for the double is the decimal with the fewest
significant digits in that interval; among those of that length the one
nearest to the double is chosen, and when the two candidates are equally
near, the larger.

The search works on exact natural numbers. For `n = 1, 2, …, 17` digits the
grid of `n`-digit decimals has spacing `10^s`; the value's two neighbours on
that grid are `⌊v / 10^s⌋ * 10^s` and one step above it. If a grid point lies in
the interval then so does one of these two neighbours, so testing them
finds the least `n`. Seventeen digits always suffice for a double.
-/

/-- A decimal number `digits * 10^exponent`. -/
structure Scientific where
  digits : Nat
  exponent : Int
  deriving Repr, DecidableEq

/-- `a * 2^p` and `c * 10^s` scaled to one denominator, so that their order is the
order of the two components. -/
def overCommon (a : Nat) (p : Int) (c : Nat) (s : Int) : Nat × Nat :=
  (a * Nat.pow 2 p.toNat * Nat.pow 10 (-s).toNat, c * Nat.pow 10 s.toNat * Nat.pow 2 (-p).toNat)

/-- `⌊a * 2^p / 10^s⌋`. -/
def floorScaled (a : Nat) (p s : Int) : Nat :=
  (a * Nat.pow 2 p.toNat * Nat.pow 10 (-s).toNat) / (Nat.pow 10 s.toNat * Nat.pow 2 (-p).toNat)

/-- Move an estimate `e` of the decimal exponent of `a * 2^p` until
`10^e ≤ a * 2^p < 10^(e + 1)`; the estimate is off by at most one, so a few steps suffice. -/
def settleExponent (a : Nat) (p : Int) : Nat → Int → Int
  | 0, e => e
  | fuel + 1, e =>
    let (value, power) := overCommon a p 1 e
    if value < power then settleExponent a p fuel (e - 1)
    else
      let (value', nextPower) := overCommon a p 1 (e + 1)
      if nextPower ≤ value' then settleExponent a p fuel (e + 1) else e

/-- The exponent of the leading decimal digit of `a * 2^p`, for `a > 0`. The first guess
multiplies the binary exponent by `78913 / 2^18`, just below `log10 2`. -/
def leadingExponent (a : Nat) (p : Int) : Int :=
  let binaryExponent : Int := (Nat.log2 a : Int) + p
  settleExponent a p 4 (binaryExponent * 78913 / 262144)

/-- Drop the trailing zeros of a decimal, raising its exponent to match. -/
def Scientific.trim : Nat → Scientific → Scientific
  | 0, d => d
  | fuel + 1, ⟨digits, exponent⟩ =>
    if digits ≠ 0 ∧ digits % 10 = 0 then Scientific.trim fuel ⟨digits / 10, exponent + 1⟩
    else ⟨digits, exponent⟩

/-- The rounding interval of a finite double, as three numerators over `2^(exponent - 2)`:
the lower end, the value itself and the upper end, and whether the ends belong to it. -/
structure Interval where
  low : Nat
  center : Nat
  high : Nat
  scale : Int
  inclusive : Bool
  deriving Repr

/-- The interval of reals that read back as a finite double. -/
def Binary.interval (b : Binary) : Interval where
  low := if b.lowerGapHalved then 4 * b.mantissa - 1 else 4 * b.mantissa - 2
  center := 4 * b.mantissa
  high := 4 * b.mantissa + 2
  scale := b.exponent - 2
  inclusive := b.mantissa % 2 == 0

/-- Whether `left ≤ right` or, for an open end, `left < right`. -/
def Interval.below (i : Interval) (left right : Nat) : Bool :=
  if i.inclusive then left ≤ right else left < right

/-- The candidate of `digits` significant figures nearest to the value, if one of the two grid
neighbours lies in the interval; a tie between the two goes to the larger. -/
def Interval.candidate (i : Interval) (lead : Int) (digits : Nat) : Option Scientific :=
  let s := lead + 1 - digits
  let down := floorScaled i.center i.scale s
  let up := down + 1
  let downInside := let (l, d) := overCommon i.low i.scale down s; i.below l d
  let upInside := let (h, u) := overCommon i.high i.scale up s; i.below u h
  if downInside && upInside then
    let (twice, midpoint) := overCommon (2 * i.center) i.scale (2 * down + 1) s
    if midpoint ≤ twice then some ⟨up, s⟩ else some ⟨down, s⟩
  else if downInside then some ⟨down, s⟩
  else if upInside then some ⟨up, s⟩
  else none

/-- The shortest decimal that reads back as a finite double, ignoring its sign; zero for zero. -/
def Binary.shortest (b : Binary) : Scientific :=
  if b.mantissa = 0 then ⟨0, 0⟩
  else
    let i := b.interval
    let lead := leadingExponent i.center i.scale
    let found := (List.range 17).findSome? fun n => i.candidate lead (n + 1)
    let chosen := found.getD ⟨floorScaled i.center i.scale (lead - 16), lead - 16⟩
    chosen.trim 20

end IdFactory.Decimal
