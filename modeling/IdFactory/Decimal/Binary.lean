namespace IdFactory.Decimal

/-!
# Doubles as exact binary fractions

A double-precision value is read off its 64 bits: a sign, an 11-bit biased
exponent and a 52-bit fraction. A finite value is `mantissa * 2^exponent`
exactly; the bit patterns with the largest exponent are the infinities and
NaN.

The same record is written back to bits, which is how a decimal number is
turned into the double nearest to it.
-/

/-- A finite double as the exact fraction `(-1)^negative * mantissa * 2^exponent`. -/
structure Binary where
  negative : Bool
  mantissa : Nat
  exponent : Int
  deriving Repr, DecidableEq

/-- The kinds of double: NaN, an infinity, or a finite value. -/
inductive Kind where
  | nan
  | infinite (negative : Bool)
  | finite (value : Binary)
  deriving Repr, DecidableEq

/-- The width of the fraction field. -/
def fractionBits : Nat := 52

/-- The exponent of the least subnormal step, `2^-1074`. -/
def leastExponent : Int := -1074

/-- Read the kind and exact value of a double from its bits. -/
def kindOfBits (bits : UInt64) : Kind :=
  let raw := bits.toNat
  let negative := raw / Nat.pow 2 63 == 1
  let biased := raw / Nat.pow 2 fractionBits % 2048
  let fraction := raw % Nat.pow 2 fractionBits
  if biased == 2047 then
    if fraction == 0 then .infinite negative else .nan
  else if biased == 0 then
    .finite ⟨negative, fraction, leastExponent⟩
  else
    .finite ⟨negative, fraction + Nat.pow 2 fractionBits, (biased : Int) - 1075⟩

/-- The kind and exact value of a double. -/
def kindOf (x : Float) : Kind :=
  kindOfBits x.toBits

/-- Whether the gap to the next lower double is half the gap to the next higher one:
the mantissa is a power of two at the bottom of a binade above the least one. -/
def Binary.lowerGapHalved (b : Binary) : Bool :=
  b.mantissa == Nat.pow 2 fractionBits && b.exponent > leastExponent

/-- The double with the given sign, biased exponent field and fraction field. -/
def ofFields (negative : Bool) (biased fraction : Nat) : Float :=
  Float.ofBits (UInt64.ofNat ((if negative then Nat.pow 2 63 else 0) + biased * Nat.pow 2 fractionBits + fraction))

/-- The infinity of a sign. -/
def infinityOf (negative : Bool) : Float :=
  ofFields negative 2047 0

/-- The zero of a sign. -/
def zeroOf (negative : Bool) : Float :=
  ofFields negative 0 0

end IdFactory.Decimal
