namespace IdFactory.Random

/-!
# SplitMix64

The SplitMix64 generator: a 64-bit state advanced by the golden-ratio
increment, each output the state mixed by two xor-shift-multiply rounds and
a final xor-shift, all in wrapping 64-bit arithmetic. A buffer is filled
with successive outputs, each written in little-endian byte order, the last
one cut to fit.
-/

/-- The state of a SplitMix64 generator. -/
structure SplitMix where
  state : UInt64
  deriving Repr, DecidableEq

/-- The increment of the state, the odd integer nearest to `2^64` over the golden ratio. -/
def goldenGamma : UInt64 := 0x9E3779B97F4A7C15

/-- The output mixing function. -/
def mix (s : UInt64) : UInt64 :=
  let z := (s ^^^ (s >>> 30)) * 0xBF58476D1CE4E5B9
  let z := (z ^^^ (z >>> 27)) * 0x94D049BB133111EB
  z ^^^ (z >>> 31)

/-- The next output and the generator after it. -/
def SplitMix.next (g : SplitMix) : UInt64 × SplitMix :=
  let s := g.state + goldenGamma
  (mix s, ⟨s⟩)

/-- The eight bytes of a word, least significant first. -/
def littleEndian (w : UInt64) : List UInt8 :=
  (List.range 8).map fun i => (w >>> (8 * i).toUInt64).toUInt8

/-- The next `count` outputs, appended in order to the reversed prefix `acc`. -/
def SplitMix.wordsOnto (acc : List UInt64) (g : SplitMix) : Nat → List UInt64 × SplitMix
  | 0 => (acc.reverse, g)
  | count + 1 =>
    let (w, g') := g.next
    SplitMix.wordsOnto (w :: acc) g' count

/-- A buffer of `size` bytes from successive outputs, and the generator after them. -/
def SplitMix.bytes (g : SplitMix) (size : Nat) : List UInt8 × SplitMix :=
  let (words, g') := SplitMix.wordsOnto [] g ((size + 7) / 8)
  ((words.flatMap littleEndian).take size, g')

end IdFactory.Random
