import IdFactory.Filter.Probe

namespace IdFactory.Filter

/-!
# MurmurHash3, 128-bit variant for 64-bit platforms

The hash the program gives its filters (`keyHash`): MurmurHash3 x64/128 of
a key under a fixed seed. Both 64-bit lanes start at the seed. Each 16-byte
block is read as two little-endian words, each word is scrambled by a
multiply-rotate-multiply and folded into its lane, and the lanes are stirred
together. The last, shorter block is read the same way
with missing bytes taken as zero, and a lane whose half of it is empty is
left alone. Finally the length is folded in and both lanes pass the 64-bit
finaliser. All arithmetic wraps at `2^64`.
-/

/-- The first scrambling multiplier. -/
def multiplierLow : UInt64 := 0x87c37b91114253d5

/-- The second scrambling multiplier. -/
def multiplierHigh : UInt64 := 0x4cf5ad432745937f

/-- Rotate a word left by `r` places, `0 < r < 64`. -/
def rotateLeft (x : UInt64) (r : UInt64) : UInt64 :=
  (x <<< r) ||| (x >>> (64 - r))

/-- The little-endian word of up to eight bytes, missing high bytes zero. -/
def wordOfBytes (bytes : List UInt8) : UInt64 :=
  bytes.foldr (fun b acc => (acc <<< 8) ||| b.toUInt64) 0

/-- Scramble a word bound for the low lane. -/
def scrambleLow (k : UInt64) : UInt64 :=
  rotateLeft (k * multiplierLow) 31 * multiplierHigh

/-- Scramble a word bound for the high lane. -/
def scrambleHigh (k : UInt64) : UInt64 :=
  rotateLeft (k * multiplierHigh) 33 * multiplierLow

/-- Fold one full block, given as its two words, into the lanes. -/
def Lanes.block (s : Lanes) (k1 k2 : UInt64) : Lanes :=
  let low := s.low ^^^ scrambleLow k1
  let low := (rotateLeft low 27 + s.high) * 5 + 0x52dce729
  let high := s.high ^^^ scrambleHigh k2
  let high := (rotateLeft high 31 + low) * 5 + 0x38495ab5
  ⟨low, high⟩

/-- Fold the final block of fewer than sixteen bytes into the lanes. -/
def Lanes.tail (s : Lanes) (rest : List UInt8) : Lanes :=
  let high := if 8 < rest.length then s.high ^^^ scrambleHigh (wordOfBytes (rest.drop 8)) else s.high
  let low := if 0 < rest.length then s.low ^^^ scrambleLow (wordOfBytes (rest.take 8)) else s.low
  ⟨low, high⟩

/-- Fold every block of a byte string into the lanes, the final short one last. -/
def Lanes.absorb (s : Lanes) (bytes : List UInt8) : Lanes :=
  let block := bytes.take 16
  if _h : block.length = 16 then
    (s.block (wordOfBytes (block.take 8)) (wordOfBytes (block.drop 8))).absorb (bytes.drop 16)
  else s.tail bytes
termination_by bytes.length
decreasing_by
  simp only [block, List.length_take] at _h
  simp only [List.length_drop]
  omega

/-- The 64-bit finaliser, which lets every input bit reach every output bit. -/
def finalMix (k : UInt64) : UInt64 :=
  let k := (k ^^^ (k >>> 33)) * 0xff51afd7ed558ccd
  let k := (k ^^^ (k >>> 33)) * 0xc4ceb9fe1a85ec53
  k ^^^ (k >>> 33)

/-- Fold in the length and finalise both lanes. -/
def Lanes.finish (s : Lanes) (length : Nat) : Lanes :=
  let low := s.low ^^^ length.toUInt64
  let high := s.high ^^^ length.toUInt64
  let low := low + high
  let high := high + low
  let low := finalMix low
  let high := finalMix high
  let low := low + high
  ⟨low, high + low⟩

/-- The 128-bit hash of a byte string under a seed, as its low and high halves. -/
def murmur128 (seed : UInt64) (bytes : List UInt8) : Lanes :=
  (Lanes.absorb ⟨seed, seed⟩ bytes).finish bytes.length

/-- The seed of the program's filter hash. -/
def filterSeed : UInt64 := 0x5eedb10f

/-- The hash the program's filters use. -/
def keyHash (key : List UInt8) : Lanes :=
  murmur128 filterSeed key

end IdFactory.Filter
