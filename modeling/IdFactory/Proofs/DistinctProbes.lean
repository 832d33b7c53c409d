import Mathlib.Algebra.Group.Nat.Defs
import Mathlib.Data.List.Nodup
import Mathlib.Data.Nat.ModEq
import Mathlib.Data.Nat.Prime.Basic
import IdFactory.Proofs.NoFalseNegatives

namespace IdFactory.Filter

/-!
# Probe positions are distinct and within the filter

A key probes a filter at `count` positions by double hashing: with `h1` the
low half of its 128-bit hash and `h2` the high half forced odd, probe `i` is
`((h1 + i * h2) mod 2^64) mod size`. Every probe lies below the size, and a
filter keeps at least one bit through every run of calls, so every position
a filter sets or reads is one of its bits.

When the size divides `2^64`, that is when it is a power of two up to
`2^64`, the wrap at `2^64` is invisible modulo the size, and an odd step is
invertible modulo the size: the first `size` probes fall on `size` different
positions. Nothing is assumed of the hash, so this holds whatever the hash of
the key. On other sizes the wrap breaks the progression, and two of the first
probes may meet.
-/

/-- Two of the first `modulus` points of a progression whose step is coprime to `modulus` lie in
different residues. -/
theorem eq_of_add_mul_mod_eq
    {modulus start step a b : Nat}
    (coprime : Nat.Coprime modulus step)
    (aLt : a < modulus)
    (bLt : b < modulus)
    (same : (start + a * step) % modulus = (start + b * step) % modulus) :
    a = b := by
  have steps : a * step ≡ b * step [MOD modulus] := Nat.ModEq.add_left_cancel' start same
  have residues : a ≡ b [MOD modulus] := Nat.ModEq.cancel_right_of_coprime coprime steps
  rwa [Nat.ModEq, Nat.mod_eq_of_lt aLt, Nat.mod_eq_of_lt bLt] at residues

namespace Lanes

variable (hash : Lanes)

theorem step_odd : hash.step.toNat % 2 = 1 := by
  rw [step, UInt64.toNat_or, Nat.mod_two_eq_one_iff_testBit_zero, Nat.testBit_or]
  simp

/-- The step is coprime to every divisor of `2^64`. -/
theorem step_coprime
    {size : Nat}
    (divides : size ∣ 2 ^ 64) :
    Nat.Coprime size hash.step.toNat := by
  have coprimeTwo : Nat.Coprime 2 hash.step.toNat :=
    Nat.coprime_two_left.mpr (Nat.odd_iff.mpr hash.step_odd)
  exact Nat.Coprime.coprime_dvd_left divides (Nat.Coprime.pow_left 64 coprimeTwo)

@[simp]
theorem length_probes (count size : Nat) : (hash.probes count size).length = count := by
  simp [probes]

/-- Probe `i`, for `i` below `2^64`, in plain arithmetic: the sum is taken modulo `2^64`. -/
theorem probe_toNat
    {i : Nat}
    (small : i < 2 ^ 64) :
    (hash.low + i.toUInt64 * hash.step).toNat = (hash.low.toNat + i * hash.step.toNat) % 2 ^ 64 := by
  rw [UInt64.toNat_add, UInt64.toNat_mul, Nat.toUInt64_eq, UInt64.toNat_ofNat',
    Nat.mod_eq_of_lt small, Nat.add_mod_mod]

/-- Every probe lies below a positive size. -/
theorem lt_of_mem_probes
    {count size p : Nat}
    (positive : 0 < size)
    (member : p ∈ hash.probes count size) :
    p < size := by
  obtain ⟨i, -, rfl⟩ := List.mem_map.mp member
  exact Nat.mod_lt _ positive

/-- On a size dividing `2^64`, the first `size` probes of a hash are different positions. -/
theorem probes_nodup_of_dvd
    {count size : Nat}
    (divides : size ∣ 2 ^ 64)
    (fewer : count ≤ size) :
    (hash.probes count size).Nodup := by
  have bounded : size ≤ 2 ^ 64 := Nat.le_of_dvd (Nat.two_pow_pos 64) divides
  refine List.Nodup.map_on ?_ List.nodup_range
  intro a aIn b bIn same
  rw [List.mem_range] at aIn bIn
  -- the wrap at `2^64` is a multiple of the size, so only the plain sum counts
  rw [probe_toNat hash (by omega), probe_toNat hash (by omega), Nat.mod_mod_of_dvd _ divides,
    Nat.mod_mod_of_dvd _ divides] at same
  exact eq_of_add_mul_mod_eq (hash.step_coprime divides) (by omega) (by omega) same

-- On three bits, which do not divide `2^64`, the wrap breaks the progression: with step
-- `2^63 + 1` the probes are `0, 0, 2`.
example : ¬ ((Lanes.mk 0 0x8000000000000000).probes 3 3).Nodup := by
  decide

end Lanes

namespace Bloom

/-- A filter built over any hash from any parameters keeps at least one bit through any run of
calls. -/
theorem sizeBits_replay_withParams_pos
    (hash : List UInt8 → Lanes)
    (params : FilterParams)
    (calls : List Call) :
    0 < ((withParams hash params).replay calls).2.sizeBits := by
  rw [sizeBits_replay]
  exact Nat.lt_of_lt_of_le Nat.one_pos (Nat.le_max_right _ _)

/-- Every position a filter of at least one bit probes is one of its bits. -/
theorem lt_of_mem_positions
    {f : Bloom}
    {key : List UInt8}
    {q : Nat}
    (positive : 0 < f.sizeBits)
    (member : q ∈ f.positions key) :
    q < f.sizeBits := by
  rw [positions] at member
  exact Lanes.lt_of_mem_probes _ positive member

end Bloom

/-- Double hashing: on a size `2^j` up to `2^63`, any hash's first `2^j` probes are distinct
positions; on any positive size every probe lies below it; and a filter built over any hash from
any parameters keeps a positive size through any run of calls, so every position it probes is one
of its bits. -/
theorem probes_distinct_and_in_bounds :
    (∀ (hash : Lanes) (j count : Nat), j ≤ 63 → count ≤ 2 ^ j →
      (hash.probes count (2 ^ j)).length = count ∧ (hash.probes count (2 ^ j)).Nodup) ∧
    (∀ (hash : Lanes) (size count : Nat), 0 < size → ∀ p ∈ hash.probes count size, p < size) ∧
    (∀ (hashOf : List UInt8 → Lanes) (params : FilterParams) (calls : List Bloom.Call)
        (key : List UInt8),
      0 < ((Bloom.withParams hashOf params).replay calls).2.sizeBits ∧
        ∀ q ∈ ((Bloom.withParams hashOf params).replay calls).2.positions key,
          q < ((Bloom.withParams hashOf params).replay calls).2.sizeBits) := by
  refine ⟨?_, ?_, ?_⟩
  · intro hash j count small fewer
    have divides : 2 ^ j ∣ 2 ^ 64 := Nat.pow_dvd_pow 2 (by omega)
    exact ⟨hash.length_probes count _, hash.probes_nodup_of_dvd divides fewer⟩
  · intro hash size count positive p member
    exact hash.lt_of_mem_probes positive member
  · intro hashOf params calls key
    have positive := Bloom.sizeBits_replay_withParams_pos hashOf params calls
    exact ⟨positive, fun q member => Bloom.lt_of_mem_positions positive member⟩

end IdFactory.Filter
