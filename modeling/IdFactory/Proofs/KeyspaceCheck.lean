import Mathlib.Algebra.Group.Nat.Defs
import Mathlib.Order.MinMax
import IdFactory.Factory.Config

namespace IdFactory

/-!
# The keyspace check counts without overflow

The number of identifiers of a length is counted in 128 bits, saturating:
it is the alphabet's size to the power of the length, or `2^128 - 1` when
that is larger. The pooled identifiers are counted the same way. A
configuration's counts are 64-bit, so the pooled identifiers number at most
`(2^64 - 1)^2`, below the cap, and neither saturation changes the answer of
the keyspace check: once the settings pass, a configuration is refused
exactly when the identifiers of its length, counted without a bound, are no
more than both the pooled identifiers and the filter's capacity.
-/

namespace Alphabet

/-- Capping a count, multiplying it and capping again caps the product. -/
theorem min_min_mul
    (count bound n : Nat) :
    min (min count bound * n) bound = min (count * n) bound := by
  rcases Nat.le_total count bound with below | above
  · rw [Nat.min_eq_left below]
  · -- past the bound both products reach it, unless `n` is zero and both vanish
    rw [Nat.min_eq_right above]
    rcases Nat.eq_zero_or_pos n with rfl | positive
    · simp
    · have boundReached : bound ≤ bound * n := Nat.le_mul_of_pos_right bound positive
      have countReached : bound ≤ count * n :=
        Nat.le_trans above (Nat.le_mul_of_pos_right count positive)
      rw [Nat.min_eq_right boundReached, Nat.min_eq_right countReached]

/-- The keyspace is the number of identifiers of the length, capped at `2^128 - 1`. -/
theorem keyspace_eq_min_pow
    (a : Alphabet)
    (length : Nat) :
    a.keyspace length = min (a.size ^ length) countCap := by
  induction length with
  | zero =>
      simp [countCap]
  | succ length inductionHypothesis =>
      rw [keyspace_succ, inductionHypothesis, min_min_mul, Nat.pow_succ]

end Alphabet

namespace FactoryConfig

/-- A capped count is at most a number below the cap exactly when the count itself is. -/
theorem min_countCap_le_iff
    {count required : Nat}
    (below : required < Alphabet.countCap) :
    min count Alphabet.countCap ≤ required ↔ count ≤ required :=
  min_le_iff.trans (or_iff_left (Nat.not_le_of_lt below))

section Counts

variable
  {c : FactoryConfig}
  (countBound : c.bucketCount < 2 ^ 64)
  (capacityBound : c.bucketCapacity < 2 ^ 64)

include countBound capacityBound

/-- Two 64-bit counts multiply to less than the cap. -/
theorem bucketProduct_lt_countCap :
    c.bucketCount * c.bucketCapacity < Alphabet.countCap :=
  calc c.bucketCount * c.bucketCapacity
      ≤ (2 ^ 64 - 1) * (2 ^ 64 - 1) := Nat.mul_le_mul (by omega) (by omega)
    _ < Alphabet.countCap := by decide

/-- The pooled identifiers of a configuration of 64-bit counts never saturate. -/
theorem pooled_eq_mul :
    c.pooled = c.bucketCount * c.bucketCapacity :=
  Nat.min_eq_left (Nat.le_of_lt (bucketProduct_lt_countCap countBound capacityBound))

/-- With 64-bit counts, the identifiers to tell apart stay below the cap. -/
theorem required_lt_countCap
    (filterBound : c.filterCapacity < 2 ^ 64) :
    c.required < Alphabet.countCap := by
  have filterBelow : c.filterCapacity < Alphabet.countCap :=
    Nat.lt_trans filterBound (by decide)
  exact max_lt (pooled_eq_mul countBound capacityBound ▸
    bucketProduct_lt_countCap countBound capacityBound) filterBelow

/-- The keyspace check refuses exactly when the identifiers of the length, counted without a
bound, are no more than the pooled identifiers and the filter's capacity. -/
theorem checkKeyspace_eq
    (filterBound : c.filterCapacity < 2 ^ 64) :
    c.checkKeyspace =
      if c.alphabet.size ^ c.idLength ≤ max (c.bucketCount * c.bucketCapacity) c.filterCapacity then
        .error (.keyspaceTooSmall c.alphabet.size c.idLength
          (min (c.alphabet.size ^ c.idLength) Alphabet.countCap)
          (max (c.bucketCount * c.bucketCapacity) c.filterCapacity))
      else .ok () := by
  have requiredIs : c.required = max (c.bucketCount * c.bucketCapacity) c.filterCapacity := by
    rw [required, pooled_eq_mul countBound capacityBound]
  have saturationSilent := @min_countCap_le_iff (c.alphabet.size ^ c.idLength) c.required
    (required_lt_countCap countBound capacityBound filterBound)
  rw [requiredIs] at saturationSilent
  simp only [checkKeyspace, Alphabet.keyspace_eq_min_pow, requiredIs, saturationSilent]

end Counts

/--
For every alphabet and length, the keyspace is the alphabet's size to the
power of the length, capped at `2^128 - 1`. For a configuration of 64-bit
counts, the pooled identifiers are counted without saturating and the
identifiers to tell apart stay below the cap; its check makes the checks of
the settings and then refuses exactly when the identifiers of its length,
counted without a bound, are no more than the pooled identifiers and the
filter's capacity, so it is accepted exactly when its settings pass and the
identifiers outnumber both.
-/
theorem check_keyspace_without_overflow
    (c : FactoryConfig)
    (countBound : c.bucketCount < 2 ^ 64)
    (capacityBound : c.bucketCapacity < 2 ^ 64)
    (filterBound : c.filterCapacity < 2 ^ 64) :
    (∀ (a : Alphabet) (length : Nat), a.keyspace length = min (a.size ^ length) (2 ^ 128 - 1)) ∧
      c.pooled = c.bucketCount * c.bucketCapacity ∧
      c.required < 2 ^ 128 - 1 ∧
      c.check = (c.checkSettings.bind fun _ =>
        if c.alphabet.size ^ c.idLength ≤ max (c.bucketCount * c.bucketCapacity) c.filterCapacity then
          .error (.keyspaceTooSmall c.alphabet.size c.idLength
            (min (c.alphabet.size ^ c.idLength) (2 ^ 128 - 1))
            (max (c.bucketCount * c.bucketCapacity) c.filterCapacity))
        else .ok ()) ∧
      (c.validate = .ok () ↔ c.checkSettings = .ok () ∧
        max (c.bucketCount * c.bucketCapacity) c.filterCapacity < c.alphabet.size ^ c.idLength) := by
  have keyspaceCheck := checkKeyspace_eq countBound capacityBound filterBound
  have checkIs : c.check = c.checkSettings.bind fun _ => c.checkKeyspace := rfl
  refine ⟨Alphabet.keyspace_eq_min_pow, pooled_eq_mul countBound capacityBound,
    required_lt_countCap countBound capacityBound filterBound, ?_, ?_⟩
  · rw [checkIs, keyspaceCheck]
    rfl
  · -- the check is accepted exactly when both of its parts are
    rw [validate, checkIs, keyspaceCheck]
    cases c.checkSettings with
    | error problem =>
        simp [Except.bind, Except.mapError]
    | ok _ =>
        by_cases small : c.alphabet.size ^ c.idLength ≤
            max (c.bucketCount * c.bucketCapacity) c.filterCapacity
        · rw [if_pos small]
          exact iff_of_false (by simp [Except.bind, Except.mapError])
            fun ⟨_, more⟩ => Nat.not_le_of_lt more small
        · rw [if_neg small]
          exact iff_of_true rfl ⟨rfl, Nat.lt_of_not_le small⟩

/-- A configuration asking for three symbols of the default alphabet with room for a million
identifiers in its filter has 64-bit counts and is refused: `64^3 = 262144` identifiers are too
few, whatever its settings. -/
theorem check_keyspace_without_overflow_shortLength :
    let c : FactoryConfig := { idLength := 3, filterCapacity := 1000000 }
    (c.bucketCount < 2 ^ 64 ∧ c.bucketCapacity < 2 ^ 64 ∧ c.filterCapacity < 2 ^ 64) ∧
      c.validate ≠ .ok () := by
  intro c
  have bounds : c.bucketCount < 2 ^ 64 ∧ c.bucketCapacity < 2 ^ 64 ∧ c.filterCapacity < 2 ^ 64 :=
    ⟨by decide, by decide, by decide⟩
  refine ⟨bounds, fun accepted => ?_⟩
  have outnumbered :=
    ((check_keyspace_without_overflow c bounds.1 bounds.2.1 bounds.2.2).2.2.2.2.mp accepted).2
  have counted : c.alphabet.size ^ c.idLength = 262144 := by decide +kernel
  have required : max (c.bucketCount * c.bucketCapacity) c.filterCapacity = 1000000 := by
    decide +kernel
  rw [counted, required] at outnumbered
  exact absurd outnumbered (by decide)

end FactoryConfig

end IdFactory
