import IdFactory.Proofs.FillStream

namespace IdFactory

open IdFactory.Random IdFactory.Filter

/-!
# How long a fill runs

With a limit on the rejections in a row, a fill checks at most `limit`
candidates for each identifier of its batch: before each identifier it
accepts, fewer than `limit` candidates were refused in a row, and once
`limit` are, it gives up. So whichever way it ends, it has checked at most
`capacity * limit` candidates.

Failed draws are no candidates, and nothing bounds them. But once the
source stops failing, every draw is a candidate or a crash, so a fill whose
draws all end ends too. What decreases with each draw is the identifiers
still missing, weighted by the limit, less the rejections in a row, plus
the failures still to come.
-/

namespace FillPlan

variable {σ : Type} [RandomSource σ]

theorem length_candidates_concat_le
    (draws : List (Except DrawFailure Identifier))
    (draw : Except DrawFailure Identifier) :
    (candidates (draws ++ [draw])).length ≤ (candidates draws).length + 1 := by
  rcases draw with failure | id <;> simp

section Limited

variable {plan : FillPlan} {limit : Nat}

theorem capped_ne_zero
    (capped : plan.maxConsecutiveRejections = some limit)
    (limitPositive : 0 < limit) :
    plan.maxConsecutiveRejections ≠ some 0 := by
  rw [capped]
  intro same
  cases same
  exact Nat.lt_irrefl 0 limitPositive

/-- One draw after which the fill goes on keeps its candidates within a run of fewer than
`limit` rejections before each identifier it accepted, and the run going on now. -/
theorem absorb_checked_le
    (capped : plan.maxConsecutiveRejections = some limit)
    {p next : FillProgress}
    {draw : Except DrawFailure Identifier}
    {filter filter' : Bloom}
    (checked : p.rejected + p.accepted ≤ p.accepted * limit + p.streak)
    (below : p.streak < limit)
    (goesOn : plan.absorb p draw filter = (.next next, filter')) :
    next.rejected + next.accepted ≤ next.accepted * limit + next.streak ∧ next.streak < limit := by
  rcases absorb_eq_next goesOn with
    ⟨-, -, rfl, -⟩ | ⟨-, -, -, rfl, -⟩ | ⟨-, -, -, rfl, -, shortOfLimit⟩
  · exact ⟨checked, below⟩
  · -- an acceptance closes a run of fewer than `limit` rejections
    have grown : (p.accepted + 1) * limit = p.accepted * limit + limit := Nat.succ_mul _ _
    dsimp only
    constructor <;> omega
  · exact ⟨by dsimp only; omega, shortOfLimit limit capped⟩

/-- Every run of draws after which the fill still goes on keeps that bound. -/
theorem replay_checked_le
    (capped : plan.maxConsecutiveRejections = some limit)
    (limitPositive : 0 < limit)
    (origin : Bloom)
    (draws : List (Except DrawFailure Identifier))
    {p : FillProgress}
    {filter : Bloom}
    (going : plan.replay {} origin draws = (.next p, filter)) :
    p.rejected + p.accepted ≤ p.accepted * limit + p.streak ∧ p.streak < limit := by
  induction draws using List.reverseRecOn generalizing p filter with
  | nil =>
      cases going
      exact ⟨Nat.zero_le _, limitPositive⟩
  | append_singleton draws draw inductionHypothesis =>
      obtain ⟨before, held, replayed, goesOn⟩ := replay_of_concat_next going
      obtain ⟨checked, below⟩ := inductionHypothesis replayed
      exact absorb_checked_le capped checked below goesOn

/-- One draw more than a fill that was short of its batch checks at most `limit` candidates
for each identifier of the batch. -/
theorem candidates_le_of_going
    (capped : plan.maxConsecutiveRejections = some limit)
    (limitPositive : 0 < limit)
    (filter : Bloom)
    (source : σ)
    {m : Nat}
    {p : FillProgress}
    {held : Bloom}
    (replayed : plan.replay {} filter (plan.drawsFrom m source) = (.next p, held))
    (short : p.accepted < plan.capacity) :
    (candidates (plan.drawsFrom (m + 1) source)).length ≤ plan.capacity * limit := by
  have ledger := replay_ledger plan (capped_ne_zero capped limitPositive) filter _ replayed
  obtain ⟨checked, below⟩ := replay_checked_le capped limitPositive filter _ replayed
  have counted := ledger.rejected
  have grown : (p.accepted + 1) * limit = p.accepted * limit + limit := Nat.succ_mul _ _
  have batch : (p.accepted + 1) * limit ≤ plan.capacity * limit := Nat.mul_le_mul_right limit short
  calc (candidates (plan.drawsFrom (m + 1) source)).length
      ≤ (candidates (plan.drawsFrom m source)).length + 1 := by
        rw [drawsFrom_succ]
        exact length_candidates_concat_le _ _
    _ ≤ plan.capacity * limit := by omega

/-- A fill that ends has checked at most `limit` candidates for each identifier of its batch. -/
theorem candidates_le_of_run
    (capped : plan.maxConsecutiveRejections = some limit)
    (limitPositive : 0 < limit)
    {filter : Bloom}
    {source : σ}
    {n : Nat}
    (going : ∀ m < n, ∃ progress held, plan.replay {} filter (plan.drawsFrom m source) =
      (.next progress, held) ∧ progress.accepted < plan.capacity) :
    (candidates (plan.drawsFrom n source)).length ≤ plan.capacity * limit := by
  cases n with
  | zero =>
      exact Nat.zero_le _
  | succ m =>
      obtain ⟨p, held, replayed, short⟩ := going m (Nat.lt_succ_self m)
      exact candidates_le_of_going capped limitPositive filter source replayed short

/-- With the source failing only before `bound` and every draw ending, a fill that goes on ends:
the identifiers still missing, weighted by the limit, less the rejections in a row, plus the
failures still to come, decrease with every draw. -/
theorem run_isSome
    (capped : plan.maxConsecutiveRejections = some limit)
    (limitPositive : 0 < limit)
    (source : σ)
    (drawsEnd : ∀ k, (plan.alphabet.draw? plan.length (plan.sourceAfter k source)).isSome)
    (bound : Nat)
    (failsBefore : ∀ k, bound ≤ k →
      failed (plan.alphabet.draw plan.length (plan.sourceAfter k source)).1.outcome = false) :
    ∀ measure k p filter, (plan.capacity - p.accepted) * limit - p.streak + (bound - k) = measure →
      p.streak < limit → (plan.run p filter (plan.sourceAfter k source)).isSome := by
  intro measure
  induction measure using Nat.strongRecOn with
  | ind measure inductionHypothesis =>
  intro k p filter measureIs below
  rw [run]
  split
  · rfl
  · rename_i short
    obtain ⟨⟨drawn, next⟩, answered⟩ := Option.isSome_iff_exists.mp (drawsEnd k)
    have drawIs : plan.alphabet.draw plan.length (plan.sourceAfter k source) = (drawn, next) := by
      simp [Alphabet.draw, answered]
    have nextIs : next = plan.sourceAfter (k + 1) source := by
      rw [sourceAfter_succ, drawIs]
    rw [answered]
    dsimp only
    split
    · rename_i progress held goesOn
      rw [nextIs]
      have missing : limit ≤ (plan.capacity - p.accepted) * limit :=
        Nat.le_mul_of_pos_left limit (by omega)
      rcases absorb_eq_next goesOn with
        ⟨reason, failedDraw, rfl, -⟩ | ⟨-, -, -, rfl, -⟩ | ⟨-, -, -, rfl, -, shortOfLimit⟩
      · -- a failure: the source fails only before `bound`
        have early : k < bound := by
          refine Nat.lt_of_not_le fun late => ?_
          have notFailed := failsBefore k late
          rw [drawIs, failedDraw] at notFailed
          cases notFailed
        exact inductionHypothesis _ (by dsimp only; omega) (k + 1) _ _ rfl below
      · -- an acceptance: one identifier fewer is missing, and the run of rejections is over
        have fewer : (plan.capacity - p.accepted) * limit =
            (plan.capacity - (p.accepted + 1)) * limit + limit := by
          rw [← Nat.succ_mul]
          congr 1
          omega
        exact inductionHypothesis _ (by dsimp only; omega) (k + 1) _ _ rfl limitPositive
      · -- a rejection: one more in a row, still below the limit
        exact inductionHypothesis _ (by dsimp only; omega) (k + 1) _ _ rfl (shortOfLimit limit capped)
    · rfl

end Limited

/--
With a limit of `limit` rejections in a row, a fill that ends has checked at
most `capacity * limit` candidates against the filter, and a batch it hands
out counts its identifiers and rejections within that bound. A fill whose
draws all end, from a source that fails only finitely often, ends.
-/
theorem fill_checks_at_most_capacity_times_limit
    (plan : FillPlan)
    (limit : Nat)
    (capped : plan.maxConsecutiveRejections = some limit)
    (limitPositive : 0 < limit)
    (filter : Bloom)
    (source : σ) :
    (∀ outcome filter' source', plan.fill filter source = (outcome, filter', source') →
        outcome ≠ .stalled →
        ∃ n, source' = plan.sourceAfter n source ∧
          (candidates (plan.drawsFrom n source)).length ≤ plan.capacity * limit ∧
          ∀ ids rejected failedDraws, outcome = .filled ids rejected failedDraws →
            ids.length + rejected ≤ plan.capacity * limit) ∧
      ((∀ k, (plan.alphabet.draw? plan.length (plan.sourceAfter k source)).isSome) →
        (∃ bound, ∀ k, bound ≤ k →
          failed (plan.alphabet.draw plan.length (plan.sourceAfter k source)).1.outcome = false) →
        (plan.fill filter source).1 ≠ .stalled) := by
  constructor
  · intro outcome filter' source' ended notStalled
    obtain ⟨n, sourceIs, going, final⟩ := run_ends (run_of_fill ended notStalled)
    dsimp only at sourceIs final
    have checked := candidates_le_of_run capped limitPositive going
    refine ⟨n, sourceIs, checked, fun ids rejected failedDraws filled => ?_⟩
    rcases final with ⟨progress, replayed, -, outcomeIs⟩ | stopped
    · -- the batch's counts are those of the fill after all its draws
      have ledger := replay_ledger plan (capped_ne_zero capped limitPositive) filter _ replayed
      rw [outcomeIs] at filled
      cases filled
      have counted := ledger.rejected
      rw [List.length_reverse, ← ledger.accepted]
      omega
    · -- a batch is handed out only when the fill goes on, never at a draw that ends it
      rw [filled] at stopped
      rcases replay_stop_cases stopped with same | ⟨_, same⟩ <;> cases same
  · rintro drawsEnd ⟨bound, failsBefore⟩
    have ends := run_isSome capped limitPositive source drawsEnd bound failsBefore _ 0 {} filter rfl
      limitPositive
    obtain ⟨result, ranTo⟩ := Option.isSome_iff_exists.mp ends
    unfold fill
    rw [show plan.sourceAfter 0 source = source from rfl] at ranTo
    rw [ranTo, Option.getD_some]
    exact run_ne_stalled ranTo

/-- Filling one identifier of two symbols from a counting source, which never fails. -/
theorem fill_checks_at_most_capacity_times_limit_counting :
    let plan : FillPlan := ⟨Alphabet.ab, 2, 1, some 3⟩
    let filter := Bloom.withParams keyHash ⟨64, 3⟩
    let source : ScriptedSource := { script := [], fallback := .counter 0 }
    let outcome := FillOutcome.filled [Identifier.ofSymbols [97, 98]] 0 0
    let filter' := filter.insert (Identifier.ofSymbols [97, 98]).bytes
    let source' := RandomSource.after 8 1 source
    plan.maxConsecutiveRejections = some 3 ∧ 0 < 3 ∧
      plan.fill filter source = (outcome, filter', source') ∧ outcome ≠ .stalled ∧
      (∃ n, source' = plan.sourceAfter n source ∧
        (candidates (plan.drawsFrom n source)).length ≤ plan.capacity * 3 ∧
        ∀ ids rejected failedDraws, outcome = .filled ids rejected failedDraws →
          ids.length + rejected ≤ plan.capacity * 3) ∧
      (∀ k, (plan.alphabet.draw? plan.length (plan.sourceAfter k source)).isSome) ∧
      (∀ k, 0 ≤ k →
        failed (plan.alphabet.draw plan.length (plan.sourceAfter k source)).1.outcome = false) ∧
      (plan.fill filter source).1 ≠ .stalled := by
  intro plan filter source outcome filter' source'
  have notStalled : outcome ≠ .stalled := fun same => FillOutcome.noConfusion same
  have drawsEnd : ∀ k, (plan.alphabet.draw? plan.length (plan.sourceAfter k source)).isSome := by
    intro k
    obtain ⟨_, _, _, drawn⟩ := draw?_sourceAfter_pair_counting 1 (some 3) k
    exact Option.isSome_iff_exists.mpr ⟨_, drawn⟩
  have neverFails : ∀ k, 0 ≤ k →
      failed (plan.alphabet.draw plan.length (plan.sourceAfter k source)).1.outcome = false := by
    intro k _
    obtain ⟨_, _, _, drawn⟩ := draw?_sourceAfter_pair_counting 1 (some 3) k
    rw [Alphabet.draw, drawn, Option.getD_some]
    rfl
  have bounded := fill_checks_at_most_capacity_times_limit plan 3 rfl (by decide) filter source
  exact ⟨rfl, by decide, fill_counting_pair keyHash, notStalled,
    bounded.1 outcome filter' source' (fill_counting_pair keyHash) notStalled, drawsEnd, neverFails,
    bounded.2 drawsEnd ⟨0, neverFails⟩⟩

end FillPlan

end IdFactory
