import IdFactory.Proofs.FillStream

namespace IdFactory

open IdFactory.Random IdFactory.Filter

/-!
# What the counters of lost candidates count

A factory keeps two counters of what its fills lose: the candidates the
filter refused and the draws the random source failed. A fill that completes
its batch adds to them the refusals and the failures among its own draws. A
fill that gives up because the keyspace looks exhausted adds to neither,
although it refused at least as many candidates as its limit, and so at
least one: it only counts as aborted. The two counters therefore add up the
losses of the fills that completed, and miss those of every fill that gave up
(`fillBucket_counts_only_completed_fills`).

At the smallest such run, a keyspace of four identifiers and a source that
fails once and then spells the same identifier twice, the fill loses one
draw and refuses one candidate, and the factory counts neither
(`saturated_fill_loses_its_counts`).
-/

namespace FillPlan

variable {σ : Type} [RandomSource σ]

/-- The number of candidates among the draws that the filter `origin` refused when they were
offered one after the other. -/
def refusals (origin : Bloom) (draws : List (Except DrawFailure Identifier)) : Nat :=
  (candidates draws).length - (origin.admitted (candidates draws)).length

namespace Ledger

variable {plan : FillPlan} {origin : Bloom} {draws : List (Except DrawFailure Identifier)}
  {p : FillProgress} {filter : Bloom}

/-- The rejections a fill has counted are the candidates its origin refused. -/
theorem rejected_eq_refusals (ledger : Ledger plan origin draws p filter) :
    p.rejected = refusals origin draws := by
  have counted := ledger.rejected
  rw [refusals, ledger.length_admitted]
  omega

end Ledger

/-- Candidates refused at the end, `count` of them, are among the refusals. -/
theorem le_refusals_of_rejectsLast
    {origin : Bloom}
    {count : Nat}
    {draws : List (Except DrawFailure Identifier)}
    (rejects : origin.RejectsLast count (candidates draws)) :
    count ≤ refusals origin draws := by
  obtain ⟨enough, same⟩ := rejects
  -- the origin admits no more candidates than those before the last `count`
  have fewer := (origin.admitted_sublist
    ((candidates draws).take ((candidates draws).length - count))).length_le
  rw [same, List.length_take] at fewer
  unfold refusals
  omega

/-- A fill that ends without a crash, under a positive limit on the rejections in a row, made
some number of draws from its source, and either completed its batch, counting the candidates it
refused and the draws that failed, or gave up at its limit, after refusing at least that many
candidates and so at least one. -/
theorem run_counts
    (plan : FillPlan)
    (limitPositive : plan.maxConsecutiveRejections ≠ some 0)
    {filter : Bloom}
    {source : σ}
    {result : FillOutcome × Bloom × σ}
    (ended : plan.run {} filter source = some result)
    (noCrash : result.1 ≠ .crashed) :
    ∃ n, result.2.2 = plan.sourceAfter n source ∧
      ((∃ ids, result.1 = .filled ids (refusals filter (plan.drawsFrom n source))
          ((plan.drawsFrom n source).countP failed)) ∨
        ∃ limit, result.1 = .exhausted limit ∧ 0 < limit ∧
          limit ≤ refusals filter (plan.drawsFrom n source)) := by
  obtain ⟨n, sourceIs, going, final⟩ := run_ends ended
  refine ⟨n, sourceIs, ?_⟩
  rcases final with ⟨progress, replayed, -, filled⟩ | stopped
  · -- a completed batch carries the counts its ledger keeps
    have ledger := replay_ledger plan limitPositive filter _ replayed
    rw [filled, ledger.rejected_eq_refusals, ledger.failedDraws]
    exact .inl ⟨_, rfl⟩
  · -- a fill that stopped without a crash stopped at its limit
    obtain ⟨m, progress, held, rfl, replayed, -, ends⟩ := stopped_after_going going stopped
    have ledger := replay_ledger plan limitPositive filter _ replayed
    obtain ⟨-, -, crash | ⟨limit, limitIs, exhausted, rejects⟩⟩ := ledger.stop ends
    · exact absurd crash.2 noCrash
    · have positive : 0 < limit := Nat.pos_of_ne_zero fun zero => limitPositive (zero ▸ limitIs)
      rw [drawsFrom_succ]
      exact .inr ⟨limit, exhausted, positive, le_refusals_of_rejectsLast rejects⟩

end FillPlan

namespace Factory

variable {σ : Type} [RandomSource σ]

/-- A fill of a bucket that ends settles its outcome, with the filter and the source it left. -/
theorem fillBucket_of_run
    (f : Factory σ)
    (idx : Nat)
    {result : FillOutcome × Bloom × σ}
    (ended : f.config.fillPlan.run {} f.filter f.source = some result) :
    f.fillBucket idx =
      (true, ({ f with filter := result.2.1, source := result.2.2 } : Factory σ).settle idx
        result.1) := by
  have filled : f.config.fillPlan.fill f.filter f.source = result := by
    rw [FillPlan.fill, ended, Option.getD_some]
  rw [fillBucket_eq, filled]
  dsimp only
  split
  · rename_i stalled
    exact absurd stalled (FillPlan.run_ne_stalled ended)
  · rfl

theorem source_fillBucket_of_run
    (f : Factory σ)
    (idx : Nat)
    {result : FillOutcome × Bloom × σ}
    (ended : f.config.fillPlan.run {} f.filter f.source = some result) :
    (f.fillBucket idx).2.source = result.2.2 := by
  rw [fillBucket_of_run f idx ended, source_settle]

/-- The counters after a fill of a bucket that ends are those its outcome settles on the
factory: they depend on neither the filter nor the source. -/
theorem counters_fillBucket_of_run
    (f : Factory σ)
    (idx : Nat)
    {result : FillOutcome × Bloom × σ}
    (ended : f.config.fillPlan.run {} f.filter f.source = some result) :
    (f.fillBucket idx).2.counters = (f.settle idx result.1).counters := by
  rw [fillBucket_of_run f idx ended]
  cases result.1 <;> rfl

/-- For every fill of a bucket that ends without a crash, under a positive limit on the rejections
in a row: the fill made some number of draws from the factory's source, and either it completed,
counting no abort, and the counters of rejected candidates and of failed draws grew by the
candidates the filter refused and the draws that failed; or it gave up, counting one abort, and
both counters stayed as they were although it had refused at least one candidate. So the two
counters grow by what the fill's draws lost exactly when the fill does not abort. -/
theorem fillBucket_counts_only_completed_fills
    (f : Factory σ)
    (idx : Nat)
    (limitPositive : f.config.maxConsecutiveRejections ≠ some 0)
    (finished : (f.config.fillPlan.fill f.filter f.source).1 ≠ .stalled)
    (noCrash : (f.config.fillPlan.fill f.filter f.source).1 ≠ .crashed) :
    let plan := f.config.fillPlan
    let after := (f.fillBucket idx).2.counters
    ∃ n, (f.fillBucket idx).2.source = plan.sourceAfter n f.source ∧
      let refused := FillPlan.refusals f.filter (plan.drawsFrom n f.source)
      let failures := (plan.drawsFrom n f.source).countP FillPlan.failed
      ((after.fillsAborted = f.counters.fillsAborted ∧
          after.candidatesRejected = f.counters.candidatesRejected + refused ∧
          after.generationErrors = f.counters.generationErrors + failures) ∨
        (after.fillsAborted = f.counters.fillsAborted + 1 ∧
          after.candidatesRejected = f.counters.candidatesRejected ∧
          after.generationErrors = f.counters.generationErrors ∧ 0 < refused)) ∧
      ((after.candidatesRejected = f.counters.candidatesRejected + refused ∧
          after.generationErrors = f.counters.generationErrors + failures) ↔
        after.fillsAborted = f.counters.fillsAborted) := by
  intro plan
  have ended : plan.run {} f.filter f.source = some (plan.fill f.filter f.source) :=
    FillPlan.run_of_fill rfl finished
  obtain ⟨n, sourceIs, counts⟩ := FillPlan.run_counts plan limitPositive ended noCrash
  refine ⟨n, (source_fillBucket_of_run f idx ended).trans sourceIs, ?_⟩
  dsimp only
  rw [counters_fillBucket_of_run f idx ended]
  rcases counts with ⟨ids, filled⟩ | ⟨limit, exhausted, positive, atLeast⟩
  · -- a completed batch adds what its draws lost, and counts no abort
    obtain ⟨rejectedIs, failedIs, abortedIs⟩ := counters_settle_filled f idx ids _ _
    rw [filled]
    exact ⟨.inl ⟨abortedIs, rejectedIs, failedIs⟩, by omega⟩
  · -- a fill that gave up counts only as aborted, though it refused at least one candidate
    rw [counters_settle_of_aborted f idx (.inr ⟨limit, exhausted⟩)]
    dsimp only
    exact ⟨.inr ⟨rfl, rfl, rfl, by omega⟩, by omega⟩

end Factory

/-! ## A fill that gives up -/

/-- A configuration whose keyspace holds four identifiers: two symbols, `a` and `b`, to an
identifier, one bucket of three, and a fill that gives up at its first rejection. -/
def tinyKeyspace : FactoryConfig :=
  { idLength := 2, bucketCount := 1, bucketCapacity := 3, filterCapacity := 2,
    filterErrorRate := 0.0001, refillIntervalMs := 20, maxConsecutiveRejections := some 1,
    alphabet := Alphabet.ab }

/-- A source that fails its first request and answers the next two with the bytes `0, 1`
repeated, which spell `ab` over `a` and `b`. -/
def failThenRepeat : ScriptedSource :=
  { script := [.failure, .pattern [0, 1], .pattern [0, 1]], fallback := .counter 0 }

namespace FillPlan

theorem draw?_failThenRepeat :
    Alphabet.ab.draw? 2 failThenRepeat =
      some (⟨.error (.failed scriptedFailureReason), 1⟩,
        { script := [.pattern [0, 1], .pattern [0, 1]], fallback := .counter 0, calls := 1 }) :=
  Alphabet.drawLoop_failed _ _ _ [] 0 _ (by decide) rfl

/-- A scripted answer of the bytes `0, 1` repeated spells `ab` in one request. -/
theorem draw?_pattern_ab (rest : List ScriptEntry) (calls : Nat) :
    Alphabet.ab.draw? 2
        ({ script := .pattern [0, 1] :: rest, fallback := .counter 0, calls := calls } :
          ScriptedSource) =
      some (⟨.ok (Identifier.ofSymbols [97, 98]), 1⟩,
        { script := rest, fallback := .counter 0, calls := calls + 1 }) := by
  have answered : ∀ k (h : k < [[(0 : UInt8), 1, 0, 1, 0, 1, 0, 1]].length),
      RandomSource.answer (bufferSize 2) k
          ({ script := .pattern [0, 1] :: rest, fallback := .counter 0, calls := calls } :
            ScriptedSource) =
        .ok [[(0 : UInt8), 1, 0, 1, 0, 1, 0, 1]][k] := by
    intro k inBuffers
    obtain rfl : k = 0 := Nat.lt_one_iff.mp inBuffers
    rfl
  have drawn := Alphabet.draw?_of_enough Alphabet.ab 2 _ _ answered (by decide +kernel)
    (by decide +kernel)
  have spelled : ([[(0 : UInt8), 1, 0, 1, 0, 1, 0, 1]].flatMap
      Alphabet.ab.symbolsOf).take 2 = [97, 98] := by
    decide +kernel
  rw [spelled] at drawn
  exact drawn

/-- The plan of the small keyspace, into a fresh filter, from the source that fails once: a
failed draw, `ab` accepted, `ab` refused, and the fill gives up at its limit of one. -/
theorem fill_failThenRepeat (hash : List UInt8 → Lanes) (params : FilterParams) :
    tinyKeyspace.fillPlan.fill (Bloom.withParams hash params) failThenRepeat =
      (.exhausted 1, (Bloom.withParams hash params).insert (Identifier.ofSymbols [97, 98]).bytes,
        { script := [], fallback := .counter 0, calls := 3 }) := by
  have fresh :
      (Bloom.withParams hash params).contains (Identifier.ofSymbols [97, 98]).bytes = false :=
    Bloom.contains_withParams _ _ _
  have held : ((Bloom.withParams hash params).insert (Identifier.ofSymbols [97, 98]).bytes).contains
      (Identifier.ofSymbols [97, 98]).bytes = true :=
    Bloom.contains_insert_self _ _
  have plan : tinyKeyspace.fillPlan = ⟨Alphabet.ab, 2, 3, some 1⟩ := rfl
  rw [plan, fill, run, if_neg (by decide), draw?_failThenRepeat]
  simp only [absorb]
  rw [run, if_neg (by decide), draw?_pattern_ab]
  simp only [absorb, Bloom.insertIfAbsent, fresh, Bool.false_eq_true, if_false, if_true]
  rw [run, if_neg (by decide), draw?_pattern_ab]
  simp only [absorb, Bloom.insertIfAbsent, held, if_true]
  rfl

theorem drawsFrom_failThenRepeat :
    tinyKeyspace.fillPlan.drawsFrom 3 failThenRepeat =
      [.error (.failed scriptedFailureReason), .ok (Identifier.ofSymbols [97, 98]),
        .ok (Identifier.ofSymbols [97, 98])] := by
  have plan : tinyKeyspace.fillPlan = ⟨Alphabet.ab, 2, 3, some 1⟩ := rfl
  rw [plan, drawsFrom, Alphabet.draw, draw?_failThenRepeat, Option.getD_some, drawsFrom,
    Alphabet.draw, draw?_pattern_ab, Option.getD_some, drawsFrom, Alphabet.draw, draw?_pattern_ab,
    Option.getD_some]
  rfl

end FillPlan

/-- The law at the fill of the small keyspace that gives up. -/
theorem fillBucket_counts_only_completed_fills_saturated :
    let f := Factory.build keyHash tinyKeyspace failThenRepeat
    let plan := f.config.fillPlan
    let after := (f.fillBucket 0).2.counters
    f.config.maxConsecutiveRejections ≠ some 0 ∧
    (plan.fill f.filter f.source).1 ≠ .stalled ∧
    (plan.fill f.filter f.source).1 ≠ .crashed ∧
    ∃ n, (f.fillBucket 0).2.source = plan.sourceAfter n f.source ∧
      let refused := FillPlan.refusals f.filter (plan.drawsFrom n f.source)
      let failures := (plan.drawsFrom n f.source).countP FillPlan.failed
      ((after.fillsAborted = f.counters.fillsAborted ∧
          after.candidatesRejected = f.counters.candidatesRejected + refused ∧
          after.generationErrors = f.counters.generationErrors + failures) ∨
        (after.fillsAborted = f.counters.fillsAborted + 1 ∧
          after.candidatesRejected = f.counters.candidatesRejected ∧
          after.generationErrors = f.counters.generationErrors ∧ 0 < refused)) ∧
      ((after.candidatesRejected = f.counters.candidatesRejected + refused ∧
          after.generationErrors = f.counters.generationErrors + failures) ↔
        after.fillsAborted = f.counters.fillsAborted) := by
  intro f plan after
  have gaveUp : (plan.fill f.filter f.source).1 = .exhausted 1 :=
    congrArg Prod.fst (FillPlan.fill_failThenRepeat _ _)
  have notStalled : (plan.fill f.filter f.source).1 ≠ .stalled := by
    rw [gaveUp]
    exact fun same => FillOutcome.noConfusion same
  have notCrashed : (plan.fill f.filter f.source).1 ≠ .crashed := by
    rw [gaveUp]
    exact fun same => FillOutcome.noConfusion same
  exact ⟨by decide, notStalled, notCrashed,
    Factory.fillBucket_counts_only_completed_fills f 0 (by decide) notStalled notCrashed⟩

/-- The first fill of the small keyspace from the source that fails once: it draws three times,
losing one draw to the source and refusing one candidate, and gives up; the factory counts one
aborted fill, no rejected candidate and no failed draw. -/
theorem saturated_fill_loses_its_counts :
    let f := Factory.build keyHash tinyKeyspace failThenRepeat
    let draws := f.config.fillPlan.drawsFrom 3 f.source
    (f.fillBucket 0).2.source = { script := [], fallback := .counter 0, calls := 3 } ∧
      FillPlan.refusals f.filter draws = 1 ∧ draws.countP FillPlan.failed = 1 ∧
      (f.fillBucket 0).2.counters = { fillsAborted := 1 } := by
  intro f draws
  have ended : f.config.fillPlan.run {} f.filter f.source =
      some (.exhausted 1, f.filter.insert (Identifier.ofSymbols [97, 98]).bytes,
        { script := [], fallback := .counter 0, calls := 3 }) :=
    FillPlan.run_of_fill (FillPlan.fill_failThenRepeat _ _) fun same => FillOutcome.noConfusion same
  have fresh : f.filter.contains (Identifier.ofSymbols [97, 98]).bytes = false :=
    Bloom.contains_withParams _ _ _
  have held : (f.filter.insert (Identifier.ofSymbols [97, 98]).bytes).contains
      (Identifier.ofSymbols [97, 98]).bytes = true :=
    Bloom.contains_insert_self _ _
  refine ⟨Factory.source_fillBucket_of_run f 0 ended, ?_, ?_, ?_⟩
  · -- `ab` is admitted once and refused once
    have offered : FillPlan.candidates draws =
        [Identifier.ofSymbols [97, 98], Identifier.ofSymbols [97, 98]] := by
      rw [show draws = _ from FillPlan.drawsFrom_failThenRepeat]
      rfl
    rw [FillPlan.refusals, offered]
    simp [Bloom.admitted, fresh, held]
  · rw [show draws = _ from FillPlan.drawsFrom_failThenRepeat]
    rfl
  · rw [Factory.counters_fillBucket_of_run f 0 ended,
      Factory.counters_settle_of_aborted f 0 (.inr ⟨1, rfl⟩)]
    rfl

end IdFactory
