import IdFactory.Factory.Basic
import IdFactory.Symbol.Sampling

namespace IdFactory

open IdFactory.Random IdFactory.Filter

/-!
# Filling buckets

A fill draws candidates until it has a batch. A failed draw is counted and
retried. A candidate the filter did not hold is added to it and accepted;
one it held is rejected, and after `limit` rejections in a row the fill
gives up with the keyspace exhausted. A crash of the source ends the fill
at once. Candidates accepted stay in the filter whatever the end of the
fill, since the filter is shared. A fill that never ends, because a draw
never ends or, with no limit, the filter holds every candidate, is recorded
as stalled: the filter and the source are left as they were before it, and
its bucket stays busy.

A tick of the running scheduler takes the empty buckets in ascending
order. It marks each one busy and hands it to the fill workers. A completed
fill adds its rejections and failed draws to the counters and makes its
bucket full. A fill that gives up or crashes only counts as aborted, and
its bucket stays busy, never to be dispatched again. A refill is one tick
followed by serving every queued request. The queues of stopped schedulers
are served first, then the running workers in index order, each queue
oldest first. With one worker, the buckets are filled in ascending order.
-/

/-- How a fill ended. -/
inductive FillOutcome where
  | filled (ids : List Identifier) (rejected failedDraws : Nat)
  | exhausted (attempts : Nat)
  | crashed
  /-- The fill never ends: a draw never ends, or the batch is never complete. -/
  | stalled
  deriving Repr

/-- The progress of a fill: accepted identifiers (latest first) and its counts. -/
structure FillProgress where
  ids : List Identifier := []
  accepted : Nat := 0
  rejected : Nat := 0
  failedDraws : Nat := 0
  streak : Nat := 0

/-- What a fill needs to know: what to draw, how many, and when to give up. -/
structure FillPlan where
  alphabet : Alphabet
  length : Nat
  capacity : Nat
  maxConsecutiveRejections : Option Nat

/-- The plan of a configuration. -/
def FactoryConfig.fillPlan (c : FactoryConfig) : FillPlan :=
  ⟨c.alphabet, c.idLength, c.bucketCapacity, c.maxConsecutiveRejections⟩

namespace FillPlan

variable {σ : Type} [RandomSource σ]

/-- Where a fill stands after one draw: going on with its progress, or ended. -/
inductive FillStep where
  | next (progress : FillProgress)
  | stop (outcome : FillOutcome)

/-- What one draw does to a fill that is not yet complete: a failed draw is counted, a crash ends
the fill, a candidate the filter did not hold is accepted and added to it, and one it held is
rejected, ending the fill when the rejections in a row reach the limit. -/
def absorb (plan : FillPlan) (p : FillProgress) (draw : Except DrawFailure Identifier)
    (filter : Bloom) : FillStep × Bloom :=
  match draw with
  | .error .crashed => (.stop .crashed, filter)
  | .error (.failed _) => (.next { p with failedDraws := p.failedDraws + 1 }, filter)
  | .ok id =>
    let (fresh, filter) := filter.insertIfAbsent id.bytes
    if fresh then (.next { p with ids := id :: p.ids, accepted := p.accepted + 1, streak := 0 }, filter)
    else
      let p := { p with rejected := p.rejected + 1, streak := p.streak + 1 }
      match plan.maxConsecutiveRejections with
      | some limit => if limit ≤ p.streak then (.stop (.exhausted p.streak), filter) else (.next p, filter)
      | none => (.next p, filter)

/-- Draw candidates until the batch is complete or the fill ends; `none` when that never
happens. -/
def run (plan : FillPlan) (p : FillProgress) (filter : Bloom) (source : σ) :
    Option (FillOutcome × Bloom × σ) :=
  if plan.capacity ≤ p.accepted then some (.filled p.ids.reverse p.rejected p.failedDraws, filter, source)
  else
    match plan.alphabet.draw? plan.length source with
    | none => none
    | some (d, source) =>
      match plan.absorb p d.outcome filter with
      | (.next p, filter) => plan |>.run p filter source
      | (.stop outcome, filter) => some (outcome, filter, source)
partial_fixpoint

/-- Fill one batch against a filter from a source; a fill that never ends is `stalled`. -/
def fill (plan : FillPlan) (filter : Bloom) (source : σ) : FillOutcome × Bloom × σ :=
  (plan.run {} filter source).getD (.stalled, filter, source)

/-- What one offered candidate does: one the filter did not hold is accepted and its key
added; otherwise the filter and the accepted identifiers stay, and the fill goes on or ends
without a batch. -/
theorem absorb_cases
    (plan : FillPlan)
    (p : FillProgress)
    (draw : Except DrawFailure Identifier)
    (filter : Bloom) :
    (∃ id, draw = .ok id ∧ filter.contains id.bytes = false ∧
      plan.absorb p draw filter =
        (.next { p with ids := id :: p.ids, accepted := p.accepted + 1, streak := 0 },
          filter.insert id.bytes)) ∨
    ((∀ id, draw = .ok id → filter.contains id.bytes = true) ∧
      (plan.absorb p draw filter).2 = filter ∧
      ((∃ next, (plan.absorb p draw filter).1 = .next next ∧ next.ids = p.ids) ∨
        ∃ outcome, (plan.absorb p draw filter).1 = .stop outcome ∧
          (outcome = .crashed ∨ ∃ streak, outcome = .exhausted streak))) := by
  rcases draw with failure | id
  · have noCandidate : ∀ id, (Except.error failure : Except DrawFailure Identifier) = .ok id →
        filter.contains id.bytes = true := by
      intro id same
      cases same
    cases failure with
    | crashed =>
        exact .inr ⟨noCandidate, rfl, .inr ⟨.crashed, rfl, .inl rfl⟩⟩
    | failed reason =>
        exact .inr ⟨noCandidate, rfl, .inl ⟨_, rfl, rfl⟩⟩
  · cases present : filter.contains id.bytes with
    | false =>
        refine .inl ⟨id, rfl, present, ?_⟩
        simp [absorb, Bloom.insertIfAbsent, present]
    | true =>
        refine .inr ⟨fun _ same => by cases same; exact present, ?_⟩
        -- a rejection keeps the filter and the accepted identifiers, and may end the fill
        simp only [absorb, Bloom.insertIfAbsent_of_contains present, Bool.false_eq_true, if_false]
        split
        · -- a limit: the fill gives up once the rejections in a row reach it
          split
          · exact ⟨rfl, .inr ⟨_, rfl, .inr ⟨_, rfl⟩⟩⟩
          · exact ⟨rfl, .inl ⟨_, rfl, rfl⟩⟩
        · exact ⟨rfl, .inl ⟨_, rfl, rfl⟩⟩

/-- A fill that goes on after a draw holds one identifier more, the candidate it accepted, or
the identifiers it held. -/
theorem absorb_next
    (plan : FillPlan)
    (p : FillProgress)
    (draw : Except DrawFailure Identifier)
    (filter : Bloom)
    {next : FillProgress}
    (goesOn : (plan.absorb p draw filter).1 = .next next) :
    (∃ id, draw = .ok id ∧ next.ids = id :: p.ids ∧ next.accepted = p.accepted + 1) ∨
      (next.ids = p.ids ∧ next.accepted = p.accepted) := by
  rcases draw with failure | id
  · cases failure with
    | crashed => cases goesOn
    | failed reason =>
        cases goesOn
        exact .inr ⟨rfl, rfl⟩
  · cases present : filter.contains id.bytes with
    | false =>
        simp only [absorb, Bloom.insertIfAbsent, present] at goesOn
        cases goesOn
        exact .inl ⟨id, rfl, rfl, rfl⟩
    | true =>
        simp only [absorb, Bloom.insertIfAbsent_of_contains present, Bool.false_eq_true,
          if_false] at goesOn
        refine .inr ?_
        split at goesOn
        · split at goesOn
          · cases goesOn
          · cases goesOn
            exact ⟨rfl, rfl⟩
        · cases goesOn
          exact ⟨rfl, rfl⟩

/-- A draw after which the fill goes on counted a failure, accepted a candidate the filter did not
hold and added it, or rejected one it held with the rejections in a row still short of the
limit. -/
theorem absorb_eq_next
    {plan : FillPlan}
    {p next : FillProgress}
    {draw : Except DrawFailure Identifier}
    {filter filter' : Bloom}
    (goesOn : plan.absorb p draw filter = (.next next, filter')) :
    (∃ reason, draw = .error (.failed reason) ∧
        next = { p with failedDraws := p.failedDraws + 1 } ∧ filter' = filter) ∨
      (∃ id, draw = .ok id ∧ filter.contains id.bytes = false ∧
        next = { p with ids := id :: p.ids, accepted := p.accepted + 1, streak := 0 } ∧
        filter' = filter.insert id.bytes) ∨
      (∃ id, draw = .ok id ∧ filter.contains id.bytes = true ∧
        next = { p with rejected := p.rejected + 1, streak := p.streak + 1 } ∧ filter' = filter ∧
        ∀ limit, plan.maxConsecutiveRejections = some limit → p.streak + 1 < limit) := by
  rcases draw with failure | id
  · cases failure with
    | crashed => cases goesOn
    | failed reason =>
        cases goesOn
        exact .inl ⟨reason, rfl, rfl, rfl⟩
  · cases present : filter.contains id.bytes with
    | false =>
        simp only [absorb, Bloom.insertIfAbsent, present] at goesOn
        cases goesOn
        exact .inr (.inl ⟨id, rfl, present, rfl, rfl⟩)
    | true =>
        simp only [absorb, Bloom.insertIfAbsent_of_contains present, Bool.false_eq_true,
          if_false] at goesOn
        refine .inr (.inr ⟨id, rfl, present, ?_⟩)
        split at goesOn
        · rename_i limit limitIs
          split at goesOn
          · cases goesOn
          · rename_i short
            cases goesOn
            refine ⟨rfl, rfl, fun other otherIs => ?_⟩
            rw [limitIs, Option.some.injEq] at otherIs
            subst otherIs
            exact Nat.lt_of_not_le short
        · rename_i noLimit
          cases goesOn
          exact ⟨rfl, rfl, fun other otherIs => by simp [noLimit] at otherIs⟩

/-- A draw that ends the fill is a crash, or a rejection that brings the rejections in a row to
the limit; either leaves the filter as it was. -/
theorem absorb_eq_stop
    {plan : FillPlan}
    {p : FillProgress}
    {draw : Except DrawFailure Identifier}
    {filter filter' : Bloom}
    {outcome : FillOutcome}
    (ends : plan.absorb p draw filter = (.stop outcome, filter')) :
    (draw = .error .crashed ∧ outcome = .crashed ∧ filter' = filter) ∨
      (∃ id limit, draw = .ok id ∧ filter.contains id.bytes = true ∧
        plan.maxConsecutiveRejections = some limit ∧ limit ≤ p.streak + 1 ∧
        outcome = .exhausted (p.streak + 1) ∧ filter' = filter) := by
  rcases draw with failure | id
  · cases failure with
    | crashed =>
        cases ends
        exact .inl ⟨rfl, rfl, rfl⟩
    | failed reason => cases ends
  · cases present : filter.contains id.bytes with
    | false =>
        simp only [absorb, Bloom.insertIfAbsent, present] at ends
        cases ends
    | true =>
        simp only [absorb, Bloom.insertIfAbsent_of_contains present, Bool.false_eq_true,
          if_false] at ends
        split at ends
        · rename_i limit limitIs
          split at ends
          · rename_i reached
            cases ends
            exact .inr ⟨id, limit, rfl, present, limitIs, reached, rfl, rfl⟩
          · cases ends
        · cases ends

end FillPlan

namespace Factory

variable {σ : Type}

/-- Record how the fill of a dispatched bucket ended. A batch adds its rejections and failed
draws to the counters and is handed to its bucket, counted when the bucket takes it. A fill that
gave up or crashed counts as aborted. A stalled fill records nothing. -/
def settle (f : Factory σ) (idx : Nat) : FillOutcome → Factory σ
  | .filled ids rejected failedDraws =>
    let c := f.counters
    let c := { c with candidatesRejected := c.candidatesRejected + rejected,
                      generationErrors := c.generationErrors + failedDraws }
    let (delivered, pool) := f.pool.markFull idx ids
    let c := if delivered then { c with bucketsFilled := c.bucketsFilled + 1 } else c
    { f with pool := pool, counters := c }
  | .exhausted _ | .crashed => { f with counters := { f.counters with fillsAborted := f.counters.fillsAborted + 1 } }
  | .stalled => f

@[simp]
theorem config_settle (f : Factory σ) (idx : Nat) (outcome : FillOutcome) :
    (f.settle idx outcome).config = f.config := by
  cases outcome <;> rfl

@[simp]
theorem filter_settle (f : Factory σ) (idx : Nat) (outcome : FillOutcome) :
    (f.settle idx outcome).filter = f.filter := by
  cases outcome <;> rfl

theorem pool_settle_filled (f : Factory σ) (idx : Nat) (ids : List Identifier)
    (rejected failedDraws : Nat) :
    (f.settle idx (.filled ids rejected failedDraws)).pool = (f.pool.markFull idx ids).2 :=
  rfl

/-- A fill that gave up or crashed leaves the pool as it was. -/
theorem pool_settle_of_aborted (f : Factory σ) (idx : Nat) {outcome : FillOutcome}
    (aborted : outcome = .crashed ∨ ∃ streak, outcome = .exhausted streak) :
    (f.settle idx outcome).pool = f.pool := by
  rcases aborted with rfl | ⟨streak, rfl⟩ <;> rfl

/-- A fill that gave up or crashed only counts as aborted. -/
theorem counters_settle_of_aborted (f : Factory σ) (idx : Nat) {outcome : FillOutcome}
    (aborted : outcome = .crashed ∨ ∃ streak, outcome = .exhausted streak) :
    (f.settle idx outcome).counters =
      { f.counters with fillsAborted := f.counters.fillsAborted + 1 } := by
  rcases aborted with rfl | ⟨streak, rfl⟩ <;> rfl

/-- A batch adds its rejections and failed draws to the counters and counts no abort. -/
theorem counters_settle_filled (f : Factory σ) (idx : Nat) (ids : List Identifier)
    (rejected failedDraws : Nat) :
    (f.settle idx (.filled ids rejected failedDraws)).counters.candidatesRejected =
        f.counters.candidatesRejected + rejected ∧
      (f.settle idx (.filled ids rejected failedDraws)).counters.generationErrors =
        f.counters.generationErrors + failedDraws ∧
      (f.settle idx (.filled ids rejected failedDraws)).counters.fillsAborted =
        f.counters.fillsAborted := by
  simp only [settle]
  -- whether the bucket took the batch changes only the count of filled buckets
  split <;> simp

@[simp]
theorem source_settle (f : Factory σ) (idx : Nat) (outcome : FillOutcome) :
    (f.settle idx outcome).source = f.source := by
  cases outcome <;> rfl

@[simp]
theorem scheduler_settle (f : Factory σ) (idx : Nat) (outcome : FillOutcome) :
    (f.settle idx outcome).scheduler = f.scheduler := by
  cases outcome <;> rfl

/-- Settling a fill leaves every empty bucket empty. -/
theorem status?_settle_of_empty (f : Factory σ) (idx : Nat) (outcome : FillOutcome) {j : Nat}
    (empty : f.pool.status? j = some .empty) :
    (f.settle idx outcome).pool.status? j = some .empty := by
  cases outcome with
  | filled ids rejected failedDraws =>
      rw [pool_settle_filled]
      exact Pool.status?_markFull_of_empty _ _ _ empty
  | exhausted _ | crashed | stalled => exact empty

variable [RandomSource σ]

/-- Fill a dispatched bucket and record the outcome; `false` when the fill stalled. -/
def fillBucket (f : Factory σ) (idx : Nat) : Bool × Factory σ :=
  let (outcome, filter, source) := f.config.fillPlan.fill f.filter f.source
  let f := { f with filter := filter, source := source }
  match outcome with
  | .stalled => (false, f)
  | outcome => (true, f.settle idx outcome)

/-- A fill of a dispatched bucket, read through the parts of its result. -/
theorem fillBucket_eq (f : Factory σ) (idx : Nat) :
    f.fillBucket idx =
      let result := f.config.fillPlan.fill f.filter f.source
      let filled := { f with filter := result.2.1, source := result.2.2 }
      match result.1 with
      | .stalled => (false, filled)
      | outcome => (true, filled.settle idx outcome) := by
  unfold fillBucket
  rfl

@[simp]
theorem scheduler_fillBucket (f : Factory σ) (idx : Nat) :
    (f.fillBucket idx).2.scheduler = f.scheduler := by
  rw [fillBucket_eq]
  dsimp only
  split <;> simp

/-- Filling a bucket leaves every empty bucket empty. -/
theorem status?_fillBucket_of_empty (f : Factory σ) (idx : Nat) {j : Nat}
    (empty : f.pool.status? j = some .empty) :
    (f.fillBucket idx).2.pool.status? j = some .empty := by
  rw [fillBucket_eq]
  dsimp only
  split
  · exact empty
  · exact status?_settle_of_empty _ _ _ empty

/-- One tick of the running scheduler: every empty bucket, in ascending order, marked busy and
handed to the fill workers. The number handed out; none when no scheduler runs. -/
def tick (f : Factory σ) : Nat × Factory σ :=
  match f.scheduler with
  | none => (0, f)
  | some w =>
    let (count, pool, w) := f.pool.listEmpty.foldl (fun (acc : Nat × Pool × Workers) idx =>
      let (count, pool, w) := acc
      let (moved, pool) := pool.markBusy idx
      if moved then (count + 1, pool, w.send idx) else (count, pool, w)) (0, f.pool, w)
    (count, { f with pool := pool, scheduler := some w })

omit [RandomSource σ] in
/-- A tick of a factory that does not run hands out nothing and changes nothing. -/
theorem tick_of_not_running (f : Factory σ) (stopped : f.running = false) : f.tick = (0, f) := by
  unfold tick
  unfold running at stopped
  cases hs : f.scheduler with
  | none => rfl
  | some _ => simp [hs] at stopped

omit [RandomSource σ] in
@[simp]
theorem running_tick (f : Factory σ) : f.tick.2.running = f.running := by
  unfold tick running
  cases hs : f.scheduler <;> simp [hs]

/-- Fill buckets in order, stopping at a fill that stalls. -/
def fillAll (f : Factory σ) : List Nat → Bool × Factory σ
  | [] => (true, f)
  | idx :: rest =>
    let (done, f) := f.fillBucket idx
    if done then fillAll f rest else (false, f)

@[simp]
theorem scheduler_fillAll (f : Factory σ) (buckets : List Nat) :
    (f.fillAll buckets).2.scheduler = f.scheduler := by
  induction buckets generalizing f with
  | nil => rfl
  | cons idx rest inductionHypothesis =>
      rw [fillAll]
      dsimp only
      split
      · rw [inductionHypothesis, scheduler_fillBucket]
      · exact scheduler_fillBucket f idx

/-- Filling buckets leaves every empty bucket empty. -/
theorem status?_fillAll_of_empty (f : Factory σ) (buckets : List Nat) {j : Nat}
    (empty : f.pool.status? j = some .empty) :
    (f.fillAll buckets).2.pool.status? j = some .empty := by
  induction buckets generalizing f with
  | nil => exact empty
  | cons idx rest inductionHypothesis =>
      have filled := status?_fillBucket_of_empty f idx empty
      rw [fillAll]
      dsimp only
      split
      · exact inductionHypothesis _ filled
      · exact filled

/-- Serve every queued request; `false` when a fill did not end. -/
def drain (f : Factory σ) : Bool × Factory σ :=
  fillAll { f with retired := [], scheduler := f.scheduler.map Workers.clear } f.queued

@[simp]
theorem running_drain (f : Factory σ) : f.drain.2.running = f.running := by
  simp [drain, running]

/-- Serving the queued requests leaves every empty bucket empty. -/
theorem status?_drain_of_empty (f : Factory σ) {j : Nat} (empty : f.pool.status? j = some .empty) :
    f.drain.2.pool.status? j = some .empty :=
  status?_fillAll_of_empty _ _ empty

/-- One refill: a tick, then every queued request served. The number of buckets the tick
handed out, or `none` when a fill did not end. -/
def refill (f : Factory σ) : Option Nat × Factory σ :=
  let (count, f) := f.tick
  let (done, f) := f.drain
  (if done then some count else none, f)

end Factory

end IdFactory
