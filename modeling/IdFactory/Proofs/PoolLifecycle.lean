import Mathlib.Data.Set.Card
import IdFactory.Proofs.BatchConservation

namespace IdFactory.Pool

/-!
# The lifecycle of buckets

Every call on a pool is one of a few moves. A bucket goes from empty to
busy when `markBusy` claims it, from busy to full when `markFull` hands it
a batch of the batch size, and from full to empty when `pop` takes the
batch of the full bucket of lowest index. Each of these is refused exactly
when its guard fails, and a refused call changes nothing. The observers
change nothing and answer the truth: `listEmpty` gives the empty indices in
ascending order, `status?` the status, and `counts` the number of indices in
each status, which add up to the number of buckets.

`Moves` states these rules on their own, and `perform_moves` shows that
every call follows them, on any pool. On a pool made by `Pool.new`, a run
of calls also keeps the number of buckets and the batch size.
-/

/-- The moves of the bucket lifecycle: how a call may change a pool, and what it answers. -/
inductive Moves : Pool → Call → Answer → Pool → Prop
  | claim {p : Pool} {idx : Nat}
      (inRange : idx < p.bucketCount)
      (wasEmpty : p.status? idx = some .empty) :
      Moves p (.markBusy idx) (.moved true) { p with buckets := p.buckets.set! idx .busy }
  | refuseClaim {p : Pool} {idx : Nat}
      (notEmpty : ¬ (idx < p.bucketCount ∧ p.status? idx = some .empty)) :
      Moves p (.markBusy idx) (.moved false) p
  | deliver {p : Pool} {idx : Nat} {ids : List Identifier}
      (sized : ids.length = p.capacity)
      (inRange : idx < p.bucketCount)
      (wasBusy : p.status? idx = some .busy) :
      Moves p (.markFull idx ids) (.moved true) { p with buckets := p.buckets.set! idx (.full ids) }
  | refuseDelivery {p : Pool} {idx : Nat} {ids : List Identifier}
      (refused : ¬ (ids.length = p.capacity ∧ idx < p.bucketCount ∧ p.status? idx = some .busy)) :
      Moves p (.markFull idx ids) (.moved false) p
  | take {p : Pool} {idx : Nat} {ids : List Identifier}
      (holds : p.buckets[idx]? = some (.full ids))
      (lowest : ∀ j < idx, p.status? j ≠ some .full) :
      Moves p .pop (.batch (some ids)) { p with buckets := p.buckets.set! idx .empty }
  | findNone {p : Pool}
      (noneFull : ∀ j, p.status? j ≠ some .full) :
      Moves p .pop (.batch none) p
  | listEmpty {p : Pool} {idxs : List Nat}
      (ascending : idxs.Pairwise (· < ·))
      (exactly : ∀ j, j ∈ idxs ↔ p.status? j = some .empty) :
      Moves p .listEmpty (.indices idxs) p
  | status {p : Pool} {idx : Nat} :
      Moves p (.status idx) (.state (p.status? idx)) p
  | stats {p : Pool} {c : PoolCounts}
      (empty : c.empty = {j | p.status? j = some .empty}.ncard)
      (busy : c.busy = {j | p.status? j = some .busy}.ncard)
      (full : c.full = {j | p.status? j = some .full}.ncard)
      (total : c.empty + c.busy + c.full = p.bucketCount) :
      Moves p .stats (.tally c) p

/--
The status of bucket `j` changed as the lifecycle allows: `markBusy j`
claimed it, `markFull j` filled it, or `pop` emptied it as the full bucket
of lowest index.
-/
def Advances
    (p : Pool)
    (call : Call)
    (answer : Answer)
    (p' : Pool)
    (j : Nat) :
    Prop :=
  (call = .markBusy j ∧ answer = .moved true ∧
      p.status? j = some .empty ∧ p'.status? j = some .busy) ∨
    (∃ ids, call = .markFull j ids ∧ answer = .moved true ∧
      p.status? j = some .busy ∧ p'.status? j = some .full) ∨
    (call = .pop ∧ p.status? j = some .full ∧ p'.status? j = some .empty ∧
      ∀ i < j, p.status? i ≠ some .full)

/-! ## Replacing one bucket -/

theorem status?_set
    (p : Pool)
    (idx : Nat)
    (bucket : Bucket)
    (j : Nat) :
    ({ p with buckets := p.buckets.set! idx bucket } : Pool).status? j =
      if j = idx ∧ idx < p.bucketCount then some bucket.status else p.status? j := by
  unfold status? bucketCount
  rw [Array.set!_eq_setIfInBounds, Array.getElem?_setIfInBounds]
  by_cases same : j = idx
  · subst same
    by_cases inRange : j < p.buckets.size <;> simp [inRange]
  · simp [Ne.symm same, same]

/-- A bucket that gets a new status by a replacement is the one replaced. -/
theorem eq_of_status?_set_ne
    {p : Pool}
    {idx : Nat}
    {bucket : Bucket}
    {j : Nat}
    (changed : ({ p with buckets := p.buckets.set! idx bucket } : Pool).status? j ≠ p.status? j) :
    j = idx ∧ ({ p with buckets := p.buckets.set! idx bucket } : Pool).status? j =
      some bucket.status := by
  rw [status?_set] at changed ⊢
  by_cases replaced : j = idx ∧ idx < p.bucketCount
  · exact ⟨replaced.1, if_pos replaced⟩
  · exact absurd (if_neg replaced) changed

/-! ## What a move does -/

namespace Moves

variable {p p' : Pool} {call : Call} {answer : Answer}

/-- No move adds or removes a bucket. -/
theorem bucketCount_eq
    (moves : Moves p call answer p') :
    p'.bucketCount = p.bucketCount := by
  cases moves <;> simp [bucketCount]

/-- A status changes only along the lifecycle: empty to busy, busy to full, full to empty. -/
theorem advances
    (moves : Moves p call answer p')
    (j : Nat)
    (changed : p'.status? j ≠ p.status? j) :
    Advances p call answer p' j := by
  cases moves with
  | claim inRange wasEmpty =>
      obtain ⟨rfl, now⟩ := eq_of_status?_set_ne changed
      exact .inl ⟨rfl, rfl, wasEmpty, now⟩
  | deliver sized inRange wasBusy =>
      obtain ⟨rfl, now⟩ := eq_of_status?_set_ne changed
      exact .inr (.inl ⟨_, rfl, rfl, wasBusy, now⟩)
  | take holds lowest =>
      obtain ⟨rfl, now⟩ := eq_of_status?_set_ne changed
      have wasFull : p.status? j = some .full := by
        simp [status?, holds, Bucket.status]
      exact .inr (.inr ⟨rfl, wasFull, now, lowest⟩)
  | refuseClaim | refuseDelivery | findNone | listEmpty | status | stats =>
      exact absurd rfl changed

end Moves

/-! ## Every call is a move -/

theorem moves_markBusy
    (p : Pool)
    (idx : Nat) :
    Moves p (.markBusy idx) (.moved (p.markBusy idx).1) (p.markBusy idx).2 := by
  by_cases wasEmpty : p.status? idx = some .empty
  · have claimed : p.markBusy idx = (true, { p with buckets := p.buckets.set! idx .busy }) := by
      simp [markBusy, wasEmpty]
    rw [claimed]
    exact .claim (lt_bucketCount_of_status? wasEmpty) wasEmpty
  · have refused : p.markBusy idx = (false, p) := by
      simp [markBusy, wasEmpty]
    rw [refused]
    exact .refuseClaim fun ⟨_, empty⟩ => wasEmpty empty

theorem moves_markFull
    (p : Pool)
    (idx : Nat)
    (ids : List Identifier) :
    Moves p (.markFull idx ids) (.moved (p.markFull idx ids).1) (p.markFull idx ids).2 := by
  by_cases accepted : ids.length = p.capacity ∧ p.status? idx = some .busy
  · obtain ⟨sized, wasBusy⟩ := accepted
    have delivered :
        p.markFull idx ids = (true, { p with buckets := p.buckets.set! idx (.full ids) }) := by
      simp [markFull, sized, wasBusy]
    rw [delivered]
    exact .deliver sized (lt_bucketCount_of_status? wasBusy) wasBusy
  · have refused : p.markFull idx ids = (false, p) := by
      by_cases sized : ids.length = p.capacity
      · have notBusy : p.status? idx ≠ some .busy := fun busy => accepted ⟨sized, busy⟩
        simp [markFull, sized, notBusy]
      · simp [markFull, sized]
    rw [refused]
    exact .refuseDelivery fun ⟨sized, _, busy⟩ => accepted ⟨sized, busy⟩

theorem moves_pop
    (p : Pool) :
    Moves p .pop (.batch p.pop.1) p.pop.2 := by
  unfold pop
  split
  · rename_i noneFull
    refine .findNone fun j full => ?_
    obtain ⟨bucket, at_j, isFull⟩ := status?_eq_some full
    have notFull := Array.findIdx?_eq_none_iff.mp noneFull bucket (Array.mem_of_getElem? at_j)
    simp [isFull] at notFull
  · rename_i idx firstFull
    obtain ⟨inBounds, isFull, beforeNotFull⟩ := Array.findIdx?_eq_some_iff_getElem.mp firstFull
    -- the bucket found is full, so it holds a batch, and no bucket before it is full
    cases holds : p.buckets[idx] with
    | empty =>
        simp [holds, Bucket.status] at isFull
    | busy =>
        simp [holds, Bucket.status] at isFull
    | full ids =>
        have at_idx : p.buckets[idx]? = some (.full ids) := by
          simp [inBounds, holds]
        rw [at_idx]
        refine .take at_idx fun j below full => ?_
        obtain ⟨bucket, at_j, isFull⟩ := status?_eq_some full
        obtain ⟨jInBounds, bucketIs⟩ := Array.getElem?_eq_some_iff.mp at_j
        have notFull := beforeNotFull j below
        simp [bucketIs, isFull] at notFull

theorem moves_listEmpty
    (p : Pool) :
    Moves p .listEmpty (.indices p.listEmpty) p := by
  refine .listEmpty (List.pairwise_lt_range.filter _) fun j => ?_
  simp only [listEmpty, List.mem_filter, List.mem_range, beq_iff_eq]
  exact ⟨fun ⟨_, empty⟩ => empty, fun empty => ⟨lt_bucketCount_of_status? empty, empty⟩⟩

/-- Counting the positions of a list whose element has a property counts the elements that have it. -/
theorem countP_range_getElem?
    {α β : Type}
    [DecidableEq β]
    (items : List α)
    (view : α → β)
    (value : β) :
    (List.range items.length).countP (fun j => items[j]?.map view == some value) =
      items.countP (fun item => view item == value) := by
  induction items with
  | nil =>
      rfl
  | cons item rest inductionHypothesis =>
      rw [List.length_cons, List.range_succ_eq_map, List.countP_cons, List.countP_map,
        List.countP_cons, ← inductionHypothesis]
      simp [Function.comp_def]

/-- The tally of a status is the number of indices whose bucket has it. -/
theorem tally_eq_ncard
    (p : Pool)
    (status : BucketStatus) :
    p.tally status = {j | p.status? j = some status}.ncard := by
  have indices : {j | p.status? j = some status} =
      ↑((List.range p.bucketCount).filter fun j => p.status? j == some status).toFinset := by
    ext j
    simp only [Set.mem_ofPred_eq, List.coe_toFinset, List.mem_filter, List.mem_range, beq_iff_eq]
    exact ⟨fun has => ⟨lt_bucketCount_of_status? has, has⟩, fun ⟨_, has⟩ => has⟩
  rw [indices, Set.ncard_coe_finset, List.toFinset_card_of_nodup (List.nodup_range.filter _),
    ← List.countP_eq_length_filter, tally, bucketCount, ← Array.length_toList]
  simpa [status?] using (countP_range_getElem? p.buckets.toList Bucket.status status).symm

theorem moves_stats
    (p : Pool) :
    Moves p .stats (.tally p.counts) p := by
  rw [counts_eq]
  exact .stats (tally_eq_ncard p .empty) (tally_eq_ncard p .busy) (tally_eq_ncard p .full)
    (tally_add p)

/-- Every call on every pool is a move of the lifecycle. -/
theorem perform_moves
    (p : Pool)
    (call : Call) :
    Moves p call (p.perform call).1 (p.perform call).2 := by
  cases call with
  | listEmpty => exact moves_listEmpty p
  | markBusy idx => exact moves_markBusy p idx
  | markFull idx ids => exact moves_markFull p idx ids
  | pop => exact moves_pop p
  | status idx => exact .status
  | stats => exact moves_stats p

/-! ## Runs -/

/-- A run of calls keeps the number of buckets and the batch size. -/
theorem replay_keeps_shape
    (p : Pool)
    (calls : List Call) :
    (p.replay calls).2.bucketCount = p.bucketCount ∧ (p.replay calls).2.capacity = p.capacity := by
  induction calls generalizing p with
  | nil =>
      exact ⟨rfl, rfl⟩
  | cons call rest inductionHypothesis =>
      obtain ⟨sameCount, sameCapacity⟩ := inductionHypothesis (p.perform call).2
      rw [replay_cons]
      exact ⟨sameCount.trans (perform_moves p call).bucketCount_eq,
        sameCapacity.trans (capacity_perform p call)⟩

@[simp]
theorem bucketCount_new
    (count capacity : Nat) :
    (Pool.new count capacity).bucketCount = count := by
  simp [Pool.new, bucketCount]

/--
Over every run of calls on a pool of `count` buckets for batches of
`capacity` identifiers, the pool keeps `count` buckets and its batch size,
and the next call, whatever it is, is a move of the lifecycle: it claims
an empty bucket, hands a batch of `capacity` identifiers to a busy bucket,
takes the batch of the full bucket of lowest index, or else changes
nothing; its answer is true exactly when its guard holds; the observers
answer the empty indices in ascending order, the status, and the number of
indices in each status, `count` in all. A bucket's status changes only
from empty to busy, busy to full, or full to empty, by that very move.
-/
theorem replay_follows_lifecycle
    (count capacity : Nat)
    (calls : List Call)
    (call : Call) :
    let p := ((Pool.new count capacity).replay calls).2
    let answer := (p.perform call).1
    let p' := (p.perform call).2
    p.bucketCount = count ∧ p.capacity = capacity ∧ Moves p call answer p' ∧
      p'.bucketCount = count ∧ ∀ j, p'.status? j ≠ p.status? j → Advances p call answer p' j := by
  intro p answer p'
  obtain ⟨sameCount, sameCapacity⟩ := replay_keeps_shape (Pool.new count capacity) calls
  have moves : Moves p call answer p' := perform_moves p call
  have counted : p.bucketCount = count := sameCount.trans (bucketCount_new count capacity)
  exact ⟨counted, sameCapacity, moves, moves.bucketCount_eq.trans counted, moves.advances⟩

end IdFactory.Pool
