import IdFactory.Symbol.Identifier

namespace IdFactory

/-!
# The bucket pool

A pool is a fixed row of buckets and a batch size. A bucket is empty,
busy (a fill is under way) or full (it holds a batch). The only moves are
empty to busy when a fill is dispatched, busy to full when a fill delivers
a batch of exactly the batch size, and full to empty when a batch is taken;
taking picks the full bucket of lowest index. Every other request is
refused and changes nothing.
-/

/-- The state of one bucket. -/
inductive Bucket where
  | empty
  | busy
  | full (ids : List Identifier)
  deriving Repr, DecidableEq

/-- The three states a bucket can be in, without contents. -/
inductive BucketStatus where
  | empty
  | busy
  | full
  deriving Repr, DecidableEq

/-- The status of a bucket. -/
def Bucket.status : Bucket → BucketStatus
  | .empty => .empty
  | .busy => .busy
  | .full _ => .full

/-- The name of a status. -/
def BucketStatus.name : BucketStatus → String
  | .empty => "empty"
  | .busy => "busy"
  | .full => "full"

/-- How many buckets are in each state. -/
structure PoolCounts where
  empty : Nat
  busy : Nat
  full : Nat
  deriving Repr, DecidableEq

/-- A row of buckets sharing one batch size. -/
structure Pool where
  buckets : Array Bucket
  capacity : Nat
  deriving Repr

namespace Pool

/-- A pool of `count` empty buckets, each for batches of `capacity` identifiers. -/
def new (count capacity : Nat) : Pool :=
  ⟨Array.replicate count .empty, capacity⟩

/-- The number of buckets. -/
def bucketCount (p : Pool) : Nat :=
  p.buckets.size

/-- The status of a bucket, if the index names one. -/
def status? (p : Pool) (idx : Nat) : Option BucketStatus :=
  p.buckets[idx]?.map Bucket.status

/-- The indices of the empty buckets, in ascending order. -/
def listEmpty (p : Pool) : List Nat :=
  (List.range p.buckets.size).filter fun idx => p.status? idx == some .empty

/-- Move an empty bucket to busy; whether it moved. -/
def markBusy (p : Pool) (idx : Nat) : Bool × Pool :=
  if p.status? idx == some .empty then (true, { p with buckets := p.buckets.set! idx .busy })
  else (false, p)

/-- Hand a batch to a busy bucket, which becomes full; refused for a batch of the wrong size
or a bucket that is not busy. -/
def markFull (p : Pool) (idx : Nat) (ids : List Identifier) : Bool × Pool :=
  if ids.length ≠ p.capacity then (false, p)
  else if p.status? idx == some .busy then (true, { p with buckets := p.buckets.set! idx (.full ids) })
  else (false, p)

/-- The batch of a full bucket, if it is one. -/
def Bucket.batch? : Bucket → Option (List Identifier)
  | .full ids => some ids
  | _ => none

/-- Take the batch of the full bucket of lowest index, which becomes empty. -/
def pop (p : Pool) : Option (List Identifier) × Pool :=
  match p.buckets.findIdx? fun b => b.status == .full with
  | none => (none, p)
  | some idx =>
    ((p.buckets[idx]?.bind Bucket.batch?), { p with buckets := p.buckets.set! idx .empty })

@[simp]
theorem bucketCount_markBusy (p : Pool) (idx : Nat) : (p.markBusy idx).2.bucketCount = p.bucketCount := by
  unfold markBusy bucketCount
  split <;> simp

@[simp]
theorem capacity_markBusy (p : Pool) (idx : Nat) : (p.markBusy idx).2.capacity = p.capacity := by
  unfold markBusy
  split <;> rfl

/-- A bucket moves to busy exactly when it is empty. -/
theorem markBusy_fst (p : Pool) (idx : Nat) : (p.markBusy idx).1 = (p.status? idx == some .empty) := by
  unfold markBusy
  split <;> simp_all

/-- After a move to busy the bucket is busy, and every other bucket is as it was. -/
theorem status?_markBusy (p : Pool) (idx j : Nat) :
    (p.markBusy idx).2.status? j =
      if (p.markBusy idx).1 ∧ j = idx then some .busy else p.status? j := by
  unfold markBusy status?
  split
  · rename_i h
    simp only [Array.set!_eq_setIfInBounds, Array.getElem?_setIfInBounds, true_and]
    by_cases hj : j = idx
    · subst hj
      have : j < p.buckets.size := by
        cases hb : p.buckets[j]? with
        | none => simp [hb] at h
        | some _ => exact (Array.getElem?_eq_some_iff.mp hb).1
      simp [this, Bucket.status]
    · simp [hj, Ne.symm hj]
  · simp

@[simp]
theorem bucketCount_markFull (p : Pool) (idx : Nat) (ids : List Identifier) :
    (p.markFull idx ids).2.bucketCount = p.bucketCount := by
  unfold markFull bucketCount
  split
  · rfl
  · split <;> simp

@[simp]
theorem capacity_markFull (p : Pool) (idx : Nat) (ids : List Identifier) :
    (p.markFull idx ids).2.capacity = p.capacity := by
  unfold markFull
  split
  · rfl
  · split <;> rfl

/-- A batch is delivered exactly when it has the batch size and its bucket is busy. -/
theorem markFull_fst (p : Pool) (idx : Nat) (ids : List Identifier) :
    (p.markFull idx ids).1 = (ids.length == p.capacity && p.status? idx == some .busy) := by
  unfold markFull
  by_cases h : ids.length = p.capacity
  · simp only [h, ne_eq, not_true_eq_false, if_false, beq_self_eq_true, Bool.true_and]
    split <;> simp_all
  · simp [h]

@[simp]
theorem bucketCount_pop (p : Pool) : p.pop.2.bucketCount = p.bucketCount := by
  unfold pop bucketCount
  split <;> simp

@[simp]
theorem capacity_pop (p : Pool) : p.pop.2.capacity = p.capacity := by
  unfold pop
  split <;> rfl

/-- The batches of the full buckets, in ascending order of index. -/
def batches (p : Pool) : List (List Identifier) :=
  p.buckets.toList.filterMap Bucket.batch?

/-- How many buckets are in each state. -/
def counts (p : Pool) : PoolCounts :=
  p.buckets.foldl (fun c b =>
    match b with
    | .empty => { c with empty := c.empty + 1 }
    | .busy => { c with busy := c.busy + 1 }
    | .full _ => { c with full := c.full + 1 }) ⟨0, 0, 0⟩

/-- A call on a pool. -/
inductive Call where
  | listEmpty
  | markBusy (idx : Nat)
  | markFull (idx : Nat) (ids : List Identifier)
  | pop
  | status (idx : Nat)
  | stats

/-- What a call answers. -/
inductive Answer where
  | indices (idxs : List Nat)
  | moved (done : Bool)
  | batch (ids : Option (List Identifier))
  | state (status : Option BucketStatus)
  | tally (counts : PoolCounts)

/-- Make one call: its answer and the pool after it. -/
def perform (p : Pool) : Call → Answer × Pool
  | .listEmpty => (.indices p.listEmpty, p)
  | .markBusy idx =>
    let (done, p') := p.markBusy idx
    (.moved done, p')
  | .markFull idx ids =>
    let (done, p') := p.markFull idx ids
    (.moved done, p')
  | .pop =>
    let (ids, p') := p.pop
    (.batch ids, p')
  | .status idx => (.state (p.status? idx), p)
  | .stats => (.tally p.counts, p)

/-- Make calls one after the other: the answer of each, in order, and the pool after them. -/
def replay (p : Pool) : List Call → List Answer × Pool
  | [] => ([], p)
  | call :: rest =>
    let (answer, p') := p.perform call
    let (answers, p'') := p'.replay rest
    (answer :: answers, p'')

/-! ## Buckets by status -/

/-- The number of buckets with a status. -/
def tally (p : Pool) (status : BucketStatus) : Nat :=
  p.buckets.toList.countP fun b => b.status == status

/-- Counting bucket by bucket adds the tallies of the buckets counted to the counts so far. -/
theorem foldl_tally
    (count : PoolCounts → Bucket → PoolCounts)
    (countEmpty : ∀ c, count c .empty = { c with empty := c.empty + 1 })
    (countBusy : ∀ c, count c .busy = { c with busy := c.busy + 1 })
    (countFull : ∀ c ids, count c (.full ids) = { c with full := c.full + 1 })
    (buckets : List Bucket)
    (start : PoolCounts) :
    buckets.foldl count start =
      ⟨start.empty + buckets.countP (·.status == .empty),
        start.busy + buckets.countP (·.status == .busy),
        start.full + buckets.countP (·.status == .full)⟩ := by
  induction buckets generalizing start with
  | nil => simp
  | cons bucket rest inductionHypothesis =>
      cases bucket <;>
        simp [countEmpty, countBusy, countFull, inductionHypothesis, Bucket.status] <;> omega

/-- The bucket counts are the tallies of the three statuses. -/
theorem counts_eq (p : Pool) : p.counts = ⟨p.tally .empty, p.tally .busy, p.tally .full⟩ := by
  rw [counts, ← Array.foldl_toList, foldl_tally _ (fun _ => rfl) (fun _ => rfl) (fun _ _ => rfl)]
  simp [tally]

theorem countP_status_add (buckets : List Bucket) :
    buckets.countP (·.status == .empty) + buckets.countP (·.status == .busy) +
      buckets.countP (·.status == .full) = buckets.length := by
  induction buckets with
  | nil => rfl
  | cons bucket rest inductionHypothesis =>
      cases bucket <;> simp [Bucket.status] at inductionHypothesis ⊢ <;> omega

/-- Every bucket has one of the three statuses. -/
theorem tally_add (p : Pool) :
    p.tally .empty + p.tally .busy + p.tally .full = p.bucketCount := by
  rw [bucketCount, ← Array.length_toList]
  exact countP_status_add p.buckets.toList

/-- Replacing one bucket moves one unit of tally from its old status to its new one. -/
theorem tally_set
    (p : Pool)
    {idx : Nat}
    {old : Bucket}
    (at_idx : p.buckets[idx]? = some old)
    (new : Bucket)
    (status : BucketStatus) :
    ({ p with buckets := p.buckets.set! idx new }).tally status +
        (if old.status = status then 1 else 0) =
      p.tally status + (if new.status = status then 1 else 0) := by
  obtain ⟨inBounds, oldIs⟩ := Array.getElem?_eq_some_iff.mp at_idx
  have inList : idx < p.buckets.toList.length := by simpa using inBounds
  have atList : p.buckets.toList[idx] = old := by simpa using oldIs
  have counted : (if (old.status == status) = true then 1 else 0) ≤ p.tally status := by
    split
    · rename_i holds
      exact List.countP_pos_iff.mpr ⟨old, atList ▸ List.getElem_mem inList, holds⟩
    · exact Nat.zero_le _
  unfold tally at counted ⊢
  simp only [Array.set!_eq_setIfInBounds, Array.toList_setIfInBounds]
  rw [List.countP_set inList, atList]
  by_cases sameOld : old.status = status <;> by_cases sameNew : new.status = status <;>
    simp_all

theorem status?_markFull (p : Pool) (idx : Nat) (ids : List Identifier) (j : Nat) :
    (p.markFull idx ids).2.status? j =
      if (p.markFull idx ids).1 ∧ j = idx then some .full else p.status? j := by
  unfold markFull status?
  split
  · simp
  · split
    · rename_i wasBusy
      simp only [Array.set!_eq_setIfInBounds, Array.getElem?_setIfInBounds, true_and]
      by_cases same : j = idx
      · subst same
        have inBounds : j < p.buckets.size := by
          cases at_j : p.buckets[j]? with
          | none => simp [at_j] at wasBusy
          | some _ => exact (Array.getElem?_eq_some_iff.mp at_j).1
        simp [inBounds, Bucket.status]
      · simp [same, Ne.symm same]
    · simp
/-- A delivery never touches an empty bucket. -/
theorem status?_markFull_of_empty (p : Pool) (idx : Nat) (ids : List Identifier) {j : Nat}
    (empty : p.status? j = some .empty) :
    (p.markFull idx ids).2.status? j = some .empty := by
  rw [status?_markFull]
  split
  · rename_i delivered
    obtain ⟨accepted, rfl⟩ := delivered
    simp [markFull_fst, empty] at accepted
  · exact empty

/-- A move to busy takes one bucket from empty to busy. -/
theorem tally_markBusy (p : Pool) (idx : Nat) (status : BucketStatus) :
    (p.markBusy idx).2.tally status + (if (p.markBusy idx).1 ∧ status = .empty then 1 else 0) =
      p.tally status + (if (p.markBusy idx).1 ∧ status = .busy then 1 else 0) := by
  unfold markBusy
  split
  · rename_i wasEmpty
    unfold status? at wasEmpty
    cases at_idx : p.buckets[idx]? with
    | none => simp [at_idx] at wasEmpty
    | some old =>
        simp only [at_idx, Option.map_some, beq_iff_eq, Option.some.injEq] at wasEmpty
        have moved := tally_set p at_idx .busy status
        rw [wasEmpty] at moved
        simp only [Bucket.status] at moved
        simpa [eq_comm] using moved
  · simp

/-- A delivered batch takes one bucket from busy to full. -/
theorem tally_markFull (p : Pool) (idx : Nat) (ids : List Identifier) (status : BucketStatus) :
    (p.markFull idx ids).2.tally status +
        (if (p.markFull idx ids).1 ∧ status = .busy then 1 else 0) =
      p.tally status + (if (p.markFull idx ids).1 ∧ status = .full then 1 else 0) := by
  unfold markFull
  split
  · simp
  · split
    · rename_i wasBusy
      unfold status? at wasBusy
      cases at_idx : p.buckets[idx]? with
      | none => simp [at_idx] at wasBusy
      | some old =>
          simp only [at_idx, Option.map_some, beq_iff_eq, Option.some.injEq] at wasBusy
          have moved := tally_set p at_idx (.full ids) status
          rw [wasBusy] at moved
          simp only [Bucket.status] at moved
          simpa [eq_comm] using moved
    · simp

/-- Taking a batch takes one bucket from full to empty, when there is one. -/
theorem tally_pop (p : Pool) (status : BucketStatus) :
    p.pop.2.tally status + (if p.pop.1.isSome ∧ status = .full then 1 else 0) =
      p.tally status + (if p.pop.1.isSome ∧ status = .empty then 1 else 0) := by
  unfold pop
  split
  · simp
  · rename_i idx firstFull
    obtain ⟨inBounds, isFull, -⟩ := Array.findIdx?_eq_some_iff_getElem.mp firstFull
    have at_idx : p.buckets[idx]? = some p.buckets[idx] := by simp [inBounds]
    have moved := tally_set p at_idx .empty status
    cases holds : p.buckets[idx] with
    | empty => simp [holds, Bucket.status] at isFull
    | busy => simp [holds, Bucket.status] at isFull
    | full ids =>
        rw [holds] at moved at_idx
        simp only [Bucket.status] at moved
        simpa [at_idx, Bucket.batch?, eq_comm] using moved

/-- Taking a batch leaves every bucket that is not full as it was. -/
theorem status?_pop (p : Pool) {j : Nat} (notFull : p.status? j ≠ some .full) :
    p.pop.2.status? j = p.status? j := by
  unfold pop
  split
  · rfl
  · rename_i idx firstFull
    obtain ⟨inBounds, isFull, -⟩ := Array.findIdx?_eq_some_iff_getElem.mp firstFull
    have other : j ≠ idx := by
      rintro rfl
      apply notFull
      simp only [status?, inBounds, getElem?_pos, Option.map_some]
      simpa using isFull
    unfold status?
    simp [Array.set!_eq_setIfInBounds, Ne.symm other]

/-- An index with a status names a bucket. -/
theorem lt_bucketCount_of_status? {p : Pool} {j : Nat} {status : BucketStatus}
    (hasStatus : p.status? j = some status) : j < p.bucketCount := by
  unfold status? at hasStatus
  cases at_j : p.buckets[j]? with
  | none => simp [at_j] at hasStatus
  | some _ => exact (Array.getElem?_eq_some_iff.mp at_j).1

end Pool

end IdFactory
