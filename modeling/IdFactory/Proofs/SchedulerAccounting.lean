import Mathlib.Data.List.Flatten
import Mathlib.Data.List.Perm.Subperm
import IdFactory.Factory.Scheduling
import IdFactory.Random.Scripted
import IdFactory.Filter.Murmur

namespace IdFactory.Scheduling

open IdFactory.Random IdFactory.Filter List

/-!
# Requests and counters of the refill scheduler

Over every run of a factory with its refill schedulers (starts and stops,
the snapshots, claims and hand-overs of refills, workers taking requests,
the steps of their fills, and allocations, in any interleaving):

* no bucket is taken on twice, a bucket being taken on from the moment a
  refill claims it until its fill ends, and every bucket taken on is busy;
  so a hand-over finds room in its channel and never waits, and a fill that
  holds a batch always hands it to a bucket that takes it;
* the statistics balance: each allocation is a served batch or a miss, the
  full buckets are those filled and not yet served, and the busy buckets are
  those taken on, and one for each aborted fill.

Both rest on one invariant of every state of a run (`Orderly`), kept by
every step. A step changes one scheduler, and within it one worker, so what
it does to the buckets taken on is read off that scheduler
(`perm_flatMap_set`). Four frame lemmas say what a step may do to the pool
and the counters: nothing, claim an empty bucket, abort a fill, or publish a
batch.
-/

/-! ## Lists of lists -/

/-- Replacing one element of a list changes a `flatMap` over it as it changes that element's
image. -/
theorem perm_flatMap_set
    {α β : Type}
    {items : List α}
    {i : Nat}
    {old : α}
    (at_i : items[i]? = some old)
    (new : α)
    (image : α → List β)
    (gained lost : List β)
    (changed : (image new ++ lost).Perm (image old ++ gained)) :
    ((items.set i new).flatMap image ++ lost).Perm (items.flatMap image ++ gained) := by
  obtain ⟨inBounds, oldIs⟩ := List.getElem?_eq_some_iff.mp at_i
  have replaced := (List.set_perm_cons_eraseIdx inBounds new).flatMap_right image
  have original := (List.getElem_cons_eraseIdx_perm inBounds).flatMap_right image
  rw [List.flatMap_cons] at replaced
  rw [List.flatMap_cons, oldIs] at original
  have swap : ∀ front back rest : List β,
      (front ++ rest ++ back).Perm (front ++ back ++ rest) := by
    intro front back rest
    simpa only [List.append_assoc] using List.perm_append_comm.append_left front
  calc ((items.set i new).flatMap image ++ lost).Perm
        (image new ++ (items.eraseIdx i).flatMap image ++ lost) := replaced.append_right lost
    _ ~ image new ++ lost ++ (items.eraseIdx i).flatMap image := swap _ _ _
    _ ~ image old ++ gained ++ (items.eraseIdx i).flatMap image := changed.append_right _
    _ ~ image old ++ (items.eraseIdx i).flatMap image ++ gained := (swap _ _ _).symm
    _ ~ items.flatMap image ++ gained := original.append_right gained

theorem sublist_flatMap_of_mem
    {α β : Type}
    {items : List α}
    {x : α}
    (member : x ∈ items)
    (f : α → List β) :
    f x <+ items.flatMap f := by
  rw [flatMap_def]
  exact sublist_flatten_of_mem (mem_map_of_mem member)

/-! ## Schedulers and workers replaced one at a time -/

/-- A scheduler fits a configuration: it has the configured number of workers, each channel has
room for one request per bucket and at least one, and each fill its workers run is counted
against the batch size. -/
structure Fits (config : FactoryConfig) (ticker : Ticker) : Prop where
  workers_length : ticker.workers.length = config.fillWorkers
  depth_eq : ticker.depth = max config.bucketCount 1
  counted : ∀ worker ∈ ticker.workers, ∀ fill, worker.fill = some fill →
    fill.Counted config.bucketCapacity

namespace Fits

variable {config : FactoryConfig} {ticker : Ticker}

/-- A scheduler with the same workers and channels fits as well. -/
theorem of_workers
    (fits : Fits config ticker)
    {new : Ticker}
    (workersSame : new.workers = ticker.workers)
    (depthSame : new.depth = ticker.depth) :
    Fits config new where
  workers_length := workersSame ▸ fits.workers_length
  depth_eq := depthSame ▸ fits.depth_eq
  counted := workersSame ▸ fits.counted

/-- Replacing a worker keeps a scheduler fitting when the new worker's fill is counted. -/
theorem set
    (fits : Fits config ticker)
    (w : Nat)
    (new : Worker)
    (counted : ∀ fill, new.fill = some fill → fill.Counted config.bucketCapacity) :
    Fits config { ticker with workers := ticker.workers.set w new } where
  workers_length := by simpa using fits.workers_length
  depth_eq := fits.depth_eq
  counted := by
    intro worker member fill running
    rcases List.mem_or_eq_of_mem_set member with old | replaced
    · exact fits.counted worker old fill running
    · exact counted fill (replaced ▸ running)

end Fits

theorem fits_set
    {config : FactoryConfig}
    {tickers : List Ticker}
    (fits : ∀ ticker ∈ tickers, Fits config ticker)
    (t : Nat)
    {new : Ticker}
    (newFits : Fits config new) :
    ∀ ticker ∈ tickers.set t new, Fits config ticker := by
  intro ticker member
  rcases List.mem_or_eq_of_mem_set member with old | replaced
  · exact fits ticker old
  · exact replaced ▸ newFits

variable {σ : Type}

/-- Replacing a worker of a scheduler changes the buckets taken on as it changes the worker's. -/
theorem outstanding_setWorker
    {s : State σ}
    {t w : Nat}
    {ticker : Ticker}
    {worker : Worker}
    (at_t : s.tickers[t]? = some ticker)
    (at_w : ticker.workers[w]? = some worker)
    (new : Worker)
    (gained lost : List Nat)
    (changed : (new.outstanding ++ lost).Perm (worker.outstanding ++ gained)) :
    ((s.tickers.set t { ticker with workers := ticker.workers.set w new }).flatMap
      Ticker.outstanding ++ lost).Perm (s.outstanding ++ gained) := by
  apply perm_flatMap_set at_t _ _ gained lost
  have workers := perm_flatMap_set at_w new Worker.outstanding gained lost changed
  simp only [Ticker.outstanding, List.append_assoc]
  exact workers.append_left _

/-! ## The invariant -/

/--
What holds of every state of a run of a factory for `config` in which
`allocations` consumers have allocated: the configuration and the pool's
shape stay, and every scheduler fits the configuration; no bucket is taken
on twice, and every bucket taken on is busy; each allocation is served or
counted as a miss; the full buckets are those filled and not yet served; and
the busy buckets are those taken on, and one for each aborted fill.
-/
structure Orderly (config : FactoryConfig) (allocations : Nat) (s : State σ) : Prop where
  config_eq : s.factory.config = config
  capacity_eq : s.factory.pool.capacity = config.bucketCapacity
  bucketCount_eq : s.factory.pool.bucketCount = config.bucketCount
  fits : ∀ ticker ∈ s.tickers, Fits config ticker
  nodup : s.outstanding.Nodup
  busy : ∀ idx ∈ s.outstanding, s.factory.pool.status? idx = some .busy
  allocated : s.factory.counters.batchesServed + s.factory.counters.poolExhausted = allocations
  filled : s.factory.pool.tally .full + s.factory.counters.batchesServed =
    s.factory.counters.bucketsFilled
  aborted : s.factory.pool.tally .busy = s.factory.counters.fillsAborted + s.outstanding.length

namespace Orderly

variable {config : FactoryConfig} {n : Nat} {s : State σ}

theorem initial (hash : List UInt8 → Lanes) (config : FactoryConfig) (source : σ) :
    Orderly config 0 (State.start (Factory.build hash config source)) where
  config_eq := rfl
  capacity_eq := rfl
  bucketCount_eq := by simp [State.start, Factory.build, Pool.new, Pool.bucketCount]
  fits := by simp [State.start]
  nodup := by simp [State.start, State.outstanding]
  busy := by simp [State.start, State.outstanding]
  allocated := rfl
  filled := by simp [State.start, Factory.build, Pool.new, Pool.tally, Bucket.status]
  aborted := by simp [State.start, Factory.build, Pool.new, Pool.tally, Bucket.status,
    State.outstanding]

/-- A step that keeps the configuration, the pool and the counters, and keeps the buckets taken
on, keeps a state orderly when every scheduler still fits. -/
theorem of_frame
    (orderly : Orderly config n s)
    {s' : State σ}
    (configKept : s'.factory.config = s.factory.config)
    (poolKept : s'.factory.pool = s.factory.pool)
    (countersKept : s'.factory.counters = s.factory.counters)
    (outstandingKept : s'.outstanding.Perm s.outstanding)
    (fits : ∀ ticker ∈ s'.tickers, Fits config ticker) :
    Orderly config n s' where
  config_eq := configKept.trans orderly.config_eq
  capacity_eq := poolKept ▸ orderly.capacity_eq
  bucketCount_eq := poolKept ▸ orderly.bucketCount_eq
  fits := fits
  nodup := outstandingKept.nodup_iff.mpr orderly.nodup
  busy := fun idx member => poolKept ▸ orderly.busy idx (outstandingKept.subset member)
  allocated := countersKept ▸ orderly.allocated
  filled := poolKept ▸ countersKept ▸ orderly.filled
  aborted := by
    rw [poolKept, countersKept, outstandingKept.length_eq]
    exact orderly.aborted

/-- A step that drops one bucket taken on and counts an aborted fill, with the pool as it was,
keeps a state orderly when every scheduler still fits. -/
theorem of_abort
    (orderly : Orderly config n s)
    {s' : State σ}
    {idx : Nat}
    (configKept : s'.factory.config = s.factory.config)
    (poolKept : s'.factory.pool = s.factory.pool)
    (countersIs : s'.factory.counters =
      { s.factory.counters with fillsAborted := s.factory.counters.fillsAborted + 1 })
    (dropped : (s'.outstanding ++ [idx]).Perm s.outstanding)
    (fits : ∀ ticker ∈ s'.tickers, Fits config ticker) :
    Orderly config n s' where
  config_eq := configKept.trans orderly.config_eq
  capacity_eq := poolKept ▸ orderly.capacity_eq
  bucketCount_eq := poolKept ▸ orderly.bucketCount_eq
  fits := fits
  nodup := (dropped.nodup_iff.mpr orderly.nodup).sublist (sublist_append_left _ _)
  busy := fun j member => poolKept ▸ orderly.busy j (dropped.subset (mem_append_left _ member))
  allocated := by
    rw [countersIs]
    exact orderly.allocated
  filled := by
    rw [poolKept, countersIs]
    exact orderly.filled
  aborted := by
    have lengths := dropped.length_eq
    rw [length_append, length_singleton] at lengths
    rw [poolKept, countersIs, orderly.aborted]
    dsimp only
    omega

/-- A step that moves an empty bucket to busy and takes it on, with the counters as they were,
keeps a state orderly when every scheduler still fits: the bucket was empty, so it was taken on
nowhere else. -/
theorem of_claim
    (orderly : Orderly config n s)
    {s' : State σ}
    {idx : Nat}
    (configKept : s'.factory.config = s.factory.config)
    (moved : (s.factory.pool.markBusy idx).1 = true)
    (poolIs : s'.factory.pool = (s.factory.pool.markBusy idx).2)
    (countersKept : s'.factory.counters = s.factory.counters)
    (added : s'.outstanding.Perm (s.outstanding ++ [idx]))
    (fits : ∀ ticker ∈ s'.tickers, Fits config ticker) :
    Orderly config n s' := by
  have wasEmpty : s.factory.pool.status? idx = some .empty := by
    simpa [Pool.markBusy_fst] using moved
  have fresh : idx ∉ s.outstanding := by
    intro member
    rw [orderly.busy idx member] at wasEmpty
    cases wasEmpty
  have busyNow := Pool.tally_markBusy s.factory.pool idx .busy
  have fullNow := Pool.tally_markBusy s.factory.pool idx .full
  simp only [moved, true_and, reduceCtorEq, if_false, if_true, Nat.add_zero] at busyNow fullNow
  exact {
    config_eq := configKept.trans orderly.config_eq
    capacity_eq := by
      rw [poolIs, Pool.capacity_markBusy]
      exact orderly.capacity_eq
    bucketCount_eq := by
      rw [poolIs, Pool.bucketCount_markBusy]
      exact orderly.bucketCount_eq
    fits := fits
    nodup := added.nodup_iff.mpr (List.nodup_append.mpr ⟨orderly.nodup, by simp,
      fun a member b same => by
        rw [List.mem_singleton.mp same]
        rintro rfl
        exact fresh member⟩)
    busy := by
      intro j member
      rw [poolIs, Pool.status?_markBusy, moved]
      rcases List.mem_append.mp (added.subset member) with old | new
      · have other : j ≠ idx := fun same => fresh (same ▸ old)
        simp only [other, and_false, if_false]
        exact orderly.busy j old
      · simp [List.mem_singleton.mp new]
    allocated := countersKept ▸ orderly.allocated
    filled := by
      rw [poolIs, countersKept, fullNow]
      exact orderly.filled
    aborted := by
      rw [poolIs, countersKept, busyNow, orderly.aborted, added.length_eq, List.length_append,
        List.length_singleton]
      omega }

/-- A step that hands a batch of the batch size to a bucket taken on and drops it from those
taken on keeps a state orderly when every scheduler still fits: the bucket is busy, so it takes
the batch. -/
theorem of_publish
    (orderly : Orderly config n s)
    {s' : State σ}
    {idx : Nat}
    {batch : List Identifier}
    {rejected failedDraws : Nat}
    (factoryIs : s'.factory = s.factory.settle idx (.filled batch rejected failedDraws))
    (sized : batch.length = config.bucketCapacity)
    (dropped : (s'.outstanding ++ [idx]).Perm s.outstanding)
    (fits : ∀ ticker ∈ s'.tickers, Fits config ticker) :
    Orderly config n s' := by
  have taken : idx ∈ s.outstanding := dropped.subset (mem_append_right _ (mem_singleton_self idx))
  have nodupNow := dropped.nodup_iff.mpr orderly.nodup
  have gone : idx ∉ s'.outstanding := fun member =>
    (List.nodup_append.mp nodupNow).2.2 idx member idx (mem_singleton_self idx) rfl
  have delivered : (s.factory.pool.markFull idx batch).1 = true := by
    simp [Pool.markFull_fst, sized, orderly.capacity_eq, orderly.busy idx taken]
  have poolIs : s'.factory.pool = (s.factory.pool.markFull idx batch).2 := by
    rw [factoryIs, Factory.pool_settle_filled]
  have countersIs : s'.factory.counters =
      { s.factory.counters with
        candidatesRejected := s.factory.counters.candidatesRejected + rejected,
        generationErrors := s.factory.counters.generationErrors + failedDraws,
        bucketsFilled := s.factory.counters.bucketsFilled + 1 } := by
    rcases marked : s.factory.pool.markFull idx batch with ⟨done, pool⟩
    rw [marked] at delivered
    subst delivered
    simp [factoryIs, Factory.settle, marked]
  have busyNow := Pool.tally_markFull s.factory.pool idx batch .busy
  have fullNow := Pool.tally_markFull s.factory.pool idx batch .full
  simp only [delivered, true_and, reduceCtorEq, if_false, if_true, Nat.add_zero] at busyNow fullNow
  exact {
    config_eq := by
      rw [factoryIs, Factory.config_settle]
      exact orderly.config_eq
    capacity_eq := by
      rw [poolIs, Pool.capacity_markFull]
      exact orderly.capacity_eq
    bucketCount_eq := by
      rw [poolIs, Pool.bucketCount_markFull]
      exact orderly.bucketCount_eq
    fits := fits
    nodup := nodupNow.sublist (sublist_append_left _ _)
    busy := by
      intro j member
      have other : j ≠ idx := fun same => gone (same ▸ member)
      rw [poolIs, Pool.status?_markFull]
      simp only [other, and_false, if_false]
      exact orderly.busy j (dropped.subset (mem_append_left _ member))
    allocated := by
      rw [countersIs]
      exact orderly.allocated
    filled := by
      rw [poolIs, countersIs, fullNow]
      dsimp only
      rw [← orderly.filled]
      omega
    aborted := by
      have before := orderly.aborted
      have lengths := dropped.length_eq
      rw [length_append, length_singleton] at lengths
      rw [poolIs, countersIs]
      dsimp only
      omega }

/-- A fill step keeps a state orderly when it does at every worker that runs a fill. -/
theorem stepFill
    (orderly : Orderly config n s)
    (t w : Nat)
    (advance : Factory σ → Fill → Factory σ × Option Fill)
    (enabled : ∀ ticker channel fill, s.tickers[t]? = some ticker →
      ticker.workers[w]? = some ⟨channel, some fill⟩ → Orderly config n (s.stepFill t w advance)) :
    Orderly config n (s.stepFill t w advance) := by
  cases at_t : s.tickers[t]? with
  | none =>
      have stepped : s.stepFill t w advance = s := by
        simp [State.stepFill, at_t]
      rw [stepped]
      exact orderly
  | some ticker =>
      rcases at_w : ticker.workers[w]? with _ | ⟨channel, _ | fill⟩
      · have stepped : s.stepFill t w advance = s := by
          simp [State.stepFill, at_t, at_w]
        rw [stepped]
        exact orderly
      · have stepped : s.stepFill t w advance = s := by
          simp [State.stepFill, at_t, at_w]
        rw [stepped]
        exact orderly
      · exact enabled ticker channel fill at_t at_w

/-- The fill a worker runs is counted against the configured batch size. -/
theorem counted_at
    (orderly : Orderly config n s)
    {t w : Nat}
    {ticker : Ticker}
    {channel : List Nat}
    {fill : Fill}
    (at_t : s.tickers[t]? = some ticker)
    (at_w : ticker.workers[w]? = some ⟨channel, some fill⟩) :
    fill.Counted s.factory.config.bucketCapacity := by
  rw [orderly.config_eq]
  exact (orderly.fits ticker (List.mem_of_getElem? at_t)).counted _ (List.mem_of_getElem? at_w)
    fill rfl

end Orderly

/-! ## One step -/

namespace Orderly

variable [RandomSource σ] {config : FactoryConfig} {n : Nat} {s : State σ}

theorem add
    (orderly : Orderly config n s)
    (key : List UInt8) :
    Orderly config n (s.step (.add key)) :=
  orderly.of_frame rfl rfl rfl (Perm.refl _) orderly.fits

theorem start
    (orderly : Orderly config n s) :
    Orderly config n (s.step .start) := by
  by_cases ticks : s.ticking = true
  · have stepped : s.step .start = s := by
      simp [State.step, ticks]
    rw [stepped]
    exact orderly
  · -- a new scheduler joins, with idle workers and empty channels
    let spawned := Ticker.spawn s.factory.config.fillWorkers (max s.factory.pool.bucketCount 1)
    have stepped : s.step .start = { s with tickers := s.tickers ++ [spawned] } := by
      simp [State.step, ticks, spawned]
    rw [stepped]
    have idle : (spawned.workers.flatMap Worker.outstanding) = [] := by
      refine List.flatMap_eq_nil_iff.mpr fun worker member => ?_
      rw [List.eq_of_mem_replicate member]
      rfl
    have nothing : spawned.outstanding = [] := by
      rw [Ticker.outstanding, idle]
      rfl
    refine orderly.of_frame rfl rfl rfl ?_ ?_
    · simp only [State.outstanding, List.flatMap_append, List.flatMap_cons, List.flatMap_nil,
        nothing, List.append_nil]
      exact Perm.refl _
    · intro ticker member
      rcases List.mem_append.mp member with old | new
      · exact orderly.fits ticker old
      · rw [List.mem_singleton.mp new]
        exact {
          workers_length := by simp [spawned, Ticker.spawn, orderly.config_eq]
          depth_eq := by simp [spawned, Ticker.spawn, orderly.bucketCount_eq]
          counted := by simp [spawned, Ticker.spawn] }

theorem stop
    (orderly : Orderly config n s) :
    Orderly config n (s.step .stop) := by
  have same : (s.step .stop).outstanding = s.outstanding := by
    simp only [State.step, State.outstanding, List.flatMap_map]
    rfl
  refine orderly.of_frame rfl rfl rfl (same ▸ Perm.refl _) ?_
  · intro ticker member
    simp only [State.step, List.mem_map] at member
    obtain ⟨old, present, rfl⟩ := member
    exact (orderly.fits old present).of_workers rfl rfl

theorem tick
    (orderly : Orderly config n s)
    (t : Nat) :
    Orderly config n (s.step (.tick t)) := by
  cases at_t : s.tickers[t]? with
  | none =>
      have stepped : s.step (.tick t) = s := by
        simp [State.step, at_t]
      rw [stepped]
      exact orderly
  | some ticker =>
      have fits := orderly.fits ticker (List.mem_of_getElem? at_t)
      by_cases ready : ticker.ticking ∧ ticker.snapshot.isNone
      · -- the snapshot changes nothing taken on
        let refilling := { ticker with snapshot := some s.factory.pool.listEmpty }
        have stepped : s.step (.tick t) = { s with tickers := s.tickers.set t refilling } := by
          simp [State.step, at_t, ready, refilling]
        rw [stepped]
        refine orderly.of_frame rfl rfl rfl ?_ (fits_set orderly.fits t (fits.of_workers rfl rfl))
        have same := perm_flatMap_set at_t refilling Ticker.outstanding
          [] [] (Perm.refl _)
        simp only [List.append_nil] at same
        exact same
      · have stepped : s.step (.tick t) = s := by
          simp only [State.step, at_t]
          exact if_neg ready
        rw [stepped]
        exact orderly

theorem claim
    (orderly : Orderly config n s)
    (t : Nat) :
    Orderly config n (s.step (.claim t)) := by
  cases at_t : s.tickers[t]? with
  | none =>
      have stepped : s.step (.claim t) = s := by
        simp [State.step, at_t]
      rw [stepped]
      exact orderly
  | some ticker =>
      have fits := orderly.fits ticker (List.mem_of_getElem? at_t)
      -- a refill's next bucket, with nothing claimed and not yet handed over
      have quiet : ∀ snapshot : Option (List Nat), Orderly config n
          { s with tickers := s.tickers.set t { ticker with snapshot := snapshot } } := by
        intro snapshot
        refine orderly.of_frame rfl rfl rfl ?_ (fits_set orderly.fits t (fits.of_workers rfl rfl))
        have same := perm_flatMap_set at_t { ticker with snapshot := snapshot } Ticker.outstanding
          [] [] (Perm.refl _)
        simp only [List.append_nil] at same
        exact same
      cases unclaimed : ticker.claimed with
      | some held =>
          have stepped : s.step (.claim t) = s := by
            simp [State.step, at_t, unclaimed]
          rw [stepped]
          exact orderly
      | none =>
          cases snapshotIs : ticker.snapshot with
          | none =>
              have stepped : s.step (.claim t) = s := by
                simp [State.step, at_t, unclaimed, snapshotIs]
              rw [stepped]
              exact orderly
          | some remaining =>
              cases remaining with
              | nil =>
                  -- the snapshot is used up: the refill ends
                  have stepped : s.step (.claim t) =
                      { s with tickers := s.tickers.set t { ticker with snapshot := none } } := by
                    simp [State.step, at_t, unclaimed, snapshotIs]
                  rw [stepped]
                  exact quiet none
              | cons idx rest =>
                  cases moved : (s.factory.pool.markBusy idx).1 with
                  | false =>
                      -- the bucket changed state since the snapshot: skipped
                      have stepped : s.step (.claim t) =
                          { s with tickers := s.tickers.set t { ticker with snapshot := some rest } } := by
                        rcases marked : s.factory.pool.markBusy idx with ⟨done, pool⟩
                        rw [marked] at moved
                        subst moved
                        simp [State.step, at_t, unclaimed, snapshotIs, marked]
                      rw [stepped]
                      exact quiet (some rest)
                  | true =>
                      have stepped : s.step (.claim t) =
                          { factory := { s.factory with pool := (s.factory.pool.markBusy idx).2 },
                            tickers := s.tickers.set t
                              { ticker with snapshot := some rest, claimed := some idx } } := by
                        rcases marked : s.factory.pool.markBusy idx with ⟨done, pool⟩
                        rw [marked] at moved
                        subst moved
                        simp [State.step, at_t, unclaimed, snapshotIs, marked]
                      rw [stepped]
                      -- the bucket joins the refill as its claim
                      let claiming := { ticker with snapshot := some rest, claimed := some idx }
                      have changed : (claiming.outstanding ++ []).Perm
                          (ticker.outstanding ++ [idx]) := by
                        simp only [claiming, Ticker.outstanding, unclaimed, Option.toList_some,
                          Option.toList_none, List.nil_append, List.append_nil]
                        exact perm_append_comm
                      have added := perm_flatMap_set at_t claiming Ticker.outstanding [idx] [] changed
                      rw [List.append_nil] at added
                      exact orderly.of_claim rfl moved rfl rfl added
                        (fits_set orderly.fits t (fits.of_workers rfl rfl))

theorem dispatch
    (orderly : Orderly config n s)
    (t : Nat)
    (handedOver : Bool) :
    Orderly config n (s.step (.dispatch t handedOver)) := by
  cases at_t : s.tickers[t]? with
  | none =>
      have stepped : s.step (.dispatch t handedOver) = s := by
        simp [State.step, at_t]
      rw [stepped]
      exact orderly
  | some ticker =>
      have fits := orderly.fits ticker (List.mem_of_getElem? at_t)
      cases claimedIs : ticker.claimed with
      | none =>
          have stepped : s.step (.dispatch t handedOver) = s := by
            simp [State.step, at_t, claimedIs]
          rw [stepped]
          exact orderly
      | some idx =>
          cases at_w : ticker.workers[ticker.nextWorker]? with
          | none =>
              have stepped : s.step (.dispatch t handedOver) = s := by
                simp [State.step, at_t, claimedIs, at_w]
              rw [stepped]
              exact orderly
          | some worker =>
              cases handedOver with
              | false =>
                  -- the channel is closed: the fill is aborted and the bucket stays busy
                  let dropping := { ticker with handedOut := ticker.handedOut + 1, claimed := none }
                  have stepped : s.step (.dispatch t false) =
                      { factory := { s.factory with counters := { s.factory.counters with
                          fillsAborted := s.factory.counters.fillsAborted + 1 } },
                        tickers := s.tickers.set t dropping } := by
                    simp [State.step, at_t, claimedIs, at_w, dropping]
                  rw [stepped]
                  have changed : (dropping.outstanding ++ [idx]).Perm
                      (ticker.outstanding ++ []) := by
                    simp only [dropping, Ticker.outstanding, claimedIs, Option.toList_some,
                      Option.toList_none, List.nil_append, List.append_nil]
                    exact perm_append_comm
                  have dropped := perm_flatMap_set at_t dropping Ticker.outstanding [] [idx] changed
                  rw [List.append_nil] at dropped
                  exact orderly.of_abort rfl rfl rfl dropped
                    (fits_set orderly.fits t (fits.of_workers rfl rfl))
              | true =>
                  by_cases room : worker.channel.length < ticker.depth
                  · -- the request joins the end of the next worker's channel
                    let sent := { worker with channel := worker.channel ++ [idx] }
                    let handing := { ticker with
                      workers := ticker.workers.set ticker.nextWorker sent,
                      handedOut := ticker.handedOut + 1, claimed := none }
                    have stepped : s.step (.dispatch t true) =
                        { s with tickers := s.tickers.set t handing } := by
                      simp [State.step, at_t, claimedIs, at_w, room, handing, sent]
                    rw [stepped]
                    have queued := perm_flatMap_set at_w sent Worker.outstanding
                      [idx] [] (by
                        simp only [sent, Worker.outstanding, List.append_nil, List.append_assoc]
                        exact (perm_append_comm.append_left _))
                    have changed : (handing.outstanding ++ []).Perm (ticker.outstanding ++ []) := by
                      simp only [handing, Ticker.outstanding, claimedIs, Option.toList_some,
                        Option.toList_none, List.nil_append, List.append_nil]
                      rw [List.append_nil] at queued
                      exact queued.trans perm_append_comm
                    have kept := perm_flatMap_set at_t handing Ticker.outstanding [] [] changed
                    simp only [List.append_nil] at kept
                    refine orderly.of_frame rfl rfl rfl kept (fits_set orderly.fits t ?_)
                    have workersFit := fits.set ticker.nextWorker sent
                      (fun fill running => fits.counted worker (List.mem_of_getElem? at_w) fill running)
                    exact workersFit.of_workers rfl rfl
                  · have stepped : s.step (.dispatch t true) = s := by
                      simp [State.step, at_t, claimedIs, at_w, room]
                    rw [stepped]
                    exact orderly

theorem receive
    (orderly : Orderly config n s)
    (t w : Nat) :
    Orderly config n (s.step (.receive t w)) := by
  cases at_t : s.tickers[t]? with
  | none =>
      have stepped : s.step (.receive t w) = s := by
        simp [State.step, at_t]
      rw [stepped]
      exact orderly
  | some ticker =>
      have fits := orderly.fits ticker (List.mem_of_getElem? at_t)
      rcases at_w : ticker.workers[w]? with _ | ⟨_ | ⟨idx, rest⟩, fill⟩
      · have stepped : s.step (.receive t w) = s := by
          simp [State.step, at_t, at_w]
        rw [stepped]
        exact orderly
      · have stepped : s.step (.receive t w) = s := by
          simp [State.step, at_t, at_w]
        rw [stepped]
        exact orderly
      · cases fill with
        | some running =>
            have stepped : s.step (.receive t w) = s := by
              simp [State.step, at_t, at_w]
            rw [stepped]
            exact orderly
        | none =>
            -- the oldest request becomes the worker's fill
            let receiving : Worker := ⟨rest, some { bucket := idx }⟩
            let serving := { ticker with workers := ticker.workers.set w receiving }
            have stepped : s.step (.receive t w) = { s with tickers := s.tickers.set t serving } := by
              simp [State.step, at_t, at_w, receiving, serving]
            rw [stepped]
            have kept := outstanding_setWorker at_t at_w receiving [] [] (by
              simp only [receiving, Worker.outstanding, Option.map_some, Option.toList_some,
                Option.map_none, Option.toList_none, List.append_nil]
              exact perm_append_singleton idx rest)
            simp only [List.append_nil] at kept
            exact orderly.of_frame rfl rfl rfl kept (fits_set orderly.fits t
              (fits.set w _ fun fill started => by
                cases started
                exact Fill.counted_fresh _ idx))

theorem draw
    (orderly : Orderly config n s)
    (t w : Nat) :
    Orderly config n (s.step (.draw t w)) := by
  refine orderly.stepFill t w Fill.draw fun ticker channel fill at_t at_w => ?_
  have fits := orderly.fits ticker (List.mem_of_getElem? at_t)
  obtain ⟨source, next, drawn, sameBucket, nextCounted⟩ :=
    Fill.draw_spec s.factory fill (orderly.counted_at at_t at_w)
  rw [State.stepFill_eq at_t at_w, drawn]
  have kept := outstanding_setWorker at_t at_w ⟨channel, some next⟩ [] []
    (by simp [Worker.outstanding, sameBucket])
  simp only [List.append_nil] at kept
  refine orderly.of_frame rfl rfl rfl kept (fits_set orderly.fits t (fits.set w _ ?_))
  intro drawnFill running
  cases running
  exact orderly.config_eq ▸ nextCounted

theorem offer
    (orderly : Orderly config n s)
    (t w : Nat) :
    Orderly config n (s.step (.offer t w)) := by
  refine orderly.stepFill t w Fill.offer fun ticker channel fill at_t at_w => ?_
  have fits := orderly.fits ticker (List.mem_of_getElem? at_t)
  rcases Fill.offer_cases s.factory fill (orderly.counted_at at_t at_w) with
    ⟨filter, next, offered, sameBucket, nextCounted⟩ | ⟨filter, outcome, aborted, offered⟩
  · -- the fill goes on: only the filter changed
    rw [State.stepFill_eq at_t at_w, offered]
    have kept := outstanding_setWorker at_t at_w ⟨channel, some next⟩ [] []
      (by simp [Worker.outstanding, sameBucket])
    simp only [List.append_nil] at kept
    refine orderly.of_frame rfl rfl rfl kept (fits_set orderly.fits t (fits.set w _ ?_))
    intro offeredFill running
    cases running
    exact orderly.config_eq ▸ nextCounted
  · -- the fill gave up or crashed: aborted, and its bucket stays busy
    rw [State.stepFill_eq at_t at_w, offered]
    have dropped := outstanding_setWorker at_t at_w ⟨channel, none⟩ [] [fill.bucket]
      (by simp [Worker.outstanding])
    simp only [List.append_nil] at dropped
    exact orderly.of_abort (by simp) (Factory.pool_settle_of_aborted _ _ aborted)
      (Factory.counters_settle_of_aborted _ _ aborted) dropped
      (fits_set orderly.fits t (fits.set w _ (by simp)))

theorem publish
    (orderly : Orderly config n s)
    (t w : Nat) :
    Orderly config n (s.step (.publish t w)) := by
  refine orderly.stepFill t w Fill.publish fun ticker channel fill at_t at_w => ?_
  have fits := orderly.fits ticker (List.mem_of_getElem? at_t)
  have counted := orderly.counted_at at_t at_w
  rcases Fill.publish_cases s.factory fill with waiting | ⟨-, complete, published⟩
  · rw [State.stepFill_eq at_t at_w, waiting]
    have kept := outstanding_setWorker at_t at_w ⟨channel, some fill⟩ [] []
      (Perm.refl _)
    simp only [List.append_nil] at kept
    refine orderly.of_frame rfl rfl rfl kept (fits_set orderly.fits t (fits.set w _ ?_))
    intro waitingFill running
    cases running
    exact orderly.config_eq ▸ counted
  · -- the complete fill hands its batch to its bucket
    rw [State.stepFill_eq at_t at_w, published]
    have dropped := outstanding_setWorker at_t at_w ⟨channel, none⟩ [] [fill.bucket]
      (by simp [Worker.outstanding])
    simp only [List.append_nil] at dropped
    exact orderly.of_publish rfl (orderly.config_eq ▸ counted.length_batch complete) dropped
      (fits_set orderly.fits t (fits.set w _ (by simp)))

theorem allocate
    (orderly : Orderly config n s) :
    Orderly config (n + 1) (s.step .allocate) := by
  have stepped : s.step .allocate = { s with factory := s.factory.allocate.2 } := rfl
  rw [stepped]
  have fullNow := Pool.tally_pop s.factory.pool .full
  have busyNow := Pool.tally_pop s.factory.pool .busy
  have countersIs := Factory.counters_allocate s.factory
  simp only [reduceCtorEq, and_false, if_false, Nat.add_zero, and_true] at fullNow busyNow
  exact {
    config_eq := by
      rw [Factory.config_allocate]
      exact orderly.config_eq
    capacity_eq := by
      simp only [Factory.pool_allocate, Pool.capacity_pop]
      exact orderly.capacity_eq
    bucketCount_eq := by
      simp only [Factory.pool_allocate, Pool.bucketCount_pop]
      exact orderly.bucketCount_eq
    fits := orderly.fits
    nodup := orderly.nodup
    busy := by
      intro idx member
      rw [Factory.pool_allocate, Pool.status?_pop _ (by simp [orderly.busy idx member])]
      exact orderly.busy idx member
    allocated := by
      have before := orderly.allocated
      rw [countersIs]
      split <;> (dsimp only; omega)
    filled := by
      have before := orderly.filled
      rw [countersIs, Factory.pool_allocate]
      split <;> rename_i took <;> simp only [took, if_true, if_false, Bool.false_eq_true] at fullNow <;>
        (dsimp only; omega)
    aborted := by
      rw [countersIs, Factory.pool_allocate, busyNow, orderly.aborted]
      split <;> rfl }

theorem step
    (orderly : Orderly config n s)
    (event : Event) :
    Orderly config (n + if event.isAllocate then 1 else 0) (s.step event) := by
  cases event with
  | add key => exact orderly.add key
  | start => exact orderly.start
  | stop => exact orderly.stop
  | tick t => exact orderly.tick t
  | claim t => exact orderly.claim t
  | dispatch t handedOver => exact orderly.dispatch t handedOver
  | receive t w => exact orderly.receive t w
  | draw t w => exact orderly.draw t w
  | offer t w => exact orderly.offer t w
  | publish t w => exact orderly.publish t w
  | allocate => exact orderly.allocate

theorem run
    (orderly : Orderly config n s)
    (events : List Event) :
    Orderly config (n + events.countP Event.isAllocate) (s.run events) := by
  induction events generalizing n s with
  | nil =>
      exact orderly
  | cons event rest inductionHypothesis =>
      have later := inductionHypothesis (orderly.step event)
      have regrouped : n + (rest.countP Event.isAllocate + if event.isAllocate then 1 else 0) =
          n + (if event.isAllocate then 1 else 0) + rest.countP Event.isAllocate := by
        omega
      rw [List.countP_cons, regrouped]
      exact later

end Orderly

/-! ## Requests and counters over a run -/

/-- The requests waiting in channels, together with the bucket a refill claimed, are among the
buckets taken on. -/
theorem claimed_queued_subperm
    (s : State σ)
    {ticker : Ticker}
    (member : ticker ∈ s.tickers)
    {idx : Nat}
    (claimedIs : ticker.claimed = some idx) :
    (idx :: s.queued).Subperm s.outstanding := by
  have split := flatMap_append_perm s.tickers (fun ticker => ticker.claimed.toList)
    (fun ticker => ticker.workers.flatMap Worker.outstanding)
  have claimIn : [idx] <+ s.tickers.flatMap fun ticker => ticker.claimed.toList :=
    singleton_sublist.mpr (mem_flatMap.mpr ⟨ticker, member, by simp [claimedIs]⟩)
  have queuedIn : s.queued <+ s.tickers.flatMap fun ticker =>
      ticker.workers.flatMap Worker.outstanding :=
    Sublist.flatMap_right _ fun ticker _ =>
      Sublist.flatMap_right _ fun worker _ => sublist_append_left _ _
  exact (claimIn.subperm.append queuedIn.subperm).trans split.subperm

namespace Orderly

variable {config : FactoryConfig} {n : Nat} {s : State σ}

/-- No more buckets are taken on than the pool has. -/
theorem length_outstanding_le
    (orderly : Orderly config n s) :
    s.outstanding.length ≤ config.bucketCount := by
  have inRange : s.outstanding ⊆ range config.bucketCount := by
    intro idx member
    rw [mem_range, ← orderly.bucketCount_eq]
    exact Pool.lt_bucketCount_of_status? (orderly.busy idx member)
  simpa using (orderly.nodup.subperm inRange).length_le

/-- While a refill holds a claimed bucket, the channels together hold fewer requests than the pool
has buckets, and the worker next in turn has room in its channel. -/
theorem room_of_claimed
    (orderly : Orderly config n s)
    (workers : 0 < config.fillWorkers)
    {ticker : Ticker}
    (member : ticker ∈ s.tickers)
    {idx : Nat}
    (claimedIs : ticker.claimed = some idx) :
    s.queued.length + 1 ≤ config.bucketCount ∧
      ∃ worker, ticker.workers[ticker.nextWorker]? = some worker ∧
        worker.channel.length < ticker.depth ∧ ticker.depth = max config.bucketCount 1 := by
  have fits := orderly.fits ticker member
  have fewer : s.queued.length + 1 ≤ config.bucketCount := by
    have within := (claimed_queued_subperm s member claimedIs).length_le
    rw [length_cons] at within
    exact Nat.le_trans within orderly.length_outstanding_le
  have inRange : ticker.nextWorker < ticker.workers.length := by
    apply Nat.mod_lt
    rw [fits.workers_length]
    exact workers
  refine ⟨fewer, ticker.workers[ticker.nextWorker], getElem?_eq_getElem inRange, ?_, fits.depth_eq⟩
  -- the next worker's channel is one of the channels
  have inQueued : ticker.workers[ticker.nextWorker].channel <+ s.queued :=
    (sublist_flatMap_of_mem (getElem_mem inRange) Worker.channel).trans
      (sublist_flatMap_of_mem member Ticker.queued)
  rw [fits.depth_eq]
  have := inQueued.length_le
  omega

/-- A fill that holds a batch hands it to a bucket that takes it. -/
theorem markFull_of_complete
    (orderly : Orderly config n s)
    {ticker : Ticker}
    (member : ticker ∈ s.tickers)
    {worker : Worker}
    (working : worker ∈ ticker.workers)
    {fill : Fill}
    (running : worker.fill = some fill)
    (complete : config.bucketCapacity ≤ fill.progress.accepted) :
    (s.factory.pool.markFull fill.bucket fill.progress.ids.reverse).1 = true := by
  have counted := (orderly.fits ticker member).counted worker working fill running
  have taken : fill.bucket ∈ s.outstanding := by
    refine mem_flatMap.mpr ⟨ticker, member, mem_append_right _ ?_⟩
    exact mem_flatMap.mpr ⟨worker, working, mem_append_right _ (by simp [running])⟩
  simp [Pool.markFull_fst, counted.length_batch complete, orderly.capacity_eq,
    orderly.busy _ taken]

end Orderly

variable [RandomSource σ]

/--
Over every run of a factory whose configuration asks for at least one fill
worker, under any interleaving of starts and stops, refill snapshots, claims
and hand-overs, workers taking requests, fill steps and allocations: no
bucket is taken on twice (claimed by a refill, waiting in a channel or being
filled), and every bucket taken on is busy. So while a refill holds a claimed
bucket, the channels together hold at most one request fewer than the pool
has buckets, and the worker next in turn has room in its channel, which holds
as many requests as there are buckets (and at least one): the hand-over never
waits. And a fill that holds a batch always hands it to a bucket that takes
it.
-/
theorem run_keeps_one_request_per_bucket
    (hash : List UInt8 → Lanes)
    (config : FactoryConfig)
    (source : σ)
    (events : List Event)
    (workers : 0 < config.fillWorkers) :
    let s := (State.start (Factory.build hash config source)).run events
    s.outstanding.Nodup ∧
      (∀ idx ∈ s.outstanding, s.factory.pool.status? idx = some .busy) ∧
      (∀ ticker ∈ s.tickers, ∀ idx, ticker.claimed = some idx →
        s.queued.length + 1 ≤ config.bucketCount ∧
          ∃ worker, ticker.workers[ticker.nextWorker]? = some worker ∧
            worker.channel.length < ticker.depth ∧ ticker.depth = max config.bucketCount 1) ∧
      ∀ ticker ∈ s.tickers, ∀ worker ∈ ticker.workers, ∀ fill, worker.fill = some fill →
        config.bucketCapacity ≤ fill.progress.accepted →
        (s.factory.pool.markFull fill.bucket fill.progress.ids.reverse).1 = true := by
  intro s
  have orderly : Orderly config (0 + events.countP Event.isAllocate) s :=
    (Orderly.initial hash config source).run events
  refine ⟨orderly.nodup, orderly.busy, ?_, ?_⟩
  · intro ticker member idx claimedIs
    exact orderly.room_of_claimed workers member claimedIs
  · intro ticker member worker working fill running complete
    exact orderly.markFull_of_complete member working running complete

theorem run_keeps_one_request_per_bucket_standard :
    0 < ({} : FactoryConfig).fillWorkers ∧
      let s := (State.start (Factory.build keyHash {} ScriptedSource.standard)).run
        [.start, .tick 0, .claim 0, .dispatch 0 true, .receive 0 0, .draw 0 0, .offer 0 0,
          .claim 0, .allocate]
      s.outstanding.Nodup ∧
        (∀ idx ∈ s.outstanding, s.factory.pool.status? idx = some .busy) ∧
        (∀ ticker ∈ s.tickers, ∀ idx, ticker.claimed = some idx →
          s.queued.length + 1 ≤ ({} : FactoryConfig).bucketCount ∧
            ∃ worker, ticker.workers[ticker.nextWorker]? = some worker ∧
              worker.channel.length < ticker.depth ∧
              ticker.depth = max ({} : FactoryConfig).bucketCount 1) ∧
        ∀ ticker ∈ s.tickers, ∀ worker ∈ ticker.workers, ∀ fill, worker.fill = some fill →
          ({} : FactoryConfig).bucketCapacity ≤ fill.progress.accepted →
          (s.factory.pool.markFull fill.bucket fill.progress.ids.reverse).1 = true :=
  ⟨by decide, run_keeps_one_request_per_bucket keyHash {} ScriptedSource.standard
    [.start, .tick 0, .claim 0, .dispatch 0 true, .receive 0 0, .draw 0 0, .offer 0 0, .claim 0,
      .allocate] (by decide)⟩

/--
Over every run of a factory, under any interleaving of its steps, the
statistics balance: every allocation is a served batch or a miss; the full
buckets are the buckets filled less the batches served; the busy buckets are
the aborted fills and the buckets taken on and not finished, claimed by a
refill, waiting in a channel or being filled, so only aborted fills once every
fill taken on has finished; and every bucket is empty, busy or full.
-/
theorem run_balances_counters
    (hash : List UInt8 → Lanes)
    (config : FactoryConfig)
    (source : σ)
    (events : List Event) :
    let s := (State.start (Factory.build hash config source)).run events
    let stats := s.factory.stats
    stats.counters.batchesServed + stats.counters.poolExhausted =
        events.countP Event.isAllocate ∧
      stats.counters.batchesServed ≤ stats.counters.bucketsFilled ∧
      stats.pool.full = stats.counters.bucketsFilled - stats.counters.batchesServed ∧
      stats.pool.busy = stats.counters.fillsAborted + s.outstanding.length ∧
      (s.outstanding = [] → stats.pool.busy = stats.counters.fillsAborted) ∧
      stats.pool.empty + stats.pool.busy + stats.pool.full = config.bucketCount := by
  intro s stats
  have orderly : Orderly config (0 + events.countP Event.isAllocate) s :=
    (Orderly.initial hash config source).run events
  have total := Pool.tally_add s.factory.pool
  have filled := orderly.filled
  rw [orderly.bucketCount_eq] at total
  simp only [stats, Factory.stats, Pool.counts_eq]
  refine ⟨by simpa using orderly.allocated, by omega, by omega, orderly.aborted, ?_, total⟩
  intro finished
  rw [orderly.aborted, finished, List.length_nil, Nat.add_zero]

end IdFactory.Scheduling
