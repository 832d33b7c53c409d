import IdFactory.Factory.Config
import IdFactory.Factory.Stats
import IdFactory.Filter.Bloom
import IdFactory.Factory.Workers

namespace IdFactory

open IdFactory.Filter

/-!
# The identifier factory

A factory keeps a membership filter of every identifier it has issued or
been told about, a pool of buckets of fresh identifiers, its counters and
its random source. While its refill scheduler runs it also keeps that
scheduler's fill workers, and it keeps the queues of the workers of earlier
schedulers until they are served. It is built only from a configuration
that passes `FactoryConfig.validate`, with a filter over a given hash sized
by that configuration and a pool of empty buckets.

Starting a factory that runs changes nothing. Otherwise it spawns as many
fill workers as the configuration asks for. Stopping a factory that does not
run changes nothing. Otherwise it keeps the running workers' non-empty
queues to be served, and drops the workers.

`allocate` hands out the batch of the full bucket of lowest index, counting
a served batch, or fails with `poolExhausted`, counting the miss.
-/

/-- An identifier factory over a random source of type `σ`. -/
structure Factory (σ : Type) where
  config : FactoryConfig
  filter : Bloom
  pool : Pool
  source : σ
  counters : Counters := {}
  /-- The fill workers of the running scheduler; `none` when no scheduler runs. -/
  scheduler : Option Workers := none
  /-- The queues left by the workers of stopped schedulers, still to be served. -/
  retired : List (List Nat) := []

namespace Factory

variable {σ : Type}

/-- A factory for a configuration, whether or not it passes its checks: a filter over the given
hash sized by the configuration, a pool of empty buckets, no counts and no scheduler. -/
def build (hash : List UInt8 → Lanes) (config : FactoryConfig) (source : σ) : Factory σ :=
  { config := config
    filter := Bloom.sized hash config.filterCapacity config.filterErrorRate
    pool := Pool.new config.bucketCount config.bucketCapacity
    source := source }

/-- A factory for a configuration, refused when the configuration is. -/
def create (hash : List UInt8 → Lanes) (config : FactoryConfig) (source : σ) :
    Except FactoryError (Factory σ) := do
  config.validate
  pure (build hash config source)

/-- Hand out the next full batch, or fail when no bucket is full. -/
def allocate (f : Factory σ) : Except FactoryError (List Identifier) × Factory σ :=
  match f.pool.pop with
  | (some ids, pool) =>
    (.ok ids, { f with pool := pool,
                       counters := { f.counters with batchesServed := f.counters.batchesServed + 1 } })
  | (none, pool) =>
    (.error .poolExhausted, { f with pool := pool,
                                     counters := { f.counters with poolExhausted := f.counters.poolExhausted + 1 } })

@[simp]
theorem config_allocate (f : Factory σ) : f.allocate.2.config = f.config := by
  unfold allocate
  split <;> rfl

@[simp]
theorem filter_allocate (f : Factory σ) : f.allocate.2.filter = f.filter := by
  unfold allocate
  split <;> rfl

@[simp]
theorem pool_allocate (f : Factory σ) : f.allocate.2.pool = f.pool.pop.2 := by
  unfold allocate
  split <;> rename_i pool popped <;> simp [popped]

@[simp]
theorem scheduler_allocate (f : Factory σ) : f.allocate.2.scheduler = f.scheduler := by
  unfold allocate
  split <;> rfl

/-- An allocation counts a served batch when the pool gives one up, and a miss otherwise. -/
theorem counters_allocate (f : Factory σ) :
    f.allocate.2.counters =
      if f.pool.pop.1.isSome then
        { f.counters with batchesServed := f.counters.batchesServed + 1 }
      else { f.counters with poolExhausted := f.counters.poolExhausted + 1 } := by
  unfold allocate
  split <;> rename_i popped <;> simp [popped]

/-- A batch is handed out exactly when the pool gives one up. -/
theorem allocate_fst_eq_ok (f : Factory σ) (ids : List Identifier) :
    f.allocate.1 = .ok ids ↔ f.pool.pop.1 = some ids := by
  unfold allocate
  split <;> rename_i popped <;> simp [popped]

/-- A created factory is the one built from its configuration. -/
theorem eq_build_of_create {hash : List UInt8 → Lanes} {config : FactoryConfig} {source : σ}
    {f : Factory σ} (created : create hash config source = .ok f) :
    f = build hash config source := by
  unfold create at created
  cases checked : config.validate with
  | error problem =>
      simp [checked, bind, Except.bind] at created
  | ok _ =>
      simp only [checked, bind, Except.bind, pure, Except.pure, Except.ok.injEq] at created
      exact created.symm

/-- The counters and the bucket counts of the pool. -/
def stats (f : Factory σ) : FactoryStats :=
  ⟨f.counters, f.pool.counts⟩

/-- Whether the refill scheduler runs. -/
def running (f : Factory σ) : Bool :=
  f.scheduler.isSome

/-- Start the refill scheduler with fresh fill workers; a running one is left as it is. -/
def start (f : Factory σ) : Factory σ :=
  match f.scheduler with
  | some _ => f
  | none => { f with scheduler := some (Workers.spawn f.config.fillWorkers) }

/-- Stop the refill scheduler, if it runs, keeping its queued requests to be served. -/
def stop (f : Factory σ) : Factory σ :=
  match f.scheduler with
  | none => f
  | some w => { f with scheduler := none, retired := f.retired ++ w.queues.toList.filter (!·.isEmpty) }

/-- Every fill request still queued: those left by stopped schedulers, then those of the
running one, each queue oldest first. -/
def queued (f : Factory σ) : List Nat :=
  f.retired.flatten ++ (f.scheduler.map Workers.pending).getD []

@[simp]
theorem running_allocate (f : Factory σ) : f.allocate.2.running = f.running := by
  simp [running]

/-- Starting a running factory changes nothing. -/
theorem start_of_running (f : Factory σ) (h : f.running = true) : f.start = f := by
  unfold start
  unfold running at h
  cases hs : f.scheduler with
  | none => simp [hs] at h
  | some _ => rfl

/-- Stopping a factory that does not run changes nothing. -/
theorem stop_of_not_running (f : Factory σ) (h : f.running = false) : f.stop = f := by
  unfold stop
  unfold running at h
  cases hs : f.scheduler with
  | none => rfl
  | some _ => simp [hs] at h

@[simp]
theorem running_start (f : Factory σ) : f.start.running = true := by
  unfold start running
  cases hs : f.scheduler <;> simp [hs]

@[simp]
theorem running_stop (f : Factory σ) : f.stop.running = false := by
  unfold stop running
  cases hs : f.scheduler <;> simp [hs]

/-- Stopping keeps the pool, the filter, the counters and the random source. -/
theorem stop_keeps (f : Factory σ) :
    f.stop.pool = f.pool ∧ f.stop.filter = f.filter ∧ f.stop.counters = f.counters ∧
      f.stop.source = f.source := by
  unfold stop
  cases f.scheduler <;> simp

/-- Stopping keeps every queued request, in order. -/
theorem queued_stop (f : Factory σ) : f.stop.queued = f.queued := by
  unfold stop queued
  cases hs : f.scheduler with
  | none => simp [hs]
  | some w => simp [Workers.pending, List.flatten_filter_not_isEmpty]

end Factory

end IdFactory
