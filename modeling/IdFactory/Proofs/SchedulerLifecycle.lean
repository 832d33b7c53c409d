import Mathlib.Data.List.Induction
import IdFactory.Factory.Lifecycle

namespace IdFactory.Factory

open IdFactory.Random

/-!
# Starting and stopping the refill scheduler

Over every sequence of operations on a factory (starts, stops, refill ticks,
fills and allocations):

* starting a factory that runs changes nothing, so it never gets a second
  scheduler or a second set of fill workers, and stopping a factory that
  does not run changes nothing;
* stopping changes only whether the factory runs: the pool, the filter, the
  counters, the random source and every queued request stay;
* from a stop to the next start no tick happens: a tick hands out nothing and
  changes nothing, and every bucket that is empty stays empty, so none moves
  from empty to busy;
* a factory runs exactly after a start that no stop has followed.
-/

variable {σ : Type}

/-- Stopping a factory changes only its scheduler, which it drops, and where its queued requests
are kept. -/
theorem stop_eq (f : Factory σ) :
    ∃ retired, f.stop = { f with scheduler := none, retired := retired } := by
  unfold stop
  cases hs : f.scheduler with
  | none =>
      refine ⟨f.retired, ?_⟩
      cases f
      simp_all
  | some w => exact ⟨_, rfl⟩

variable [RandomSource σ]

@[simp]
theorem replay_cons (f : Factory σ) (op : Op) (ops : List Op) :
    f.replay (op :: ops) = (f.perform op).replay ops :=
  rfl

/-! ## While stopped -/

/-- On a factory that does not run, an operation other than a start keeps it stopped and keeps
every empty bucket empty. -/
theorem perform_of_stopped
    (f : Factory σ)
    {op : Op}
    (notRun : op ≠ .run)
    (stopped : f.running = false) :
    (f.perform op).running = false ∧
      ∀ j, f.pool.status? j = some .empty → (f.perform op).pool.status? j = some .empty := by
  refine ⟨?_, fun j empty => ?_⟩
  · rw [running_perform]
    cases op <;> simp_all
  · cases op with
    | run => contradiction
    | shutdown => rwa [perform, (stop_keeps f).1]
    | tick => rwa [perform, tick_of_not_running f stopped]
    | fill => exact status?_drain_of_empty f empty
    | allocate =>
        rw [perform, pool_allocate, Pool.status?_pop _ (by simp [empty])]
        exact empty

/-- From a factory that does not run, operations without a start keep it stopped and keep every
empty bucket empty. -/
theorem replay_of_stopped
    (f : Factory σ)
    {ops : List Op}
    (noRun : .run ∉ ops)
    (stopped : f.running = false) :
    (f.replay ops).running = false ∧
      ∀ j, f.pool.status? j = some .empty → (f.replay ops).pool.status? j = some .empty := by
  -- induction on the operations, the stopped factory carried from one to the next
  induction ops generalizing f with
  | nil => exact ⟨stopped, fun _ empty => empty⟩
  | cons op rest inductionHypothesis =>
      rw [List.mem_cons, not_or] at noRun
      obtain ⟨stillStopped, keptEmpty⟩ := perform_of_stopped f (Ne.symm noRun.1) stopped
      obtain ⟨staysStopped, staysEmpty⟩ := inductionHypothesis (f.perform op) noRun.2 stillStopped
      exact ⟨staysStopped, fun j empty => staysEmpty j (keptEmpty j empty)⟩

/-! ## Whether a factory runs -/

/-- A run of operations with one more at its end meets an operation somewhere as the run meets
it, or as its last. -/
theorem eq_append_cons_of_concat
    {ops pre post : List Op}
    {op x : Op}
    (split : ops ++ [op] = pre ++ x :: post) :
    (pre = ops ∧ x = op ∧ post = []) ∨ ∃ rest, post = rest ++ [op] ∧ ops = pre ++ x :: rest := by
  rcases List.eq_nil_or_concat post with rfl | ⟨rest, last, rfl⟩
  · obtain ⟨samePre, sameLast⟩ := List.append_inj' split rfl
    exact .inl ⟨samePre.symm, (List.singleton_inj.mp sameLast).symm, rfl⟩
  · have regrouped : ops ++ [op] = (pre ++ x :: rest) ++ [last] := by simpa using split
    obtain ⟨sameOps, sameLast⟩ := List.append_inj' regrouped rfl
    obtain rfl := List.singleton_inj.mp sameLast
    exact .inr ⟨rest, List.concat_eq_append, sameOps⟩

/-- An operation that neither starts nor stops, added at the end, changes neither whether a start
is followed by no stop nor whether a stop occurs. -/
theorem startedLast_concat_iff
    {ops : List Op}
    {op : Op}
    (ran : Bool)
    (notRun : op ≠ .run)
    (notStop : op ≠ .shutdown) :
    ((∃ pre post, ops ++ [op] = pre ++ .run :: post ∧ .shutdown ∉ post) ∨
        (ran = true ∧ .shutdown ∉ ops ++ [op])) ↔
      ((∃ pre post, ops = pre ++ .run :: post ∧ .shutdown ∉ post) ∨
        (ran = true ∧ .shutdown ∉ ops)) := by
  have keepsStop : ∀ rest : List Op, .shutdown ∈ rest ++ [op] ↔ .shutdown ∈ rest := fun rest => by
    simp [Ne.symm notStop]
  constructor
  · rintro (⟨pre, post, split, noStop⟩ | ⟨ranBefore, noStop⟩)
    · rcases eq_append_cons_of_concat split with ⟨-, rfl, -⟩ | ⟨rest, rfl, earlier⟩
      · exact absurd rfl notRun
      · exact .inl ⟨pre, rest, earlier, (keepsStop rest).not.mp noStop⟩
    · exact .inr ⟨ranBefore, (keepsStop ops).not.mp noStop⟩
  · rintro (⟨pre, post, rfl, noStop⟩ | ⟨ranBefore, noStop⟩)
    · exact .inl ⟨pre, post ++ [op], by simp, (keepsStop post).not.mpr noStop⟩
    · exact .inr ⟨ranBefore, (keepsStop ops).not.mpr noStop⟩

/-- A factory runs after some operations exactly when one of them is a start that no stop
follows, or it ran before them and none of them is a stop. -/
theorem running_replay_iff (f : Factory σ) (ops : List Op) :
    (f.replay ops).running = true ↔
      (∃ pre post, ops = pre ++ .run :: post ∧ .shutdown ∉ post) ∨
        (f.running = true ∧ .shutdown ∉ ops) := by
  -- induction from the end: the last operation decides, unless it is neither start nor stop
  induction ops using List.reverseRecOn with
  | nil => simp
  | append_singleton ops op inductionHypothesis =>
      rw [replay_concat, running_perform]
      cases op with
      | run =>
          simp only [true_iff]
          exact .inl ⟨ops, [], rfl, List.not_mem_nil⟩
      | shutdown =>
          -- the last stop follows every start
          simp only [Bool.false_eq_true, false_iff, not_or]
          refine ⟨fun ⟨pre, post, split, noStop⟩ => ?_, fun ⟨_, noStop⟩ => noStop (by simp)⟩
          rcases eq_append_cons_of_concat split with ⟨-, same, -⟩ | ⟨rest, rfl, -⟩
          · cases same
          · exact noStop (by simp)
      | tick | fill | allocate =>
          rw [inductionHypothesis, startedLast_concat_iff _ (by decide) (by decide)]

/-! ## The life cycle -/

/-- Over every sequence of operations on a factory: starting a running factory and stopping a
stopped one change nothing; stopping changes only whether the factory runs, keeping every queued
request; along any stretch after a stop with no start in it the factory does not run, a tick
hands out nothing and changes nothing, and every empty bucket stays empty; and the factory runs
exactly after a start that no stop has followed. -/
theorem replay_respects_scheduler_lifecycle (f : Factory σ) (ops : List Op) :
    (f.running = true → f.perform .run = f) ∧
    (f.running = false → f.perform .shutdown = f) ∧
    ((∃ retired, f.perform .shutdown = { f with scheduler := none, retired := retired }) ∧
      (f.perform .shutdown).queued = f.queued) ∧
    (∀ pre mid rest, ops = pre ++ .shutdown :: (mid ++ rest) → .run ∉ mid →
      ∀ before after, mid = before ++ after →
      (f.replay (pre ++ .shutdown :: before)).running = false ∧
      (f.replay (pre ++ .shutdown :: before)).tick = (0, f.replay (pre ++ .shutdown :: before)) ∧
      ∀ j, (f.replay (pre ++ .shutdown :: before)).pool.status? j = some .empty →
        ((f.replay (pre ++ .shutdown :: before)).replay after).pool.status? j = some .empty) ∧
    ((f.replay ops).running = true ↔
      (∃ pre post, ops = pre ++ .run :: post ∧ .shutdown ∉ post) ∨
        (f.running = true ∧ .shutdown ∉ ops)) := by
  refine ⟨start_of_running f, stop_of_not_running f, ⟨stop_eq f, queued_stop f⟩,
    fun pre mid _ _ noRun before after split => ?_, running_replay_iff f ops⟩
  rw [split, List.mem_append, not_or] at noRun
  -- the stop leaves the factory stopped, and no start follows within the stretch
  have stopped : (f.replay (pre ++ .shutdown :: before)).running = false := by
    rw [show pre ++ .shutdown :: before = pre ++ [.shutdown] ++ before by simp, replay_append,
      replay_concat]
    exact (replay_of_stopped _ noRun.1 (running_stop _)).1
  exact ⟨stopped, tick_of_not_running _ stopped, (replay_of_stopped _ noRun.2 stopped).2⟩

end IdFactory.Factory
