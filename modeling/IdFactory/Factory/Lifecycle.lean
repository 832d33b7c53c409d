import IdFactory.Factory.Fill

namespace IdFactory

open IdFactory.Random

/-!
# Driving a factory

A factory is driven by five operations: `run` starts the refill scheduler,
`shutdown` stops it, a refill tick hands every empty bucket to the running
scheduler's fill workers, the fill workers serve every request queued, those
left by stopped schedulers included, and a consumer allocates a batch. A
factory is driven by any sequence of them.
-/

/-- An operation on a factory. -/
inductive Factory.Op where
  | run
  | shutdown
  | tick
  | fill
  | allocate
  deriving Repr, DecidableEq

namespace Factory

variable {σ : Type} [RandomSource σ]

/-- Apply one operation. -/
def perform (f : Factory σ) : Op → Factory σ
  | .run => f.start
  | .shutdown => f.stop
  | .tick => f.tick.2
  | .fill => f.drain.2
  | .allocate => f.allocate.2

/-- Apply operations one after the other. -/
def replay (f : Factory σ) (ops : List Op) : Factory σ :=
  ops.foldl perform f

@[simp]
theorem replay_nil (f : Factory σ) : f.replay [] = f :=
  rfl

theorem replay_append (f : Factory σ) (ops more : List Op) :
    f.replay (ops ++ more) = (f.replay ops).replay more := by
  simp [replay, List.foldl_append]

theorem replay_concat (f : Factory σ) (ops : List Op) (op : Op) :
    f.replay (ops ++ [op]) = (f.replay ops).perform op := by
  simp [replay, List.foldl_append]

/-- Only `run` and `shutdown` change whether the factory runs. -/
theorem running_perform (f : Factory σ) (op : Op) :
    (f.perform op).running =
      match op with
      | .run => true
      | .shutdown => false
      | _ => f.running := by
  cases op <;> simp [perform]

end Factory

end IdFactory
