import IdFactory.Factory.Fill

namespace IdFactory

open IdFactory.Random IdFactory.Filter

/-!
# A factory at work

While a factory runs, many things happen at once: the warm-up adds history
to the filter, the refill scheduler claims empty buckets and hands them to
fill workers, every fill draws candidates and offers them to the filter,
finished fills publish their batches, and consumers allocate. Each of these
touches shared state only under a lock, so each is one atomic step, and a
run of the factory is any interleaving of such steps.

The state is the factory together with the fills under way, each with its
bucket, its progress and the candidate it has drawn and not yet offered. A
claim marks an empty bucket busy and starts a fill for it, unless handing it
to a worker fails, which counts as an aborted fill and leaves the bucket
busy. A fill short of a batch draws a candidate from the shared source, then
offers it to the filter as `FillPlan.absorb` does; a fill that gives up or
crashes is settled as aborted and its bucket stays busy. A fill that holds a
batch publishes it to its bucket. A step that is not enabled changes
nothing.

Beside the factory the state keeps two records that no step reads: the
batches handed out, and the journal of what the filter was given, added keys
and accepted identifiers, in order.
-/

/-- What the filter was given: a key added outright, or an identifier a fill accepted. -/
inductive FilterEvent where
  | added (key : List UInt8)
  | accepted (id : Identifier)
  deriving Repr, DecidableEq

/-- The key a filter event gave the filter. -/
def FilterEvent.key : FilterEvent → List UInt8
  | .added key => key
  | .accepted id => id.bytes

/-- The identifier of an acceptance. -/
def FilterEvent.accepted? : FilterEvent → Option Identifier
  | .added _ => none
  | .accepted id => some id

/-- A fill under way: its bucket, its progress, and the candidate it drew and has not offered. -/
structure Fill where
  bucket : Nat
  progress : FillProgress := {}
  candidate : Option (Except DrawFailure Identifier) := none

namespace Concurrent

/-- A factory at work: the factory, its fills under way, and the records of the run so far,
the batches handed out and what the filter was given, each oldest first. -/
structure State (σ : Type) where
  factory : Factory σ
  fills : List Fill := []
  issued : List (List Identifier) := []
  journal : List FilterEvent := []

/-- One atomic step of a factory at work: the warm-up adds a key to the filter; the scheduler
claims a bucket and hands it to a worker, or fails to hand it over; fill `i` draws a candidate
from the shared source, offers it to the filter, or publishes its batch; a consumer allocates. -/
inductive Event where
  | add (key : List UInt8)
  | claim (idx : Nat) (handedOver : Bool)
  | draw (i : Nat)
  | offer (i : Nat)
  | publish (i : Nat)
  | allocate

namespace State

variable {σ : Type} [RandomSource σ]

/-- A factory at work with no fill under way and nothing recorded yet. -/
def start (f : Factory σ) : State σ :=
  { factory := f }

/-- What the filter records of an offered candidate: the identifier, if it accepts it. -/
def acceptance (filter : Bloom) : Except DrawFailure Identifier → List FilterEvent
  | .ok id => if (filter.insertIfAbsent id.bytes).1 then [.accepted id] else []
  | .error _ => []

/-- Take one step. -/
def step (s : State σ) : Event → State σ
  | .add key =>
    { s with factory := { s.factory with filter := s.factory.filter.insert key },
             journal := s.journal ++ [.added key] }
  | .claim idx handedOver =>
    match s.factory.pool.markBusy idx with
    | (true, pool) =>
      if handedOver then
        { s with factory := { s.factory with pool := pool }, fills := s.fills ++ [{ bucket := idx }] }
      else
        let c := s.factory.counters
        { s with factory := { s.factory with
                   pool := pool, counters := { c with fillsAborted := c.fillsAborted + 1 } } }
    | (false, _) => s
  | .draw i =>
    let plan := s.factory.config.fillPlan
    match s.fills[i]? with
    | some fill =>
      if fill.candidate.isNone ∧ fill.progress.accepted < plan.capacity then
        let (d, source) := plan.alphabet.draw plan.length s.factory.source
        { s with factory := { s.factory with source := source },
                 fills := s.fills.set i { fill with candidate := some d.outcome } }
      else s
    | none => s
  | .offer i =>
    match s.fills[i]? with
    | some ⟨bucket, progress, some d⟩ =>
      let journal := s.journal ++ acceptance s.factory.filter d
      match s.factory.config.fillPlan.absorb progress d s.factory.filter with
      | (.next progress, filter) =>
        { s with factory := { s.factory with filter := filter },
                 fills := s.fills.set i ⟨bucket, progress, none⟩, journal := journal }
      | (.stop outcome, filter) =>
        { s with factory := ({ s.factory with filter := filter } : Factory σ).settle bucket outcome,
                 fills := s.fills.eraseIdx i, journal := journal }
    | _ => s
  | .publish i =>
    match s.fills[i]? with
    | some fill =>
      if fill.candidate.isNone ∧ s.factory.config.fillPlan.capacity ≤ fill.progress.accepted then
        { s with factory := s.factory.settle fill.bucket
                   (.filled fill.progress.ids.reverse fill.progress.rejected fill.progress.failedDraws),
                 fills := s.fills.eraseIdx i }
      else s
    | none => s
  | .allocate =>
    match s.factory.allocate with
    | (.ok ids, f) => { s with factory := f, issued := s.issued ++ [ids] }
    | (.error _, f) => { s with factory := f }

/-- Take the steps of a run, in order. -/
def run (s : State σ) (events : List Event) : State σ :=
  events.foldl step s

end State

end Concurrent

end IdFactory
