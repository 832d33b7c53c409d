import IdFactory.Factory.Concurrent

namespace IdFactory

open IdFactory.Random IdFactory.Filter

/-!
# The refill scheduler at work

A running factory keeps its pool full through a refill scheduler. At each
tick the scheduler runs a refill: it takes a snapshot of the empty buckets,
then goes through it bucket by bucket. It claims a bucket by moving it to
busy, which fails when the bucket changed state since the snapshot, and
hands a claimed bucket to the next of its fill workers, round robin. Each
worker has a channel with room for one request per bucket of the pool (and
at least one): a hand-over waits while the channel is full, and fails when
the channel is closed, which counts as an aborted fill and leaves the bucket
busy. A worker takes the requests of its channel one at a time, oldest
first, and fills the bucket. The fill draws and offers candidates as a fill
of a factory at work does; it ends by handing its batch to its bucket, or by
giving up or crashing, which counts as aborted and leaves the bucket busy.

Stopping the factory stops the ticks: a refill under way still finishes,
and the workers still serve what their channels hold. Starting it again
spawns a new scheduler with new workers and channels. Consumers allocate
batches meanwhile, and the warm-up may add keys to the filter.

Each of these steps takes a lock or one channel operation, so each is one
atomic step, and a run is any interleaving of them. Schedulers are named by
the order they were started in, and workers by their place in their
scheduler. A step that is not enabled changes nothing.
-/

/-- A fill worker of a scheduler: its channel, the bucket requests waiting in it, oldest first;
and the fill it runs, if any. -/
structure Worker where
  channel : List Nat := []
  fill : Option Fill := none

/-- A refill scheduler that was started: its workers; the number of requests it handed out,
which picks the next worker; the room in each channel; whether it still ticks; and the refill it
runs, if any: the buckets of the snapshot still to claim, and the bucket it claimed and has not
yet handed over. -/
structure Ticker where
  workers : List Worker
  handedOut : UInt64 := 0
  depth : Nat
  ticking : Bool := true
  snapshot : Option (List Nat) := none
  claimed : Option Nat := none

/-- The buckets a worker has taken on: the requests in its channel and the bucket it fills. -/
def Worker.outstanding (w : Worker) : List Nat :=
  w.channel ++ (w.fill.map Fill.bucket).toList

namespace Ticker

/-- A scheduler with `count` idle workers whose channels each have room for `depth` requests. -/
def spawn (count depth : Nat) : Ticker :=
  { workers := List.replicate count {}, depth := depth }

/-- The worker that receives the next request: the count handed out so far, wrapping at
`2^64`, modulo the number of workers. -/
def nextWorker (t : Ticker) : Nat :=
  t.handedOut.toNat % t.workers.length

/-- The requests waiting in the channels, worker by worker. -/
def queued (t : Ticker) : List Nat :=
  t.workers.flatMap Worker.channel

/-- The fills the workers run, worker by worker. -/
def fills (t : Ticker) : List Fill :=
  t.workers.flatMap fun w => w.fill.toList

/-- The buckets the scheduler has taken on and not finished: the one its refill claimed and has
not handed over, then worker by worker those waiting in the channel and the one being filled. -/
def outstanding (t : Ticker) : List Nat :=
  t.claimed.toList ++ t.workers.flatMap Worker.outstanding

end Ticker

namespace Fill

variable {σ : Type}

/-- A fill short of a batch, with no candidate in hand, draws one from the factory's source. -/
def draw [RandomSource σ] (f : Factory σ) (fill : Fill) : Factory σ × Option Fill :=
  let plan := f.config.fillPlan
  if fill.candidate.isNone ∧ fill.progress.accepted < plan.capacity then
    let (d, source) := plan.alphabet.draw plan.length f.source
    ({ f with source := source }, some { fill with candidate := some d.outcome })
  else (f, some fill)

/-- A fill offers its candidate to the filter as `FillPlan.absorb` does; a fill that gives up or
crashes is settled and ends. -/
def offer (f : Factory σ) (fill : Fill) : Factory σ × Option Fill :=
  match fill.candidate with
  | some d =>
    match f.config.fillPlan.absorb fill.progress d f.filter with
    | (.next progress, filter) =>
      ({ f with filter := filter }, some { fill with progress := progress, candidate := none })
    | (.stop outcome, filter) =>
      (({ f with filter := filter } : Factory σ).settle fill.bucket outcome, none)
  | none => (f, some fill)

/-- A fill that holds a batch hands it to its bucket and ends. -/
def publish (f : Factory σ) (fill : Fill) : Factory σ × Option Fill :=
  if fill.candidate.isNone ∧ f.config.fillPlan.capacity ≤ fill.progress.accepted then
    (f.settle fill.bucket
      (.filled fill.progress.ids.reverse fill.progress.rejected fill.progress.failedDraws), none)
  else (f, some fill)

/-- A fill holds as many identifiers as it accepted and no more than a batch, and has a
candidate in hand only while short of a batch. -/
structure Counted (capacity : Nat) (fill : Fill) : Prop where
  length_ids : fill.progress.ids.length = fill.progress.accepted
  accepted_le : fill.progress.accepted ≤ capacity
  short : fill.candidate.isSome → fill.progress.accepted < capacity

theorem counted_fresh (capacity bucket : Nat) : Counted capacity { bucket := bucket } where
  length_ids := rfl
  accepted_le := Nat.zero_le _
  short := by simp

/-- A complete fill holds a whole batch. -/
theorem Counted.length_batch
    {capacity : Nat}
    {fill : Fill}
    (counted : fill.Counted capacity)
    (complete : capacity ≤ fill.progress.accepted) :
    fill.progress.ids.reverse.length = capacity := by
  rw [List.length_reverse, counted.length_ids]
  exact Nat.le_antisymm counted.accepted_le complete


/-- A draw changes only the source and the candidate in hand. -/
theorem draw_spec
    [RandomSource σ]
    (f : Factory σ)
    (fill : Fill)
    (counted : fill.Counted f.config.bucketCapacity) :
    ∃ source next, draw f fill = ({ f with source := source }, some next) ∧
      next.bucket = fill.bucket ∧ next.Counted f.config.bucketCapacity := by
  unfold draw
  dsimp only
  split
  · rename_i enabled
    exact ⟨_, _, rfl, rfl,
      ⟨counted.length_ids, counted.accepted_le, fun _ => enabled.2⟩⟩
  · exact ⟨f.source, fill, rfl, rfl, counted⟩

/-- An offer either lets the fill go on, changing only the filter, or ends it as aborted. -/
theorem offer_cases
    (f : Factory σ)
    (fill : Fill)
    (counted : fill.Counted f.config.bucketCapacity) :
    (∃ filter next, offer f fill = ({ f with filter := filter }, some next) ∧
      next.bucket = fill.bucket ∧ next.Counted f.config.bucketCapacity) ∨
    ∃ filter outcome, (outcome = .crashed ∨ ∃ streak, outcome = .exhausted streak) ∧
      offer f fill = (({ f with filter := filter } : Factory σ).settle fill.bucket outcome, none) := by
  unfold offer
  split
  · rename_i d inHand
    rcases absorbed : f.config.fillPlan.absorb fill.progress d f.filter with ⟨result, filter⟩
    cases result with
    | next progress =>
        refine .inl ⟨filter, _, rfl, rfl, ?_⟩
        have shortBefore := counted.short (by simp [inHand])
        rcases FillPlan.absorb_next _ _ _ _ (congrArg Prod.fst absorbed) with
          ⟨id, -, idsIs, acceptedIs⟩ | ⟨idsIs, acceptedIs⟩
        · refine ⟨?_, ?_, by simp⟩
          · simp [idsIs, acceptedIs, counted.length_ids]
          · simp only [acceptedIs]
            exact shortBefore
        · exact ⟨by simp [idsIs, acceptedIs, counted.length_ids],
            by simpa [acceptedIs] using counted.accepted_le, by simp⟩
    | stop outcome =>
        refine .inr ⟨filter, outcome, ?_, rfl⟩
        rcases FillPlan.absorb_cases f.config.fillPlan fill.progress d f.filter with
          ⟨id, -, -, accepted⟩ | ⟨-, -, ⟨next, goesOn, -⟩ | ⟨ended, stops, aborted⟩⟩
        · rw [absorbed] at accepted
          cases accepted
        · rw [absorbed] at goesOn
          cases goesOn
        · rw [absorbed] at stops
          cases stops
          exact aborted
  · exact .inl ⟨f.filter, fill, rfl, rfl, counted⟩

/-- A publication either is not yet enabled, or settles a complete fill with its batch. -/
theorem publish_cases
    (f : Factory σ)
    (fill : Fill) :
    publish f fill = (f, some fill) ∨
      (fill.candidate = none ∧ f.config.bucketCapacity ≤ fill.progress.accepted ∧
        publish f fill = (f.settle fill.bucket
          (.filled fill.progress.ids.reverse fill.progress.rejected fill.progress.failedDraws),
          none)) := by
  unfold publish
  split
  · rename_i enabled
    exact .inr ⟨Option.isNone_iff_eq_none.mp enabled.1, enabled.2, rfl⟩
  · exact .inl rfl

end Fill

namespace Scheduling

/-- A factory with its schedulers, in the order they were started. -/
structure State (σ : Type) where
  factory : Factory σ
  tickers : List Ticker := []

/-- One atomic step: the warm-up adds a key to the filter; the factory starts or stops;
scheduler `t` takes the snapshot of a refill, claims the next bucket of it, or hands the claimed
bucket to its next worker, whose channel is open or closed; worker `w` of scheduler `t` takes a
request from its channel, or its fill draws, offers, or publishes; a consumer allocates. -/
inductive Event where
  | add (key : List UInt8)
  | start
  | stop
  | tick (t : Nat)
  | claim (t : Nat)
  | dispatch (t : Nat) (handedOver : Bool)
  | receive (t w : Nat)
  | draw (t w : Nat)
  | offer (t w : Nat)
  | publish (t w : Nat)
  | allocate

/-- Whether an event is an allocation. -/
def Event.isAllocate : Event → Bool
  | .allocate => true
  | _ => false

namespace State

variable {σ : Type}

/-- A factory with no scheduler started. -/
def start (f : Factory σ) : State σ :=
  { factory := f }

/-- Whether a scheduler ticks. -/
def ticking (s : State σ) : Bool :=
  s.tickers.any (·.ticking)

/-- Every request waiting in a channel, scheduler by scheduler. -/
def queued (s : State σ) : List Nat :=
  s.tickers.flatMap Ticker.queued

/-- Every fill under way, scheduler by scheduler. -/
def fills (s : State σ) : List Fill :=
  s.tickers.flatMap Ticker.fills

/-- Every bucket taken on by a scheduler and not finished. -/
def outstanding (s : State σ) : List Nat :=
  s.tickers.flatMap Ticker.outstanding

/-- Worker `w` of scheduler `t` runs its fill through one step of it. -/
def stepFill (s : State σ) (t w : Nat) (advance : Factory σ → Fill → Factory σ × Option Fill) :
    State σ :=
  match s.tickers[t]? with
  | some ticker =>
    match ticker.workers[w]? with
    | some ⟨channel, some fill⟩ =>
      let (f, fill) := advance s.factory fill
      { factory := f,
        tickers := s.tickers.set t { ticker with workers := ticker.workers.set w ⟨channel, fill⟩ } }
    | _ => s
  | none => s

/-- Worker `w` of scheduler `t` steps its fill. -/
theorem stepFill_eq
    {s : State σ}
    {t w : Nat}
    {ticker : Ticker}
    {channel : List Nat}
    {fill : Fill}
    (at_t : s.tickers[t]? = some ticker)
    (at_w : ticker.workers[w]? = some ⟨channel, some fill⟩)
    (advance : Factory σ → Fill → Factory σ × Option Fill) :
    s.stepFill t w advance =
      { factory := (advance s.factory fill).1,
        tickers := s.tickers.set t
          { ticker with workers := ticker.workers.set w ⟨channel, (advance s.factory fill).2⟩ } } := by
  simp [State.stepFill, at_t, at_w]

/-- Take one step. -/
def step [RandomSource σ] (s : State σ) : Event → State σ
  | .add key => { s with factory := { s.factory with filter := s.factory.filter.insert key } }
  | .start =>
    if s.ticking then s
    else
      let depth := max s.factory.pool.bucketCount 1
      { s with tickers := s.tickers ++ [Ticker.spawn s.factory.config.fillWorkers depth] }
  | .stop => { s with tickers := s.tickers.map fun t => { t with ticking := false } }
  | .tick t =>
    match s.tickers[t]? with
    | some ticker =>
      if ticker.ticking ∧ ticker.snapshot.isNone then
        let snapshot := s.factory.pool.listEmpty
        { s with tickers := s.tickers.set t { ticker with snapshot := some snapshot } }
      else s
    | none => s
  | .claim t =>
    match s.tickers[t]? with
    | some ticker =>
      match ticker.claimed, ticker.snapshot with
      | none, some (idx :: rest) =>
        match s.factory.pool.markBusy idx with
        | (true, pool) =>
          { factory := { s.factory with pool := pool },
            tickers := s.tickers.set t { ticker with snapshot := some rest, claimed := some idx } }
        | (false, _) => { s with tickers := s.tickers.set t { ticker with snapshot := some rest } }
      | none, some [] => { s with tickers := s.tickers.set t { ticker with snapshot := none } }
      | _, _ => s
    | none => s
  | .dispatch t handedOver =>
    match s.tickers[t]? with
    | some ticker =>
      match ticker.claimed, ticker.workers[ticker.nextWorker]? with
      | some idx, some worker =>
        let next := ticker.handedOut + 1
        if handedOver then
          -- the send waits while the channel is full
          if worker.channel.length < ticker.depth then
            let worker := { worker with channel := worker.channel ++ [idx] }
            let workers := ticker.workers.set ticker.nextWorker worker
            let ticker := { ticker with workers := workers, handedOut := next, claimed := none }
            { s with tickers := s.tickers.set t ticker }
          else s
        else
          let c := s.factory.counters
          { factory := { s.factory with counters := { c with fillsAborted := c.fillsAborted + 1 } },
            tickers := s.tickers.set t { ticker with handedOut := next, claimed := none } }
      | _, _ => s
    | none => s
  | .receive t w =>
    match s.tickers[t]? with
    | some ticker =>
      match ticker.workers[w]? with
      | some ⟨idx :: rest, none⟩ =>
        let workers := ticker.workers.set w ⟨rest, some { bucket := idx }⟩
        { s with tickers := s.tickers.set t { ticker with workers := workers } }
      | _ => s
    | none => s
  | .draw t w => s.stepFill t w Fill.draw
  | .offer t w => s.stepFill t w Fill.offer
  | .publish t w => s.stepFill t w Fill.publish
  | .allocate => { s with factory := s.factory.allocate.2 }

/-- Take the steps of a run, in order. -/
def run [RandomSource σ] (s : State σ) (events : List Event) : State σ :=
  events.foldl step s

end State

end Scheduling

end IdFactory
