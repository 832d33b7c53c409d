import IdFactory.Reserve
import IdFactory.Remote.Client
import IdFactory.Factory.Concurrent

namespace IdFactory

open IdFactory.Random

/-!
# A reserve shared by concurrent calls

Many callers may ask one reserve for an identifier at once. A call takes the
lock and pops the last identifier held; if there was one, that is its
answer. If the reserve was empty, the call lets go of the lock and asks the
source for a batch. A failed request, or an empty batch, ends the call with
that failure. Otherwise the call keeps the batch's last identifier, takes the
lock again to append the others to what is held, and answers with the one it
kept. Calls that all find the reserve empty each fetch a batch, so the rest
of several batches may end up held side by side.

Each lock-protected step and each request to the source is one atomic step,
and a run is any interleaving of the steps of any number of calls. The
source's answer to a request is a parameter of the step, so the runs cover
every behaviour of a source. Beside its stage, each call records what its
pop found and what the source answered it; no step reads these.

A reserve whose source is a factory at work (`Serving`) asks the factory to
allocate at each request, while the factory's own steps interleave with the
calls.
-/

namespace Reserve

/-- How far a call has got. -/
inductive Stage where
  /-- Not yet at the lock. -/
  | waiting
  /-- Found nothing held and asking the source. -/
  | fetching
  /-- Keeping `id`, the last of the batch the source gave, and about to append `rest`, the
  others. -/
  | appending (id : Identifier) (rest : List Identifier)
  /-- Answered. -/
  | done (result : Except FactoryError Identifier)

/-- Whether a call is at the lock for its pop. -/
def Stage.isWaiting : Stage → Bool
  | .waiting => true
  | _ => false

/-- Whether a call is asking the source. -/
def Stage.isFetching : Stage → Bool
  | .fetching => true
  | _ => false

/-- Where a call stands once the source answers: failed with the source's error, failed with
`poolExhausted` on an empty batch, or keeping the batch's last identifier to append the rest. -/
def Stage.afterFetch : Except FactoryError (List Identifier) → Stage
  | .error e => .done (.error e)
  | .ok batch =>
    match batch.getLast? with
    | some id => .appending id batch.dropLast
    | none => .done (.error .poolExhausted)

/-- A call: its stage, what its pop found once it has been at the lock, and what the source
answered once it asked. -/
structure Call where
  stage : Stage := .waiting
  found : Option (Option Identifier) := none
  answer : Option (Except FactoryError (List Identifier)) := none

namespace Call

/-- The identifier a call answered with, if it succeeded. -/
def returned (call : Call) : List Identifier :=
  match call.stage with
  | .done (.ok id) => [id]
  | _ => []

/-- The identifiers a call holds between its request and its append. -/
def carried (call : Call) : List Identifier :=
  match call.stage with
  | .appending id rest => rest ++ [id]
  | _ => []

/-- The batch the source gave a call, if it gave one. -/
def fetched (call : Call) : List Identifier :=
  match call.answer with
  | some (.ok batch) => batch
  | _ => []

end Call

/-- A reserve shared by concurrent calls: the identifiers held and the calls made so far. -/
structure Shared where
  held : List Identifier := []
  calls : List Call := []

namespace Shared

/-- One atomic step: a new call begins; call `c` pops under the lock; call `c` gets `answer`
from the source; call `c` appends the rest of its batch under the lock. -/
inductive Event where
  | call
  | pop (c : Nat)
  | fetch (c : Nat) (answer : Except FactoryError (List Identifier))
  | append (c : Nat)

/-- The call a step belongs to. -/
def Event.caller : Event → Option Nat
  | .call => none
  | .pop c => some c
  | .fetch c _ => some c
  | .append c => some c

/-- Whether call `c` is asking the source. -/
def fetching (s : Shared) (c : Nat) : Bool :=
  match s.calls[c]? with
  | some call => call.stage.isFetching
  | none => false

/-- Take a step; one that is not enabled changes nothing. -/
def step (s : Shared) : Event → Shared
  | .call => { s with calls := s.calls ++ [{}] }
  | .pop c =>
    match s.calls[c]? with
    | some call =>
      if call.stage.isWaiting then
        match s.held.getLast? with
        | some id =>
          { held := s.held.dropLast,
            calls := s.calls.set c { call with stage := .done (.ok id), found := some (some id) } }
        | none =>
          { s with calls := s.calls.set c { call with stage := .fetching, found := some none } }
      else s
    | none => s
  | .fetch c answer =>
    match s.calls[c]? with
    | some call =>
      if call.stage.isFetching then
        let answered := { call with stage := Stage.afterFetch answer, answer := some answer }
        { s with calls := s.calls.set c answered }
      else s
    | none => s
  | .append c =>
    match s.calls[c]? with
    | some call =>
      match call.stage with
      | .appending id rest =>
        { held := s.held ++ rest, calls := s.calls.set c { call with stage := .done (.ok id) } }
      | _ => s
    | none => s

/-- Take the steps of a run, in order. -/
def run (s : Shared) (events : List Event) : Shared :=
  events.foldl step s

/-- The identifiers the calls answered with. -/
def returned (s : Shared) : List Identifier :=
  s.calls.flatMap Call.returned

/-- The identifiers calls hold between their request and their append. -/
def carried (s : Shared) : List Identifier :=
  s.calls.flatMap Call.carried

/-- The identifiers of all batches the source gave. -/
def fetched (s : Shared) : List Identifier :=
  s.calls.flatMap Call.fetched

/-- A call that runs alone, its steps back to back, does what `Reserve.next` does. -/
theorem run_alone {β : Type} [BatchSource β] (held : List Identifier) (source : β) :
    let s := ({ held := held, calls := [{}] } : Shared).run
      [.pop 0, .fetch 0 (BatchSource.fetch source).1, .append 0]
    s.held = ((⟨held⟩ : Reserve).next source).2.1.held ∧
      s.calls.map Call.stage = [.done ((⟨held⟩ : Reserve).next source).1] := by
  intro s
  cases last : held.getLast? with
  | some id =>
      simp [s, run, step, Reserve.next, last, Stage.isWaiting, Stage.isFetching]
  | none =>
      -- the pop finds nothing, so the source's answer decides the call
      rcases fetched : BatchSource.fetch source with ⟨answer, after⟩
      rcases answer with e | batch
      · simp [s, run, step, Reserve.next, last, fetched, Stage.isWaiting, Stage.isFetching,
          Stage.afterFetch]
      · cases batchLast : batch.getLast? <;>
          simp [s, run, step, Reserve.next, last, fetched, batchLast, Stage.isWaiting,
            Stage.isFetching, Stage.afterFetch]

end Shared

/-- A reserve whose source is a factory at work. -/
structure Serving (σ : Type) where
  work : Concurrent.State σ
  reserve : Shared := {}

namespace Serving

/-- One atomic step: a step of the factory, or a step of a call on the reserve, whose request is
an allocation of the factory. -/
inductive Event where
  | work (event : Concurrent.Event)
  | call
  | pop (c : Nat)
  | fetch (c : Nat)
  | append (c : Nat)

variable {σ : Type} [RandomSource σ]

/-- A factory at work with an empty reserve and no call made. -/
def start (f : Factory σ) : Serving σ :=
  { work := Concurrent.State.start f }

/-- Take a step; a request of a call that is not asking changes nothing. -/
def step (s : Serving σ) : Event → Serving σ
  | .work event => { s with work := s.work.step event }
  | .call => { s with reserve := s.reserve.step .call }
  | .pop c => { s with reserve := s.reserve.step (.pop c) }
  | .fetch c =>
    if s.reserve.fetching c then
      { work := s.work.step .allocate,
        reserve := s.reserve.step (.fetch c (BatchSource.fetch s.work.factory).1) }
    else s
  | .append c => { s with reserve := s.reserve.step (.append c) }

/-- Take the steps of a run, in order. -/
def run (s : Serving σ) (events : List Event) : Serving σ :=
  events.foldl step s

end Serving

end Reserve

end IdFactory
