import Mathlib.Data.List.Perm.Subperm
import IdFactory.Reserve.Shared
import IdFactory.Proofs.FreshBatches
import IdFactory.Proofs.SchedulerAccounting

namespace IdFactory.Reserve

open IdFactory.Random IdFactory.Filter List

/-!
# Identifiers through a shared reserve

Over every run of a reserve shared by any number of calls, whatever the
source answers and whatever the interleaving of the calls' steps:

* no identifier is lost or made twice: those the calls answered with, those
  held and those calls carry between their request and their append are, as
  a multiset, the identifiers of the batches the source gave;
* a call asks the source only after its pop found the reserve empty;
* a call that fails took nothing from the reserve, fails with the source's
  error, or with `poolExhausted` for an empty batch, and none of its steps
  changes what is held;
* served by a factory at work, no two calls answer with the same identifier.

The first three rest on one invariant (`Balanced`): the multiset equation,
and for each call what its stage says about its records (`Call.Consistent`).
A step changes one call, so what it does to the multisets is read off that
call (`count_flatMap_set`). The last adds the factory's own invariant and
that every batch the reserve was given is one the factory handed out.
-/

/-! ## One call replaced -/

/-- Replacing one call changes the count of an identifier in a view of all calls as it changes
the count in that call's view. -/
theorem count_flatMap_set
    {α : Type}
    {items : List α}
    {i : Nat}
    {old : α}
    (at_i : items[i]? = some old)
    (new : α)
    (image : α → List Identifier)
    (id : Identifier) :
    ((items.set i new).flatMap image).count id + (image old).count id =
      (items.flatMap image).count id + (image new).count id := by
  have moved := (Scheduling.perm_flatMap_set at_i new image (image new) (image old)
    perm_append_comm).count_eq id
  simpa only [count_append] using moved

/-! ## What a call's stage says about its records -/

namespace Call

/-- What a call's records are at each stage: a call at the lock has neither popped nor asked; a
call that asks found nothing; one that got a batch asked after finding nothing and carries, or
answered with, the batch's last identifier; one that answered from the reserve found that
identifier there and never asked; one that failed found nothing and was given the error or an
empty batch. -/
def Consistent (call : Call) : Prop :=
  match call.stage with
  | .waiting => call.found = none ∧ call.answer = none
  | .fetching => call.found = some none ∧ call.answer = none
  | .appending id rest => call.found = some none ∧ call.answer = some (.ok (rest ++ [id]))
  | .done (.ok id) =>
    (call.found = some (some id) ∧ call.answer = none) ∨
      (call.found = some none ∧ ∃ rest, call.answer = some (.ok (rest ++ [id])))
  | .done (.error e) =>
    call.found = some none ∧
      (call.answer = some (.error e) ∨ (call.answer = some (.ok []) ∧ e = .poolExhausted))

variable {call : Call}

theorem Consistent.eq_of_waiting (consistent : call.Consistent) (waiting : call.stage.isWaiting) :
    call = {} := by
  rcases call with ⟨stage, found, answer⟩
  cases stage <;> simp_all [Consistent, Stage.isWaiting]

theorem Consistent.eq_of_fetching (consistent : call.Consistent) (asking : call.stage.isFetching) :
    call = { stage := .fetching, found := some none } := by
  rcases call with ⟨stage, found, answer⟩
  cases stage <;> simp_all [Consistent, Stage.isFetching]

theorem Consistent.eq_of_appending
    (consistent : call.Consistent)
    {id : Identifier}
    {rest : List Identifier}
    (appending : call.stage = .appending id rest) :
    call = { stage := .appending id rest, found := some none, answer := some (.ok (rest ++ [id])) } := by
  rcases call with ⟨stage, found, answer⟩
  simp only at appending
  subst appending
  simp_all [Consistent]

/-- A call that asked the source had found the reserve empty. -/
theorem Consistent.found_of_answer (consistent : call.Consistent) (asked : call.answer.isSome) :
    call.found = some none := by
  rcases call with ⟨stage, found, answer⟩
  rcases stage with _ | _ | ⟨id, rest⟩ | ⟨e | id⟩ <;> simp_all [Consistent]
  rcases consistent with ⟨-, unasked⟩ | ⟨foundNothing, -⟩
  · simp [unasked] at asked
  · exact foundNothing

/-- Where a call stands once the source answers is consistent with that answer. -/
theorem consistent_afterFetch (answer : Except FactoryError (List Identifier)) :
    Consistent { stage := Stage.afterFetch answer, found := some none, answer := some answer } := by
  rcases answer with e | batch
  · simp [Consistent, Stage.afterFetch]
  · cases last : batch.getLast? with
    | none =>
        simp [Consistent, Stage.afterFetch, List.getLast?_eq_none_iff.mp last]
    | some id =>
        simp [Consistent, Stage.afterFetch, last, List.dropLast_append_getLast? id last]

/-- Once the source answers, a call carries exactly the batch it was given. -/
theorem carried_afterFetch (answer : Except FactoryError (List Identifier)) (found) :
    Call.carried { stage := Stage.afterFetch answer, found := found, answer := some answer } =
      Call.fetched { stage := Stage.afterFetch answer, found := found, answer := some answer } := by
  rcases answer with e | batch
  · simp [carried, fetched, Stage.afterFetch]
  · cases last : batch.getLast? with
    | none =>
        simp [carried, fetched, Stage.afterFetch, List.getLast?_eq_none_iff.mp last]
    | some id =>
        simp [carried, fetched, Stage.afterFetch, last, List.dropLast_append_getLast? id last]

theorem returned_afterFetch (answer : Except FactoryError (List Identifier)) (found) :
    Call.returned { stage := Stage.afterFetch answer, found := found, answer := some answer } =
      [] := by
  rcases answer with e | batch
  · simp [returned, Stage.afterFetch]
  · cases last : batch.getLast? <;> simp [returned, Stage.afterFetch, last]

end Call

/-! ## What a step can do -/

namespace Shared

variable {s : Shared}

/-- What a step can do: nothing, when it is not enabled; begin a call; or move one call on as its
stage allows. A pop that finds an identifier answers with it; a pop that finds nothing goes to
ask the source; a request records the source's answer; an append adds the rest of the batch to
what is held and answers with the identifier the call kept. -/
theorem step_cases (s : Shared) (event : Event) :
    s.step event = s ∨
      s.step event = { s with calls := s.calls ++ [{}] } ∨
      (∃ c call id, event = .pop c ∧ s.calls[c]? = some call ∧ call.stage.isWaiting ∧
        s.held.getLast? = some id ∧
        s.step event = ⟨s.held.dropLast, s.calls.set c ⟨.done (.ok id), some (some id), call.answer⟩⟩) ∨
      (∃ c call, event = .pop c ∧ s.calls[c]? = some call ∧ call.stage.isWaiting ∧
        s.held.getLast? = none ∧
        s.step event = ⟨s.held, s.calls.set c ⟨.fetching, some none, call.answer⟩⟩) ∨
      (∃ c call answer, event = .fetch c answer ∧ s.calls[c]? = some call ∧
        call.stage.isFetching ∧
        s.step event = ⟨s.held, s.calls.set c ⟨Stage.afterFetch answer, call.found, some answer⟩⟩) ∨
      (∃ c call id rest, event = .append c ∧ s.calls[c]? = some call ∧
        call.stage = .appending id rest ∧
        s.step event = ⟨s.held ++ rest, s.calls.set c ⟨.done (.ok id), call.found, call.answer⟩⟩) := by
  cases event with
  | call => exact .inr (.inl rfl)
  | pop c =>
      cases at_c : s.calls[c]? with
      | none => exact .inl (by simp [step, at_c])
      | some call =>
          by_cases waiting : call.stage.isWaiting
          · cases last : s.held.getLast? with
            | some id =>
                refine .inr (.inr (.inl ⟨c, call, id, rfl, at_c, waiting, rfl, ?_⟩))
                simp [step, at_c, waiting, last]
            | none =>
                refine .inr (.inr (.inr (.inl ⟨c, call, rfl, at_c, waiting, rfl, ?_⟩)))
                simp [step, at_c, waiting, last]
          · exact .inl (by simp [step, at_c, waiting])
  | fetch c answer =>
      cases at_c : s.calls[c]? with
      | none => exact .inl (by simp [step, at_c])
      | some call =>
          by_cases asking : call.stage.isFetching
          · refine .inr (.inr (.inr (.inr (.inl ⟨c, call, answer, rfl, at_c, asking, ?_⟩))))
            simp [step, at_c, asking]
          · exact .inl (by simp [step, at_c, asking])
  | append c =>
      cases at_c : s.calls[c]? with
      | none => exact .inl (by simp [step, at_c])
      | some call =>
          cases stageIs : call.stage with
          | appending id rest =>
              refine .inr (.inr (.inr (.inr (.inr ⟨c, call, id, rest, rfl, at_c, stageIs, ?_⟩))))
              simp [step, at_c, stageIs]
          | waiting => exact .inl (by simp [step, at_c, stageIs])
          | fetching => exact .inl (by simp [step, at_c, stageIs])
          | done result => exact .inl (by simp [step, at_c, stageIs])

/-! ## The invariant of a shared reserve -/

/-- What holds of every state of a run: the identifiers answered with, held and carried are,
as a multiset, those the source gave, and every call's records are consistent with its stage. -/
structure Balanced (s : Shared) : Prop where
  conserved : (s.returned ++ s.held ++ s.carried).Perm s.fetched
  consistent : ∀ call ∈ s.calls, call.Consistent

namespace Balanced

theorem empty : Balanced {} where
  conserved := by simp [returned, carried, fetched]
  consistent := by simp

/-- Replacing one call and what is held keeps the invariant when the new call is consistent and
the counts change alike on both sides. -/
theorem of_set
    (balanced : Balanced s)
    {c : Nat}
    {old : Call}
    (at_c : s.calls[c]? = some old)
    (new : Call)
    (held : List Identifier)
    (consistent : new.Consistent)
    (changed : ∀ id, new.returned.count id + held.count id + new.carried.count id +
      old.fetched.count id = old.returned.count id + s.held.count id + old.carried.count id +
      new.fetched.count id) :
    Balanced { held := held, calls := s.calls.set c new } where
  conserved := by
    rw [perm_iff_count]
    intro id
    have before := perm_iff_count.mp balanced.conserved id
    have answered := count_flatMap_set at_c new Call.returned id
    have carrying := count_flatMap_set at_c new Call.carried id
    have given := count_flatMap_set at_c new Call.fetched id
    have this := changed id
    simp only [returned, carried, fetched, count_append] at before answered carrying given ⊢
    omega
  consistent := by
    intro call member
    rcases mem_or_eq_of_mem_set member with kept | replaced
    · exact balanced.consistent call kept
    · exact replaced ▸ consistent

theorem call (balanced : Balanced s) : Balanced { s with calls := s.calls ++ [{}] } where
  conserved := by
    simpa [returned, carried, fetched, Call.returned, Call.carried, Call.fetched]
      using balanced.conserved
  consistent := by
    intro call member
    rcases mem_append.mp member with old | new
    · exact balanced.consistent call old
    · rw [mem_singleton.mp new]
      simp [Call.Consistent]

/-- A pop that finds an identifier answers with it: it leaves what is held for the answers. -/
theorem pop_found
    (balanced : Balanced s)
    {c : Nat}
    {call : Call}
    (at_c : s.calls[c]? = some call)
    (waiting : call.stage.isWaiting)
    {id : Identifier}
    (last : s.held.getLast? = some id) :
    Balanced ⟨s.held.dropLast, s.calls.set c ⟨.done (.ok id), some (some id), call.answer⟩⟩ := by
  obtain rfl := (balanced.consistent call (mem_of_getElem? at_c)).eq_of_waiting waiting
  refine balanced.of_set at_c _ _ (by simp [Call.Consistent]) ?_
  intro x
  have split := congrArg (count x) (dropLast_append_getLast? id last)
  rw [count_append] at split
  simp only [Call.returned, Call.carried, Call.fetched, count_nil]
  omega

theorem pop_empty
    (balanced : Balanced s)
    {c : Nat}
    {call : Call}
    (at_c : s.calls[c]? = some call)
    (waiting : call.stage.isWaiting) :
    Balanced ⟨s.held, s.calls.set c ⟨.fetching, some none, call.answer⟩⟩ := by
  obtain rfl := (balanced.consistent call (mem_of_getElem? at_c)).eq_of_waiting waiting
  refine balanced.of_set at_c _ _ (by simp [Call.Consistent]) ?_
  intro x
  simp [Call.returned, Call.carried, Call.fetched]

/-- A request leaves the call carrying what the source gave it. -/
theorem fetch
    (balanced : Balanced s)
    {c : Nat}
    {call : Call}
    (at_c : s.calls[c]? = some call)
    (asking : call.stage.isFetching)
    (answer : Except FactoryError (List Identifier)) :
    Balanced ⟨s.held, s.calls.set c ⟨Stage.afterFetch answer, call.found, some answer⟩⟩ := by
  obtain rfl := (balanced.consistent call (mem_of_getElem? at_c)).eq_of_fetching asking
  refine balanced.of_set at_c _ _ (Call.consistent_afterFetch answer) ?_
  intro x
  rw [Call.carried_afterFetch, Call.returned_afterFetch]
  simp [Call.returned, Call.carried, Call.fetched]

/-- An append moves the rest of the batch to what is held and the kept identifier to the
answers. -/
theorem append
    (balanced : Balanced s)
    {c : Nat}
    {call : Call}
    (at_c : s.calls[c]? = some call)
    {id : Identifier}
    {rest : List Identifier}
    (appending : call.stage = .appending id rest) :
    Balanced ⟨s.held ++ rest, s.calls.set c ⟨.done (.ok id), call.found, call.answer⟩⟩ := by
  obtain rfl := (balanced.consistent call (mem_of_getElem? at_c)).eq_of_appending appending
  refine balanced.of_set at_c _ _ (by simp [Call.Consistent]) ?_
  intro x
  simp only [Call.returned, Call.carried, Call.fetched, count_append]
  omega

theorem step (balanced : Balanced s) (event : Event) : Balanced (s.step event) := by
  rcases step_cases s event with same | added | ⟨c, call, id, -, at_c, waiting, last, stepped⟩ |
      ⟨c, call, -, at_c, waiting, -, stepped⟩ | ⟨c, call, answer, -, at_c, asking, stepped⟩ |
      ⟨c, call, id, rest, -, at_c, appending, stepped⟩
  · rw [same]
    exact balanced
  · rw [added]
    exact balanced.call
  · rw [stepped]
    exact balanced.pop_found at_c waiting last
  · rw [stepped]
    exact balanced.pop_empty at_c waiting
  · rw [stepped]
    exact balanced.fetch at_c asking answer
  · rw [stepped]
    exact balanced.append at_c appending

theorem run (balanced : Balanced s) (events : List Event) : Balanced (s.run events) := by
  induction events generalizing s with
  | nil =>
      exact balanced
  | cons event rest inductionHypothesis =>
      exact inductionHypothesis (balanced.step event)

end Balanced

/-! ## What a step does to the calls and to what is held -/

/-- A step leaves a call that has answered as it is. -/
theorem getElem?_step_of_done
    {c : Nat}
    {call : Call}
    (at_c : s.calls[c]? = some call)
    {result : Except FactoryError Identifier}
    (done : call.stage = .done result)
    (event : Event) :
    (s.step event).calls[c]? = some call := by
  have inBounds := (List.getElem?_eq_some_iff.mp at_c).1
  -- a step that moves a call on moves one that has not answered, so another one
  have other : ∀ {c'} {call' : Call} (new : Call), s.calls[c']? = some call' →
      (∀ result, call'.stage ≠ .done result) → (s.calls.set c' new)[c]? = some call := by
    intro c' call' new at' active
    have apart : c' ≠ c := by
      rintro rfl
      rw [at_c] at at'
      cases at'
      exact active result done
    rw [getElem?_set_ne apart, at_c]
  rcases step_cases s event with same | added | ⟨c', call', id, -, at', waiting, -, stepped⟩ |
      ⟨c', call', -, at', waiting, -, stepped⟩ | ⟨c', call', answer, -, at', asking, stepped⟩ |
      ⟨c', call', id, rest, -, at', appending, stepped⟩
  · rw [same]
    exact at_c
  · rw [added]
    simp [getElem?_append_left inBounds, at_c]
  · rw [stepped]
    exact other _ at' fun result stageIs => by simp [stageIs, Stage.isWaiting] at waiting
  · rw [stepped]
    exact other _ at' fun result stageIs => by simp [stageIs, Stage.isWaiting] at waiting
  · rw [stepped]
    exact other _ at' fun result stageIs => by simp [stageIs, Stage.isFetching] at asking
  · rw [stepped]
    exact other _ at' fun result stageIs => by simp [stageIs] at appending

/-- A run leaves a call that has answered as it is. -/
theorem getElem?_run_of_done
    {c : Nat}
    {call : Call}
    (at_c : s.calls[c]? = some call)
    {result : Except FactoryError Identifier}
    (done : call.stage = .done result)
    (events : List Event) :
    (s.run events).calls[c]? = some call := by
  induction events generalizing s with
  | nil =>
      exact at_c
  | cons event rest inductionHypothesis =>
      exact inductionHypothesis (getElem?_step_of_done at_c done event)

/-- A step changes what is held only by answering its call with an identifier. -/
theorem held_step (s : Shared) (event : Event) :
    (s.step event).held = s.held ∨ ∃ c call id, event.caller = some c ∧
      (s.step event).calls[c]? = some call ∧ call.stage = .done (.ok id) := by
  rcases step_cases s event with same | added | ⟨c, call, id, rfl, at_c, -, -, stepped⟩ |
      ⟨_, _, -, -, -, -, stepped⟩ | ⟨_, _, _, -, -, -, stepped⟩ |
      ⟨c, call, id, rest, rfl, at_c, -, stepped⟩
  · rw [same]
    exact .inl rfl
  · rw [added]
    exact .inl rfl
  · -- the pop hands out the last identifier held
    have inBounds := (List.getElem?_eq_some_iff.mp at_c).1
    refine .inr ⟨c, ⟨.done (.ok id), some (some id), call.answer⟩, id, rfl, ?_, rfl⟩
    rw [stepped]
    exact getElem?_set_self inBounds
  · rw [stepped]
    exact .inl rfl
  · rw [stepped]
    exact .inl rfl
  · -- the append ends the call with the identifier it kept
    have inBounds := (List.getElem?_eq_some_iff.mp at_c).1
    refine .inr ⟨c, ⟨.done (.ok id), call.found, call.answer⟩, id, rfl, ?_, rfl⟩
    rw [stepped]
    exact getElem?_set_self inBounds

/-- Every step of a call that ends in failure leaves what is held as it was. -/
theorem held_step_of_fails
    {events : List Event}
    {k : Nat}
    {event : Event}
    (at_k : events[k]? = some event)
    {c : Nat}
    (caller : event.caller = some c)
    {e : FactoryError}
    (fails : ((s.run events).calls[c]?).map Call.stage = some (.done (.error e))) :
    (s.run (events.take (k + 1))).held = (s.run (events.take k)).held := by
  have stepped : s.run (events.take (k + 1)) = (s.run (events.take k)).step event := by
    rw [take_add_one, at_k, run, Option.toList_some, foldl_append]
    rfl
  rw [stepped]
  rcases held_step (s.run (events.take k)) event with same | ⟨c', call, id, caller', at_c, answered⟩
  · exact same
  · -- had the step changed what is held, the call would have answered with an identifier
    rw [caller] at caller'
    cases caller'
    have whole : s.run events = ((s.run (events.take k)).step event).run (events.drop (k + 1)) := by
      rw [← stepped, run, run, run, ← foldl_append, take_append_drop]
    rw [whole, getElem?_run_of_done at_c answered] at fails
    simp [answered] at fails


/-- Setting a call that keeps its answer keeps the batches the source gave. -/
theorem fetched_set
    {c : Nat}
    {old : Call}
    (at_c : s.calls[c]? = some old)
    (new : Call)
    (same : new.answer = old.answer) :
    (s.calls.set c new).flatMap Call.fetched ~ s.fetched := by
  rw [perm_iff_count]
  intro id
  have moved := count_flatMap_set at_c new Call.fetched id
  simp only [Call.fetched, same] at moved
  simp only [fetched]
  omega

/-- Only a request adds to the batches the source gave. -/
theorem fetched_step_of_not_fetch
    (event : Event)
    (notFetch : ∀ c answer, event ≠ .fetch c answer) :
    (s.step event).fetched ~ s.fetched := by
  rcases step_cases s event with same | added | ⟨c, call, id, -, at_c, -, -, stepped⟩ |
      ⟨c, call, -, at_c, -, -, stepped⟩ | ⟨c, call, answer, request, -, -, -⟩ |
      ⟨c, call, id, rest, -, at_c, -, stepped⟩
  · rw [same]
  · rw [added]
    simp [fetched, Call.fetched]
  · rw [stepped]
    exact fetched_set at_c _ rfl
  · rw [stepped]
    exact fetched_set at_c _ rfl
  · exact absurd request (notFetch c answer)
  · rw [stepped]
    exact fetched_set at_c _ rfl

/-- A request adds the batch the source gave, if it gave one. -/
theorem fetched_step_fetch
    (balanced : Balanced s)
    {c : Nat}
    (asking : s.fetching c)
    (answer : Except FactoryError (List Identifier)) :
    (s.step (.fetch c answer)).fetched ~ s.fetched ++ Call.fetched { answer := some answer } := by
  unfold fetching at asking
  cases at_c : s.calls[c]? with
  | none => simp [at_c] at asking
  | some call =>
      rw [at_c] at asking
      obtain rfl := (balanced.consistent call (mem_of_getElem? at_c)).eq_of_fetching asking
      rw [perm_iff_count]
      intro id
      have moved := count_flatMap_set at_c
        ⟨Stage.afterFetch answer, some none, some answer⟩ Call.fetched id
      simp only [step, at_c, Stage.isFetching, if_true, fetched, count_append]
      simp only [Call.fetched, count_nil] at moved ⊢
      omega

end Shared

end IdFactory.Reserve

/-! ## Batches handed out by a factory at work -/

namespace IdFactory.Concurrent.State

open IdFactory.Random

variable {σ : Type} [RandomSource σ]

/-- An allocation hands out the batch the factory allocated, if it allocated one. -/
theorem issued_step_allocate (s : State σ) :
    (s.step .allocate).issued = s.issued ++ (match s.factory.allocate.1 with
      | .ok ids => [ids]
      | .error _ => []) := by
  simp only [State.step]
  split <;> rename_i answered <;> simp [answered]

/-- A step only ever adds to the batches handed out. -/
theorem issued_step (s : State σ) (event : Event) :
    ∃ more, (s.step event).issued = s.issued ++ more := by
  cases event with
  | allocate => exact ⟨_, issued_step_allocate s⟩
  | add key => exact ⟨[], by simp [State.step]⟩
  | claim idx handedOver =>
      refine ⟨[], ?_⟩
      simp only [State.step]
      split
      · split <;> simp
      · simp
  | draw i =>
      refine ⟨[], ?_⟩
      simp only [State.step]
      split
      · split <;> simp
      · simp
  | offer i =>
      refine ⟨[], ?_⟩
      simp only [State.step]
      split
      · split <;> simp
      · simp
  | publish i =>
      refine ⟨[], ?_⟩
      simp only [State.step]
      split
      · split <;> simp
      · simp

end IdFactory.Concurrent.State

/-! ## A reserve served by a factory at work -/

namespace IdFactory.Reserve.Serving

open IdFactory.Random IdFactory.Filter List

variable {σ : Type}

/-- What holds of every state of a run of a reserve served by a factory: the factory is sound,
the reserve balanced, and the batches the reserve was given are among those the factory handed
out. -/
structure Supplied (origin : Bloom) (config : FactoryConfig) (s : Serving σ) : Prop where
  sound : Concurrent.Sound origin config s.work
  balanced : s.reserve.Balanced
  handedOut : s.reserve.fetched.Subperm s.work.issued.flatten

namespace Supplied

variable {origin : Bloom} {config : FactoryConfig} {s : Serving σ}

theorem start (hash : List UInt8 → Lanes) (config : FactoryConfig) (source : σ)
    (history : History) :
    Supplied ((Factory.build hash config source).prepare history).2.filter config
      (Serving.start ((Factory.build hash config source).prepare history).2) := by
  obtain ⟨filter, warmedIs, -, -⟩ := (Factory.build hash config source).prepare_spec history
  refine ⟨Concurrent.Sound.start ?_ ?_ ?_, Shared.Balanced.empty, ?_⟩
  · rw [warmedIs]
    simp [Factory.build]
  · rw [warmedIs]
    simp [Factory.build, Pool.new]
  · rw [warmedIs]
    simp [Factory.build]
  · simp [Serving.start, Concurrent.State.start, Shared.fetched]

/-- A step of a call that is not a request keeps the invariant. -/
theorem ofReserve
    (supplied : Supplied origin config s)
    (event : Shared.Event)
    (notFetch : ∀ c answer, event ≠ .fetch c answer) :
    Supplied origin config { s with reserve := s.reserve.step event } where
  sound := supplied.sound
  balanced := supplied.balanced.step event
  handedOut := (Shared.fetched_step_of_not_fetch event notFetch).subperm.trans supplied.handedOut

/-- A request is an allocation: the batch the reserve is given is the one the factory hands
out. -/
theorem fetch [RandomSource σ] (supplied : Supplied origin config s) (c : Nat) :
    Supplied origin config (s.step (.fetch c)) := by
  by_cases asking : s.reserve.fetching c
  · have stepped : s.step (.fetch c) =
        ⟨s.work.step .allocate, s.reserve.step (.fetch c s.work.factory.allocate.1)⟩ := by
      simp only [Serving.step, asking, if_true]
      rfl
    rw [stepped]
    refine ⟨supplied.sound.step .allocate,
      supplied.balanced.step (.fetch c s.work.factory.allocate.1), ?_⟩
    have given := Shared.fetched_step_fetch supplied.balanced asking s.work.factory.allocate.1
    have issued := s.work.issued_step_allocate
    show (s.reserve.step (.fetch c s.work.factory.allocate.1)).fetched.Subperm
      (s.work.step .allocate).issued.flatten
    cases answered : s.work.factory.allocate.1 with
    | ok ids =>
        rw [answered] at given issued
        rw [issued, flatten_append, flatten_singleton]
        exact given.subperm.trans (supplied.handedOut.append (Subperm.refl ids))
    | error e =>
        rw [answered] at given issued
        rw [issued, append_nil]
        simp only [Call.fetched, append_nil] at given
        exact given.subperm.trans supplied.handedOut
  · have stepped : s.step (.fetch c) = s := by
      simp [Serving.step, asking]
    rw [stepped]
    exact supplied

theorem step [RandomSource σ] (supplied : Supplied origin config s) (event : Event) :
    Supplied origin config (s.step event) := by
  cases event with
  | work event =>
      obtain ⟨more, grown⟩ := s.work.issued_step event
      exact {
        sound := supplied.sound.step event
        balanced := supplied.balanced
        handedOut := by
          show s.reserve.fetched.Subperm (s.work.step event).issued.flatten
          rw [grown, flatten_append]
          exact supplied.handedOut.trans (sublist_append_left _ _).subperm }
  | call => exact supplied.ofReserve .call (fun _ _ => nofun)
  | pop c => exact supplied.ofReserve (.pop c) (fun _ _ => nofun)
  | fetch c => exact supplied.fetch c
  | append c => exact supplied.ofReserve (.append c) (fun _ _ => nofun)

theorem run [RandomSource σ] (supplied : Supplied origin config s) (events : List Event) :
    Supplied origin config (s.run events) := by
  induction events generalizing s with
  | nil =>
      exact supplied
  | cons event rest inductionHypothesis =>
      exact inductionHypothesis (supplied.step event)

/-- The identifiers the calls answered with are among those the factory handed out. -/
theorem returned_subperm (supplied : Supplied origin config s) :
    s.reserve.returned.Subperm s.work.issued.flatten := by
  have answered : s.reserve.returned <+
      s.reserve.returned ++ s.reserve.held ++ s.reserve.carried :=
    (sublist_append_left _ _).trans (sublist_append_left _ _)
  exact answered.subperm.trans (supplied.balanced.conserved.subperm.trans supplied.handedOut)

/-- No two calls answer with the same identifier. -/
theorem nodup_returned (supplied : Supplied origin config s) : s.reserve.returned.Nodup := by
  have issuedOnce : s.work.issued.flatten.Nodup :=
    supplied.sound.nodup_held.sublist ((sublist_append_left _ _).trans (sublist_append_left _ _))
  obtain ⟨reordered, perm, sub⟩ := supplied.returned_subperm
  exact perm.nodup_iff.mp (issuedOnce.sublist sub)

end Supplied

end IdFactory.Reserve.Serving

namespace IdFactory.Reserve

open IdFactory.Random List

/--
Over every run of a reserve shared by any number of calls, whatever the
source answers and in any interleaving of the calls' pops, requests and
appends: the identifiers answered with, still held, and carried between a
request and its append are, as a multiset, exactly those of the batches the
source gave; a call asks the source only after its pop found the reserve
empty; a call that fails took nothing from the reserve and fails with the
source's error, or with `poolExhausted` for an empty batch; and no step of a
call that fails changes what is held. Served by a factory at work, from the
factory a configuration builds over any hash and a warm-up prepares, with
the factory's own steps interleaved, every batch the reserve is given is one
the factory handed out, and no two calls answer with the same identifier.
-/
theorem run_conserves_fetched_identifiers :
    (∀ events : List Shared.Event,
      let s := ({} : Shared).run events
      (s.returned ++ s.held ++ s.carried).Perm s.fetched ∧
        (∀ call ∈ s.calls, call.answer.isSome → call.found = some none) ∧
        (∀ call ∈ s.calls, ∀ e, call.stage = .done (.error e) →
          call.found = some none ∧
            (call.answer = some (.error e) ∨ (call.answer = some (.ok []) ∧ e = .poolExhausted))) ∧
        ∀ c e, (s.calls[c]?).map Call.stage = some (.done (.error e)) →
          ∀ k event, events[k]? = some event → event.caller = some c →
            (({} : Shared).run (events.take (k + 1))).held =
              (({} : Shared).run (events.take k)).held) ∧
    ∀ {σ : Type} [RandomSource σ] (hash : List UInt8 → Filter.Lanes) (config : FactoryConfig)
      (source : σ) (history : History) (events : List Serving.Event),
      let s := (Serving.start ((Factory.build hash config source).prepare history).2).run events
      s.reserve.fetched.Subperm s.work.issued.flatten ∧ s.reserve.returned.Nodup := by
  refine ⟨?_, ?_⟩
  · intro events s
    have balanced : s.Balanced := Shared.Balanced.empty.run events
    refine ⟨balanced.conserved, ?_, ?_, ?_⟩
    · intro call member asked
      exact (balanced.consistent call member).found_of_answer asked
    · intro call member e failed
      have consistent := balanced.consistent call member
      simpa only [Call.Consistent, failed] using consistent
    · intro c e fails k event at_k caller
      exact Shared.held_step_of_fails at_k caller fails
  · intro σ _ hash config source history events s
    have supplied := (Serving.Supplied.start hash config source history).run events
    exact ⟨supplied.handedOut, supplied.nodup_returned⟩

end IdFactory.Reserve
