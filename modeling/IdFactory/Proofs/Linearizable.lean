import Mathlib.Data.List.Basic
import IdFactory.Filter.Membership
import IdFactory.Proofs.NoFalseNegatives

namespace IdFactory.Filter.Membership.State

open List

/-!
# The shared filter is linearizable

Each call on the shared filter takes effect at its last step, its
linearization point: an addition at its only step, an offer that finds its
key present at its read-locked check, and any other offer at its
write-locked step. Over every schedule, the answers of the calls that have
ended and the filter are those of making the same calls one after the other
in the order they ended. The read-locked check agrees with the write-locked
insertion because a key reported present is refused by it too, and changes
nothing.

Two consequences follow from the fact that every key answered `true` stays
reported present. At most one offer of a key is accepted, and an offer that
begins after an addition of its key, or after an accepted offer of it, has
ended, is refused at once.
-/

/-! ## What a step does -/

/--
A step does one of three things. It does nothing; or it begins an offer
whose key is absent, which then waits for the write lock; or it ends a call
as making that call on the filter would, beginning the call too if it had
not begun.
-/
theorem step_cases
    (s : State)
    (i : Nat) :
    step s i = s ∨
      (∃ key, s.calls[i]? = some (.insertIfAbsent key) ∧ s.stages[i]? = some .ready ∧
        s.filter.contains key = false ∧
        step s i = { s with stages := s.stages.set i .checked,
                            history := s.history ++ [.began i] }) ∨
      (∃ call, ∃ fresh : Bool, s.calls[i]? = some call ∧
        s.stages[i]? = some (if fresh then .ready else .checked) ∧
        step s i = { s with filter := (s.filter.perform call).2,
                            stages := s.stages.set i (.done (s.filter.perform call).1),
                            history := s.history ++
                              ((if fresh then [.began i] else []) ++ [.ended i]) }) := by
  unfold step
  split
  · rename_i key callIs stageIs
    exact .inr (.inr ⟨.insert key, true, callIs, stageIs, rfl⟩)
  · rename_i key callIs stageIs
    split
    · rename_i present
      refine .inr (.inr ⟨.insertIfAbsent key, true, callIs, stageIs, ?_⟩)
      simp [Bloom.perform, Bloom.insertIfAbsent_of_contains present]
    · rename_i absent
      exact .inr (.inl ⟨key, callIs, stageIs, by simpa using absent, rfl⟩)
  · rename_i key callIs stageIs
    exact .inr (.inr ⟨.insertIfAbsent key, false, callIs, stageIs, rfl⟩)
  · exact .inl rfl

/-- A call is ended in the history exactly when its moment of ending is there. -/
theorem mem_ended
    {s : State}
    {i : Nat} :
    i ∈ s.ended ↔ Moment.ended i ∈ s.history := by
  simp only [ended, List.mem_filterMap]
  constructor
  · rintro ⟨moment, member, extracted⟩
    cases moment with
    | ended j =>
        cases extracted
        exact member
    | began j =>
        cases extracted
  · intro member
    exact ⟨.ended i, member, rfl⟩

theorem answer?_set
    (s : State)
    (i j : Nat)
    (stage : Stage)
    (inRange : i < s.stages.length)
    (filter : Bloom)
    (history : List Moment) :
    ({ s with filter := filter, stages := s.stages.set i stage, history := history }).answer? j =
      if j = i then (match stage with | .done answer => some answer | _ => none)
      else s.answer? j := by
  by_cases same : j = i
  · subst same
    simp only [answer?, List.getElem?_set_self inRange, if_true]
    cases stage <;> rfl
  · simp only [answer?, List.getElem?_set_ne (Ne.symm same), same, if_false]

theorem answer?_of_stage
    {s : State}
    {i : Nat}
    (waiting : s.stages[i]? = some .ready ∨ s.stages[i]? = some .checked) :
    s.answer? i = none := by
  rcases waiting with stageIs | stageIs <;> simp [answer?, stageIs]

/-- Two moments in order in a list split in two lie in the first part, across, or in the second. -/
theorem pair_sublist_append
    {first second : Moment}
    {older newer : List Moment}
    (ordered : [first, second] <+ older ++ newer) :
    [first, second] <+ older ∨ (first ∈ older ∧ second ∈ newer) ∨ [first, second] <+ newer := by
  obtain ⟨front, back, split, frontSub, backSub⟩ := List.sublist_append_iff.mp ordered
  match front, back, split with
  | [], _, rfl =>
      exact .inr (.inr backSub)
  | [_], [_], rfl =>
      exact .inr (.inl ⟨frontSub.subset (by simp), backSub.subset (by simp)⟩)
  | [_, _], [], rfl =>
      exact .inl frontSub

/-! ## The invariant -/

/--
What holds along every run of `calls` on a filter that started as `origin`.
The calls that have ended are exactly those with an answer, each once. The
answers and the filter are those of making the ended calls one after the
other, in the order they ended. Every call answered `true` has its key
reported present. At most one offer of a key is accepted, and an offer that
began after a call answered `true` on its key had ended was refused.
-/
structure Linearized
    (origin : Bloom)
    (calls : List Bloom.Call)
    (s : State) : Prop where
  sameCalls : s.calls = calls
  stagesLength : s.stages.length = calls.length
  endedDone : ∀ i, i ∈ s.ended ↔ ∃ answer, s.stages[i]? = some (.done answer)
  endedOnce : s.ended.Nodup
  sequential :
    origin.replay (s.ended.filterMap (calls[·]?)) = (s.ended.filterMap s.answer?, s.filter)
  acceptedPresent :
    ∀ i call, calls[i]? = some call → s.answer? i = some true → s.filter.contains call.key = true
  acceptedOnce :
    ∀ i j key, calls[i]? = some (.insertIfAbsent key) → calls[j]? = some (.insertIfAbsent key) →
      s.answer? i = some true → s.answer? j = some true → i = j
  realTime :
    ∀ i j key, (calls[i]?).map Bloom.Call.key = some key → s.answer? i = some true →
      calls[j]? = some (.insertIfAbsent key) → [Moment.ended i, .began j] <+ s.history →
        s.answer? j = some false

namespace Linearized

variable {origin : Bloom} {calls : List Bloom.Call} {s : State}

theorem not_mem_ended
    (inv : Linearized origin calls s)
    {i : Nat}
    (waiting : s.stages[i]? = some .ready ∨ s.stages[i]? = some .checked) :
    i ∉ s.ended := by
  intro member
  obtain ⟨answer, stageIs⟩ := (inv.endedDone i).mp member
  rcases waiting with waitingIs | waitingIs <;> simp [waitingIs] at stageIs

/-- A call answered `true` has its key reported present. -/
theorem present_of_answered
    (inv : Linearized origin calls s)
    {x : Nat}
    {key : List UInt8}
    (keyOf : (calls[x]?).map Bloom.Call.key = some key)
    (answered : s.answer? x = some true) :
    s.filter.contains key = true := by
  obtain ⟨call, callOf, keyIs⟩ := Option.map_eq_some_iff.mp keyOf
  rw [← keyIs]
  exact inv.acceptedPresent x call callOf answered

theorem stage_start
    (i : Nat)
    (answer : Bool) :
    (State.start origin calls).stages[i]? ≠ some (.done answer) := by
  simp only [State.start, List.getElem?_map]
  cases calls[i]? <;> simp

theorem answer?_start
    (i : Nat) :
    (State.start origin calls).answer? i = none := by
  unfold answer?
  split
  · rename_i answer stageIs
    exact absurd stageIs (stage_start i answer)
  · rfl

theorem start :
    Linearized origin calls (State.start origin calls) where
  sameCalls := rfl
  stagesLength := by simp [State.start]
  endedDone := by
    intro i
    constructor
    · intro member
      simp [State.start, ended] at member
    · rintro ⟨answer, stageIs⟩
      exact absurd stageIs (stage_start i answer)
  endedOnce := by simp [State.start, ended]
  sequential := by simp [State.start, ended]
  acceptedPresent := by
    intro i call _ answered
    simp [answer?_start] at answered
  acceptedOnce := by
    intro i j key _ _ answered
    simp [answer?_start] at answered
  realTime := by
    intro i j key _ answered
    simp [answer?_start] at answered

/--
An offer whose key is absent under the read lock begins and waits: no call
ends, no answer changes, and the filter stays as it was.
-/
theorem of_check
    (inv : Linearized origin calls s)
    {i : Nat}
    {key : List UInt8}
    (callIs : s.calls[i]? = some (.insertIfAbsent key))
    (stageIs : s.stages[i]? = some .ready)
    (absent : s.filter.contains key = false) :
    Linearized origin calls
      { s with stages := s.stages.set i .checked, history := s.history ++ [.began i] } := by
  have inRange : i < s.stages.length := (List.getElem?_eq_some_iff.mp stageIs).1
  set waiting : State :=
    { s with stages := s.stages.set i .checked, history := s.history ++ [.began i] }
  have sameAnswers : ∀ j, waiting.answer? j = s.answer? j := by
    intro j
    rw [answer?_set s i j .checked inRange]
    by_cases same : j = i
    · subst same
      simp [answer?_of_stage (.inl stageIs)]
    · simp [same]
  have sameEnded : waiting.ended = s.ended := by
    simp [waiting, ended]
  have notEnded : i ∉ s.ended := inv.not_mem_ended (.inl stageIs)
  constructor
  · exact inv.sameCalls
  · simpa [waiting] using inv.stagesLength
  · intro j
    rw [sameEnded, inv.endedDone j]
    by_cases same : j = i
    · subst same
      rw [stageIs]
      simp [waiting, inRange]
    · simp [waiting, List.getElem?_set_ne (Ne.symm same)]
  · simpa [sameEnded] using inv.endedOnce
  · simpa [sameEnded, sameAnswers] using inv.sequential
  · simpa [sameAnswers] using inv.acceptedPresent
  · simpa [sameAnswers] using inv.acceptedOnce
  · intro x j key' keyOf answered offer ordered
    rw [sameAnswers] at answered ⊢
    rcases pair_sublist_append ordered with older | ⟨endedBefore, beganNow⟩ | newer
    · exact inv.realTime x j key' keyOf answered offer older
    · -- the offer that begins now has a key already answered `true`, so it is reported present
      have jIs : j = i := by simpa using beganNow
      subst jIs
      have present := inv.present_of_answered keyOf answered
      rw [inv.sameCalls] at callIs
      rw [callIs] at offer
      cases offer
      simp [absent] at present
    · simp at newer

/-- An offer the filter accepts had its key absent. -/
theorem absent_of_accepted
    {filter : Bloom}
    {key : List UInt8}
    (accepted : (filter.perform (.insertIfAbsent key)).1 = true) :
    filter.contains key = false := by
  simpa [Bloom.perform, Bloom.insertIfAbsent_fst] using accepted

/--
A call that ends takes effect as making it on the filter would: its answer
and the filter after it are those of `Bloom.perform`, and it joins the ended
calls last.
-/
theorem of_finish
    (inv : Linearized origin calls s)
    {i : Nat}
    {call : Bloom.Call}
    {fresh : Bool}
    (callIs : s.calls[i]? = some call)
    (stageIs : s.stages[i]? = some (if fresh then .ready else .checked)) :
    Linearized origin calls
      { s with filter := (s.filter.perform call).2,
               stages := s.stages.set i (.done (s.filter.perform call).1),
               history := s.history ++ ((if fresh then [.began i] else []) ++ [.ended i]) } := by
  have inRange : i < s.stages.length := (List.getElem?_eq_some_iff.mp stageIs).1
  have waiting : s.stages[i]? = some .ready ∨ s.stages[i]? = some .checked := by
    cases fresh <;> simp_all
  have notEnded : i ∉ s.ended := inv.not_mem_ended waiting
  have callOf : calls[i]? = some call := inv.sameCalls ▸ callIs
  set finished : State :=
    { s with filter := (s.filter.perform call).2,
             stages := s.stages.set i (.done (s.filter.perform call).1),
             history := s.history ++ ((if fresh then [.began i] else []) ++ [.ended i]) }
  -- only the answer of call `i` changes, from none to the answer of making it
  have answers :
      ∀ j, finished.answer? j = if j = i then some (s.filter.perform call).1 else s.answer? j := by
    intro j
    rw [answer?_set s i j _ inRange]
  have endedNext : finished.ended = s.ended ++ [i] := by
    cases fresh <;> simp [finished, ended]
  have ne_of_ended : ∀ j ∈ s.ended, j ≠ i := fun j member same => notEnded (same ▸ member)
  constructor
  · exact inv.sameCalls
  · simpa [finished] using inv.stagesLength
  · intro j
    rw [endedNext, List.mem_append, inv.endedDone j, List.mem_singleton]
    by_cases same : j = i
    · subst same
      simp [finished, inRange]
    · simp [finished, List.getElem?_set_ne (Ne.symm same), same]
  · rw [endedNext]
    exact List.nodup_append.mpr ⟨inv.endedOnce, by simp,
      fun j member k isI => by simpa [List.mem_singleton.mp isI] using ne_of_ended j member⟩
  · have keepsEnded : ∀ j ∈ s.ended,
        (if j = i then some (s.filter.perform call).1 else s.answer? j) = s.answer? j :=
      fun j member => if_neg (ne_of_ended j member)
    simp only [endedNext, answers, List.filterMap_append, List.filterMap_congr keepsEnded]
    rw [Bloom.replay_append, inv.sequential]
    simp [finished, callOf, Bloom.replay_cons]
  · intro j call' callOf' answered
    rw [answers] at answered
    by_cases same : j = i
    · subst same
      rw [callOf] at callOf'
      cases callOf'
      rw [if_pos rfl, Option.some.injEq] at answered
      exact Bloom.contains_perform_key _ _ answered
    · rw [if_neg same] at answered
      exact Bloom.contains_perform_of_contains _ _ (inv.acceptedPresent j call' callOf' answered)
  · intro j k key offerJ offerK answeredJ answeredK
    rw [answers] at answeredJ answeredK
    -- an offer accepted now found its key absent, so no earlier offer of it was accepted
    have acceptedBefore :
        ∀ other, other ≠ i → calls[other]? = some (.insertIfAbsent key) →
          s.answer? other = some true → calls[i]? = some (.insertIfAbsent key) →
            (s.filter.perform call).1 = true → False := by
      intro other otherNe offerOther answeredOther offerI acceptedNow
      rw [callOf] at offerI
      cases offerI
      have present := inv.acceptedPresent other _ offerOther answeredOther
      simp [Bloom.Call.key, absent_of_accepted acceptedNow] at present
    by_cases sameJ : j = i <;> by_cases sameK : k = i
    · rw [sameJ, sameK]
    · rw [sameJ] at offerJ answeredJ
      rw [if_pos rfl, Option.some.injEq] at answeredJ
      rw [if_neg sameK] at answeredK
      exact (acceptedBefore k sameK offerK answeredK offerJ answeredJ).elim
    · rw [sameK] at offerK answeredK
      rw [if_pos rfl, Option.some.injEq] at answeredK
      rw [if_neg sameJ] at answeredJ
      exact (acceptedBefore j sameJ offerJ answeredJ offerK answeredK).elim
    · rw [if_neg sameJ] at answeredJ
      rw [if_neg sameK] at answeredK
      exact inv.acceptedOnce j k key offerJ offerK answeredJ answeredK
  · intro x j key keyOf answered offer ordered
    rw [answers] at answered ⊢
    rcases pair_sublist_append ordered with older | ⟨endedBefore, beganNow⟩ | newer
    · -- both moments came before this step, when both calls had already ended
      have xNe : x ≠ i := ne_of_ended x (mem_ended.mpr (older.subset (by simp)))
      rw [if_neg xNe] at answered
      have earlier := inv.realTime x j key keyOf answered offer older
      have jNe : j ≠ i := by
        intro same
        subst same
        rw [answer?_of_stage waiting] at earlier
        cases earlier
      rw [if_neg jNe]
      exact earlier
    · -- the offer begins now, after a call answered `true` on its key, which is reported present
      have xNe : x ≠ i := ne_of_ended x (mem_ended.mpr endedBefore)
      rw [if_neg xNe] at answered
      have jIs : j = i := by
        cases fresh <;> simp_all
      subst jIs
      have present := inv.present_of_answered keyOf answered
      rw [callOf] at offer
      cases offer
      simp [Bloom.perform, Bloom.insertIfAbsent_of_contains present]
    · -- a call's own moments put its beginning first
      cases fresh with
      | false =>
          simp at newer
      | true =>
          have same := newer.eq_of_length (by simp)
          simp at same

theorem step
    (inv : Linearized origin calls s)
    (i : Nat) :
    Linearized origin calls (s.step i) := by
  rcases step_cases s i with same | ⟨key, callIs, stageIs, absent, stepIs⟩ |
      ⟨call, fresh, callIs, stageIs, stepIs⟩
  · rw [same]
    exact inv
  · rw [stepIs]
    exact inv.of_check callIs stageIs absent
  · rw [stepIs]
    exact inv.of_finish callIs stageIs

theorem run
    (inv : Linearized origin calls s)
    (schedule : List Nat) :
    Linearized origin calls (s.run schedule) := by
  induction schedule generalizing s with
  | nil =>
      exact inv
  | cons i rest inductionHypothesis =>
      exact inductionHypothesis (inv.step i)

end Linearized

/--
Over every schedule of any calls on the shared filter, the calls that have
ended are those with an answer, each ended once, and their answers and the
filter are those of making them one after the other, on the filter they
started from, in the order they ended. At most one offer of a key is
accepted. An offer that begins after a call answered `true` on its key has
ended is refused.
-/
theorem run_linearizable
    (origin : Bloom)
    (calls : List Bloom.Call)
    (schedule : List Nat) :
    let s := (State.start origin calls).run schedule
    s.ended.Nodup ∧ (∀ i, i ∈ s.ended ↔ (s.answer? i).isSome) ∧
      origin.replay (s.ended.filterMap (calls[·]?)) = (s.ended.filterMap s.answer?, s.filter) ∧
      (∀ i j key, calls[i]? = some (.insertIfAbsent key) → calls[j]? = some (.insertIfAbsent key) →
        s.answer? i = some true → s.answer? j = some true → i = j) ∧
      (∀ i j key, (calls[i]?).map Bloom.Call.key = some key → s.answer? i = some true →
        calls[j]? = some (.insertIfAbsent key) → [Moment.ended i, .began j] <+ s.history →
          s.answer? j = some false) := by
  intro s
  have inv : Linearized origin calls s := Linearized.start.run schedule
  refine ⟨inv.endedOnce, ?_, inv.sequential, inv.acceptedOnce, inv.realTime⟩
  intro i
  rw [inv.endedDone i]
  unfold answer?
  constructor
  · rintro ⟨answer, stageIs⟩
    simp [stageIs]
  · intro answered
    split at answered
    · rename_i answer stageIs
      exact ⟨answer, stageIs⟩
    · simp at answered

end IdFactory.Filter.Membership.State
