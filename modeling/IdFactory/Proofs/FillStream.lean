import Mathlib.Data.List.Induction
import IdFactory.Factory.Fill
import IdFactory.Proofs.DrawnSymbols
import IdFactory.Filter.Murmur

namespace IdFactory

open IdFactory.Random IdFactory.Filter

/-!
# A fill over the draws it makes

A fill draws from its source again and again, and each draw advances the
source. Whatever the filter and the progress, the draws a fill makes are
therefore the first ones of one stream, `FillPlan.drawsFrom`, and a fill
that ends is the replay of its step, `FillPlan.absorb`, over a prefix of that
stream (`run_ends`): every draw before the last one left the fill going and
short of a batch, and the last one either completed the batch or ended the
fill.

What the replay records is stated without the step: the identifiers
accepted are the candidates the filter admits when they are offered one
after the other (`Bloom.admitted`), the filter holds them besides what it held,
the rejections counted are the other candidates and the failures counted
the failed draws, and the rejections in a row are the candidates at the end
that the filter refused (`Bloom.RejectsLast`). Failed draws are no
candidates, so they neither reset nor advance that count. A batch the fill
completes is then a list of distinct identifiers, each of the plan's length
over the alphabet, none held by the filter before it was accepted.

Conversely a fill that never ends, which `fill` reports as stalled, is
still going after any run of draws that all end (`going_of_run_eq_none`):
it never misses the point where it should have stopped.
-/

namespace Filter.Bloom

/-- The candidates a filter admits when they are offered one after the other: each one it does
not hold yet, which it holds from then on. -/
def admitted (filter : Bloom) : List Identifier → List Identifier
  | [] => []
  | candidate :: rest =>
    if filter.contains candidate.bytes then filter.admitted rest
    else candidate :: (filter.insert candidate.bytes).admitted rest

/-- The last `count` candidates offered were all refused: without them the filter admits the
same candidates. -/
def RejectsLast (filter : Bloom) (count : Nat) (candidates : List Identifier) : Prop :=
  count ≤ candidates.length ∧
    filter.admitted (candidates.take (candidates.length - count)) = filter.admitted candidates

theorem insertAll_cons
    (filter : Bloom)
    (key : List UInt8)
    (keys : List (List UInt8)) :
    filter.insertAll (key :: keys) = (filter.insert key).insertAll keys :=
  rfl

/-- A fresh filter holds no key: every key probes at least one position. -/
theorem contains_withParams
    (hash : List UInt8 → Lanes)
    (params : FilterParams)
    (key : List UInt8) :
    (withParams hash params).contains key = false := by
  have probes : (withParams hash params).positions key ≠ [] := by
    simp [positions, Lanes.probes, withParams]
  obtain ⟨q, rest, split⟩ := List.exists_cons_of_ne_nil probes
  rw [contains, split, List.all_cons]
  simp [withParams]

/-- In a filter of one bit, every key probes that bit only. -/
theorem positions_one_bit
    (hash : List UInt8 → Lanes)
    (hashCount : Nat)
    (key other : List UInt8) :
    (withParams hash ⟨1, hashCount⟩).positions other =
      (withParams hash ⟨1, hashCount⟩).positions key := by
  simp [positions, Lanes.probes, withParams, Nat.mod_one]

/-- A filter of one bit holds every key once any key is inserted. -/
theorem contains_insert_one_bit
    (hash : List UInt8 → Lanes)
    (hashCount : Nat)
    (key other : List UInt8) :
    ((withParams hash ⟨1, hashCount⟩).insert key).contains other = true := by
  have same : ((withParams hash ⟨1, hashCount⟩).insert key).positions other =
      ((withParams hash ⟨1, hashCount⟩).insert key).positions key := by
    rw [positions_insert, positions_insert, positions_one_bit hash hashCount key other]
  rw [contains, same, ← contains]
  exact contains_insert_self _ key

/-- Offering candidates in two runs: the second run meets the filter holding what the first
admitted. -/
theorem admitted_append
    (filter : Bloom)
    (first second : List Identifier) :
    filter.admitted (first ++ second) =
      filter.admitted first ++
        (filter.insertAll ((filter.admitted first).map Identifier.bytes)).admitted second := by
  induction first generalizing filter with
  | nil =>
      rfl
  | cons candidate rest inductionHypothesis =>
      by_cases held : filter.contains candidate.bytes = true
      · simp only [List.cons_append, admitted, held, if_true, inductionHypothesis]
      · simp only [List.cons_append, admitted, held, Bool.false_eq_true, if_false,
          inductionHypothesis, List.map_cons, insertAll_cons, List.cons_append]

/-- One candidate more is admitted exactly when the filter, holding what was admitted before,
does not hold it. -/
theorem admitted_concat
    (filter : Bloom)
    (candidates : List Identifier)
    (candidate : Identifier) :
    filter.admitted (candidates ++ [candidate]) =
      filter.admitted candidates ++
        if (filter.insertAll ((filter.admitted candidates).map Identifier.bytes)).contains
            candidate.bytes then [] else [candidate] := by
  rw [admitted_append]
  split <;> simp [admitted, *]

theorem admitted_concat_of_admitted
    {filter : Bloom}
    {candidates : List Identifier}
    {candidate : Identifier}
    (isNew : (filter.insertAll ((filter.admitted candidates).map Identifier.bytes)).contains
      candidate.bytes = false) :
    filter.admitted (candidates ++ [candidate]) = filter.admitted candidates ++ [candidate] := by
  rw [admitted_concat, isNew]
  rfl

theorem admitted_concat_of_refused
    {filter : Bloom}
    {candidates : List Identifier}
    {candidate : Identifier}
    (refused : (filter.insertAll ((filter.admitted candidates).map Identifier.bytes)).contains
      candidate.bytes = true) :
    filter.admitted (candidates ++ [candidate]) = filter.admitted candidates := by
  rw [admitted_concat, refused, if_pos rfl, List.append_nil]

theorem admitted_sublist
    (filter : Bloom)
    (candidates : List Identifier) :
    (filter.admitted candidates).Sublist candidates := by
  induction candidates generalizing filter with
  | nil =>
      exact List.Sublist.slnil
  | cons candidate rest inductionHypothesis =>
      unfold admitted
      split
      · exact (inductionHypothesis filter).cons candidate
      · exact (inductionHypothesis _).cons_cons candidate

/-- A filter that holds every key admits no candidate. -/
theorem admitted_eq_nil_of_full
    {filter : Bloom}
    (full : ∀ key, filter.contains key = true)
    (candidates : List Identifier) :
    filter.admitted candidates = [] := by
  induction candidates with
  | nil =>
      rfl
  | cons candidate rest inductionHypothesis =>
      simp only [admitted, full, if_true]
      exact inductionHypothesis

/-- A candidate admitted was not held by the filter it was first offered to. -/
theorem contains_eq_false_of_mem_admitted
    {filter : Bloom}
    {candidates : List Identifier}
    {id : Identifier}
    (member : id ∈ filter.admitted candidates) :
    filter.contains id.bytes = false := by
  induction candidates generalizing filter with
  | nil =>
      cases member
  | cons candidate rest inductionHypothesis =>
      unfold admitted at member
      split at member
      · exact inductionHypothesis member
      · rename_i fresh
        rcases List.mem_cons.mp member with rfl | later
        · simpa using fresh
        · have notHeld := inductionHypothesis later
          cases held : filter.contains id.bytes
          · rfl
          · rw [Bloom.contains_insert_of_contains _ _ _ held] at notHeld
            cases notHeld

/-- No candidate is admitted twice. -/
theorem admitted_nodup
    (filter : Bloom)
    (candidates : List Identifier) :
    (filter.admitted candidates).Nodup := by
  induction candidates generalizing filter with
  | nil =>
      exact List.nodup_nil
  | cons candidate rest inductionHypothesis =>
      unfold admitted
      split
      · exact inductionHypothesis filter
      · refine List.nodup_cons.mpr ⟨fun again => ?_, inductionHypothesis _⟩
        -- once admitted, a candidate is held, so it is not admitted again
        have notHeld := contains_eq_false_of_mem_admitted again
        rw [Bloom.contains_insert_self] at notHeld
        cases notHeld

/-- Each candidate admitted was not held by the filter holding the ones admitted before it. -/
theorem admitted_fresh
    (filter : Bloom)
    (candidates : List Identifier)
    (i : Nat)
    (inRange : i < (filter.admitted candidates).length) :
    (filter.insertAll (((filter.admitted candidates).take i).map Identifier.bytes)).contains
      (filter.admitted candidates)[i].bytes = false := by
  induction candidates generalizing filter i with
  | nil =>
      cases inRange
  | cons candidate rest inductionHypothesis =>
      by_cases held : filter.contains candidate.bytes = true
      · simp only [admitted, held, if_true] at inRange ⊢
        exact inductionHypothesis filter i inRange
      · simp only [admitted, held, Bool.false_eq_true, if_false] at inRange ⊢
        cases i with
        | zero =>
            simpa [Bloom.insertAll] using held
        | succ i =>
            simpa [insertAll_cons] using
              inductionHypothesis _ i (by simpa using inRange)

/-- Dropping the last `count + 1` of one candidate more drops the last `count` of the others. -/
theorem take_concat_sub_succ
    (candidates : List Identifier)
    (candidate : Identifier)
    (count : Nat) :
    (candidates ++ [candidate]).take ((candidates ++ [candidate]).length - (count + 1)) =
      candidates.take (candidates.length - count) := by
  rw [List.take_append_of_le_length (by simp)]
  simp

theorem rejectsLast_zero
    (filter : Bloom)
    (candidates : List Identifier) :
    filter.RejectsLast 0 candidates := by
  simp [RejectsLast]

/-- After a candidate the filter admits, no rejection ends the candidates. -/
theorem not_rejectsLast_concat_of_admitted
    {filter : Bloom}
    {candidates : List Identifier}
    {candidate : Identifier}
    (isNew : (filter.insertAll ((filter.admitted candidates).map Identifier.bytes)).contains
      candidate.bytes = false)
    (count : Nat) :
    ¬ filter.RejectsLast (count + 1) (candidates ++ [candidate]) := by
  rintro ⟨-, same⟩
  rw [take_concat_sub_succ, admitted_concat_of_admitted isNew] at same
  -- the candidates before the last admit no more than all of them, one fewer than now
  have prefixOf := admitted_append filter (candidates.take (candidates.length - count))
    (candidates.drop (candidates.length - count))
  rw [List.take_append_drop] at prefixOf
  have lengths := congrArg List.length same
  rw [prefixOf] at lengths
  simp at lengths

/-- After a candidate the filter refuses, the rejections that end the candidates are one more. -/
theorem rejectsLast_concat_of_refused
    {filter : Bloom}
    {candidates : List Identifier}
    {candidate : Identifier}
    (refused : (filter.insertAll ((filter.admitted candidates).map Identifier.bytes)).contains
      candidate.bytes = true)
    (count : Nat) :
    filter.RejectsLast (count + 1) (candidates ++ [candidate]) ↔
      filter.RejectsLast count candidates := by
  unfold RejectsLast
  rw [take_concat_sub_succ, admitted_concat_of_refused refused, List.length_append,
    List.length_singleton]
  exact and_congr_left' (by omega)

end Filter.Bloom

/-- The alphabet of the symbols `a` and `b`. -/
def Alphabet.ab : Alphabet :=
  { symbols := #[97, 98] }

namespace FillPlan

variable {σ : Type} [RandomSource σ]

/-! ## The draws of a fill -/

/-- The source after `count` draws of the plan's identifiers. -/
def sourceAfter (plan : FillPlan) : Nat → σ → σ
  | 0, source => source
  | count + 1, source => plan.sourceAfter count (plan.alphabet.draw plan.length source).2

/-- What the first `count` draws of the plan's identifiers give, in order. -/
def drawsFrom (plan : FillPlan) : Nat → σ → List (Except DrawFailure Identifier)
  | 0, _ => []
  | count + 1, source =>
    (plan.alphabet.draw plan.length source).1.outcome ::
      plan.drawsFrom count (plan.alphabet.draw plan.length source).2

/-- The identifiers drawn, in order. -/
def candidates (draws : List (Except DrawFailure Identifier)) : List Identifier :=
  draws.filterMap Except.toOption

/-- Whether a draw failed without crashing. -/
def failed : Except DrawFailure Identifier → Bool
  | .error (.failed _) => true
  | _ => false

/-- Offer the outcomes of draws to a fill one after the other, as `absorb` does, until it ends. -/
def replay (plan : FillPlan) (p : FillProgress) (filter : Bloom) :
    List (Except DrawFailure Identifier) → FillStep × Bloom
  | [] => (.next p, filter)
  | draw :: rest =>
    match plan.absorb p draw filter with
    | (.next p, filter) => plan.replay p filter rest
    | (.stop outcome, filter) => (.stop outcome, filter)

theorem sourceAfter_succ
    (plan : FillPlan)
    (count : Nat)
    (source : σ) :
    plan.sourceAfter (count + 1) source =
      (plan.alphabet.draw plan.length (plan.sourceAfter count source)).2 := by
  induction count generalizing source with
  | zero =>
      rfl
  | succ count inductionHypothesis =>
      exact inductionHypothesis _

/-- The draws one further are the draws so far and the draw from the source after them. -/
theorem drawsFrom_succ
    (plan : FillPlan)
    (count : Nat)
    (source : σ) :
    plan.drawsFrom (count + 1) source =
      plan.drawsFrom count source ++
        [(plan.alphabet.draw plan.length (plan.sourceAfter count source)).1.outcome] := by
  induction count generalizing source with
  | zero =>
      rfl
  | succ count inductionHypothesis =>
      rw [drawsFrom, inductionHypothesis, drawsFrom, List.cons_append]
      rfl

@[simp]
theorem candidates_cons_ok
    (id : Identifier)
    (draws : List (Except DrawFailure Identifier)) :
    candidates (.ok id :: draws) = id :: candidates draws :=
  rfl

@[simp]
theorem candidates_cons_error
    (failure : DrawFailure)
    (draws : List (Except DrawFailure Identifier)) :
    candidates (.error failure :: draws) = candidates draws :=
  rfl

@[simp]
theorem candidates_concat_ok
    (draws : List (Except DrawFailure Identifier))
    (id : Identifier) :
    candidates (draws ++ [.ok id]) = candidates draws ++ [id] := by
  simp [candidates, Except.toOption]

@[simp]
theorem candidates_concat_error
    (draws : List (Except DrawFailure Identifier))
    (failure : DrawFailure) :
    candidates (draws ++ [.error failure]) = candidates draws := by
  simp [candidates, Except.toOption]

theorem replay_cons_of_next
    {plan : FillPlan}
    {p next : FillProgress}
    {filter filter' : Bloom}
    {draw : Except DrawFailure Identifier}
    (goesOn : plan.absorb p draw filter = (.next next, filter'))
    (rest : List (Except DrawFailure Identifier)) :
    plan.replay p filter (draw :: rest) = plan.replay next filter' rest := by
  simp [replay, goesOn]

/-- A replay that ends stays ended, whatever is offered after. -/
theorem replay_append_of_stop
    {plan : FillPlan}
    {p : FillProgress}
    {filter filter' : Bloom}
    {outcome : FillOutcome}
    {draws : List (Except DrawFailure Identifier)}
    (ends : plan.replay p filter draws = (.stop outcome, filter'))
    (more : List (Except DrawFailure Identifier)) :
    plan.replay p filter (draws ++ more) = (.stop outcome, filter') := by
  induction draws generalizing p filter with
  | nil =>
      cases ends
  | cons draw rest inductionHypothesis =>
      simp only [List.cons_append, replay] at ends ⊢
      split at ends
      · exact inductionHypothesis ends
      · exact ends

/-- One draw more is one step of the fill the draws so far left going. -/
theorem replay_concat_of_next
    {plan : FillPlan}
    {p next : FillProgress}
    {filter filter' : Bloom}
    {draws : List (Except DrawFailure Identifier)}
    (going : plan.replay p filter draws = (.next next, filter'))
    (draw : Except DrawFailure Identifier) :
    plan.replay p filter (draws ++ [draw]) = plan.absorb next draw filter' := by
  induction draws generalizing p filter with
  | nil =>
      cases going
      simp only [List.nil_append, replay]
      split <;> rename_i step <;> rw [step]
  | cons first rest inductionHypothesis =>
      simp only [List.cons_append, replay] at going ⊢
      split at going
      · exact inductionHypothesis going
      · cases going

/-- A fill that goes on after a run of draws went on after each shorter run. -/
theorem replay_of_concat_next
    {plan : FillPlan}
    {p next : FillProgress}
    {filter filter' : Bloom}
    {draws : List (Except DrawFailure Identifier)}
    {draw : Except DrawFailure Identifier}
    (going : plan.replay p filter (draws ++ [draw]) = (.next next, filter')) :
    ∃ before held, plan.replay p filter draws = (.next before, held) ∧
      plan.absorb before draw held = (.next next, filter') := by
  rcases replayed : plan.replay p filter draws with ⟨before | outcome, held⟩
  · exact ⟨before, held, rfl, by rw [← replay_concat_of_next replayed, going]⟩
  · rw [replay_append_of_stop replayed] at going
    cases going

/-! ## A fill that ends replays the draws it made -/

/--
A fill that ends has made some number `n` of draws, and the source is the
source after them; each shorter run of them left the fill going and short
of a batch; and the `n` draws either completed the batch, which the fill
hands out, or ended the fill with the outcome it gives.
-/
theorem run_ends
    {plan : FillPlan}
    {p : FillProgress}
    {filter : Bloom}
    {source : σ}
    {result : FillOutcome × Bloom × σ}
    (ended : plan.run p filter source = some result) :
    ∃ n, result.2.2 = plan.sourceAfter n source ∧
      (∀ m < n, ∃ progress held, plan.replay p filter (plan.drawsFrom m source) =
        (.next progress, held) ∧ progress.accepted < plan.capacity) ∧
      ((∃ progress, plan.replay p filter (plan.drawsFrom n source) = (.next progress, result.2.1) ∧
          plan.capacity ≤ progress.accepted ∧
          result.1 = .filled progress.ids.reverse progress.rejected progress.failedDraws) ∨
        plan.replay p filter (plan.drawsFrom n source) = (.stop result.1, result.2.1)) := by
  refine FillPlan.run.partial_correctness plan
    (fun p filter source result => ∃ n, result.2.2 = plan.sourceAfter n source ∧
      (∀ m < n, ∃ progress held, plan.replay p filter (plan.drawsFrom m source) =
        (.next progress, held) ∧ progress.accepted < plan.capacity) ∧
      ((∃ progress, plan.replay p filter (plan.drawsFrom n source) = (.next progress, result.2.1) ∧
          plan.capacity ≤ progress.accepted ∧
          result.1 = .filled progress.ids.reverse progress.rejected progress.failedDraws) ∨
        plan.replay p filter (plan.drawsFrom n source) = (.stop result.1, result.2.1)))
    ?_ p filter source result ended
  intro run inductionHypothesis p filter source result step
  split at step
  · -- the batch is complete before any draw
    rename_i complete
    cases step
    exact ⟨0, rfl, fun m below => absurd below (Nat.not_lt_zero m), .inl ⟨p, rfl, complete, rfl⟩⟩
  · rename_i short
    split at step
    · cases step
    · rename_i drawn next answered
      have drawIs : plan.alphabet.draw plan.length source = (drawn, next) := by
        simp [Alphabet.draw, answered]
      have firstGoing : ∀ m, m < 0 + 1 → ∃ progress held,
          plan.replay p filter (plan.drawsFrom m source) = (.next progress, held) ∧
            progress.accepted < plan.capacity := by
        intro m below
        obtain rfl : m = 0 := by omega
        exact ⟨p, filter, rfl, Nat.lt_of_not_le short⟩
      split at step
      · -- the fill goes on from the source after this draw
        rename_i progress held goesOn
        obtain ⟨n, sourceIs, going, final⟩ := inductionHypothesis progress held next result step
        have shifted : ∀ m, plan.replay p filter (plan.drawsFrom (m + 1) source) =
            plan.replay progress held (plan.drawsFrom m next) := by
          intro m
          rw [drawsFrom, drawIs, replay_cons_of_next goesOn]
        refine ⟨n + 1, by rw [sourceAfter, drawIs]; exact sourceIs, ?_, ?_⟩
        · intro m below
          cases m with
          | zero => exact firstGoing 0 (by omega)
          | succ m =>
              rw [shifted]
              exact going m (by omega)
        · rw [shifted]
          exact final
      · -- the fill ends at this draw
        rename_i outcome held endsHere
        cases step
        refine ⟨1, by rw [sourceAfter, drawIs]; rfl, firstGoing, .inr ?_⟩
        simp [drawsFrom, drawIs, replay, endsHere]

/-- A run of draws that ended the fill is a shorter one that left it going and short of its batch,
and the draw after it, which ended it. -/
theorem stopped_after_going
    {plan : FillPlan}
    {filter filter' : Bloom}
    {source : σ}
    {n : Nat}
    {outcome : FillOutcome}
    (going : ∀ m < n, ∃ progress held, plan.replay {} filter (plan.drawsFrom m source) =
      (.next progress, held) ∧ progress.accepted < plan.capacity)
    (stopped : plan.replay {} filter (plan.drawsFrom n source) = (.stop outcome, filter')) :
    ∃ m progress held, n = m + 1 ∧
      plan.replay {} filter (plan.drawsFrom m source) = (.next progress, held) ∧
      progress.accepted < plan.capacity ∧
      plan.absorb progress (plan.alphabet.draw plan.length (plan.sourceAfter m source)).1.outcome held =
        (.stop outcome, filter') := by
  cases n with
  | zero =>
      cases stopped
  | succ m =>
      obtain ⟨progress, held, replayed, short⟩ := going m (Nat.lt_succ_self m)
      rw [drawsFrom_succ, replay_concat_of_next replayed] at stopped
      exact ⟨m, progress, held, rfl, replayed, short, stopped⟩

/-! ## What a fill records of its draws -/

/--
What a fill that is still going has recorded of the draws offered to it,
starting from the filter `origin` and no progress: the identifiers accepted,
latest first, are the candidates `origin` admits; the rejections counted
are the other candidates, and the failures the failed draws; the filter is
`origin` holding the accepted identifiers; the rejections in a row are the
candidates at the end that were refused, fewer than the limit; and no draw
crashed.
-/
structure Ledger
    (plan : FillPlan)
    (origin : Bloom)
    (draws : List (Except DrawFailure Identifier))
    (p : FillProgress)
    (filter : Bloom) :
    Prop where
  ids : p.ids.reverse = origin.admitted (candidates draws)
  accepted : p.accepted = p.ids.length
  rejected : p.rejected + p.accepted = (candidates draws).length
  failedDraws : p.failedDraws = draws.countP failed
  holds : filter = origin.insertAll ((origin.admitted (candidates draws)).map Identifier.bytes)
  streak : ∀ count, origin.RejectsLast count (candidates draws) ↔ count ≤ p.streak
  belowLimit : ∀ limit, plan.maxConsecutiveRejections = some limit → p.streak < limit
  noCrash : .error .crashed ∉ draws

namespace Ledger

variable {plan : FillPlan} {origin : Bloom} {draws : List (Except DrawFailure Identifier)}
  {p : FillProgress} {filter : Bloom}

theorem start
    (limitPositive : plan.maxConsecutiveRejections ≠ some 0) :
    Ledger plan origin [] {} origin := by
  refine ⟨rfl, rfl, rfl, rfl, rfl, fun count => ?_, fun limit limitIs => ?_, by simp⟩
  · simp only [candidates, List.filterMap_nil, Bloom.RejectsLast, List.length_nil,
      Nat.le_zero, List.take_nil, and_true]
  · cases limit with
    | zero => exact absurd limitIs limitPositive
    | succ limit => exact Nat.succ_pos limit

/-- The number of identifiers accepted is the number the origin admits. -/
theorem length_admitted
    (ledger : Ledger plan origin draws p filter) :
    (origin.admitted (candidates draws)).length = p.accepted := by
  rw [← ledger.ids, List.length_reverse, ledger.accepted]

/-- The filter the fill holds is the origin holding what it admitted. -/
theorem holds_admitted
    (ledger : Ledger plan origin draws p filter) :
    origin.insertAll ((origin.admitted (candidates draws)).map Identifier.bytes) = filter :=
  ledger.holds.symm

/-- One draw after which the fill goes on keeps the record. -/
theorem step
    (ledger : Ledger plan origin draws p filter)
    {draw : Except DrawFailure Identifier}
    {next : FillProgress}
    {filter' : Bloom}
    (goesOn : plan.absorb p draw filter = (.next next, filter')) :
    Ledger plan origin (draws ++ [draw]) next filter' := by
  rcases absorb_eq_next goesOn with
    ⟨reason, rfl, rfl, rfl⟩ | ⟨id, rfl, fresh, rfl, rfl⟩ | ⟨id, rfl, held, rfl, rfl, short⟩
  · -- a failed draw is only counted
    refine ⟨?_, ledger.accepted, ?_, ?_, ?_, ?_, ledger.belowLimit, ?_⟩
    · simpa using ledger.ids
    · simpa using ledger.rejected
    · simp [ledger.failedDraws, failed]
    · simpa using ledger.holds
    · simpa using ledger.streak
    · simpa using ledger.noCrash
  · -- an accepted candidate is the next one the origin admits
    have isNew : (origin.insertAll ((origin.admitted (candidates draws)).map Identifier.bytes)).contains
        id.bytes = false := by
      rw [holds_admitted ledger]
      exact fresh
    have admits : origin.admitted (candidates (draws ++ [.ok id])) =
        origin.admitted (candidates draws) ++ [id] := by
      rw [candidates_concat_ok, Bloom.admitted_concat_of_admitted isNew]
    refine ⟨?_, ?_, ?_, ?_, ?_, fun count => ?_, fun limit limitIs => ?_, ?_⟩
    · rw [admits, ← ledger.ids, List.reverse_cons]
    · simp [ledger.accepted]
    · simp only [candidates_concat_ok, List.length_append, List.length_singleton]
      have := ledger.rejected
      omega
    · simp [ledger.failedDraws, failed]
    · rw [admits, List.map_append, Bloom.insertAll_append, holds_admitted ledger]
      rfl
    · cases count with
      | zero => exact ⟨fun _ => Nat.le_refl 0, fun _ => Bloom.rejectsLast_zero _ _⟩
      | succ count =>
          rw [candidates_concat_ok]
          exact ⟨fun rejects => absurd rejects
            (Bloom.not_rejectsLast_concat_of_admitted isNew count), fun le => by simp at le⟩
    · exact Nat.lt_of_le_of_lt (Nat.zero_le _) (Nat.lt_of_le_of_lt (Nat.zero_le _)
        (ledger.belowLimit limit limitIs))
    · simpa using ledger.noCrash
  · -- a rejected candidate adds one to the rejections in a row
    have refused : (origin.insertAll ((origin.admitted (candidates draws)).map Identifier.bytes)).contains
        id.bytes = true := by
      rw [holds_admitted ledger]
      exact held
    have admits : origin.admitted (candidates (draws ++ [.ok id])) = origin.admitted (candidates draws) := by
      rw [candidates_concat_ok, Bloom.admitted_concat_of_refused refused]
    refine ⟨?_, ledger.accepted, ?_, ?_, ?_, fun count => ?_, short, ?_⟩
    · rw [admits]
      exact ledger.ids
    · simp only [candidates_concat_ok, List.length_append, List.length_singleton]
      have := ledger.rejected
      omega
    · simp [ledger.failedDraws, failed]
    · rw [admits]
      exact ledger.holds
    · cases count with
      | zero => exact ⟨fun _ => Nat.zero_le _, fun _ => Bloom.rejectsLast_zero _ _⟩
      | succ count =>
          rw [candidates_concat_ok, Bloom.rejectsLast_concat_of_refused refused, ledger.streak]
          exact Nat.add_le_add_iff_right.symm
    · simpa using ledger.noCrash

end Ledger

/-- Every run of draws after which the fill still goes on keeps the record. -/
theorem replay_ledger
    (plan : FillPlan)
    (limitPositive : plan.maxConsecutiveRejections ≠ some 0)
    (origin : Bloom)
    (draws : List (Except DrawFailure Identifier))
    {p : FillProgress}
    {filter : Bloom}
    (going : plan.replay {} origin draws = (.next p, filter)) :
    Ledger plan origin draws p filter := by
  induction draws using List.reverseRecOn generalizing p filter with
  | nil =>
      cases going
      exact Ledger.start limitPositive
  | append_singleton draws draw inductionHypothesis =>
      obtain ⟨before, held, replayed, goesOn⟩ := replay_of_concat_next going
      exact (inductionHypothesis replayed).step goesOn

/-! ## A fill that ends -/

/-- After these draws, starting from the filter `origin`, a fill is still going: the filter
admitted fewer candidates than a batch holds, the candidates it refused at the end are fewer
than the limit, and no draw crashed. -/
def Going (plan : FillPlan) (origin : Bloom) (draws : List (Except DrawFailure Identifier)) :
    Prop :=
  (origin.admitted (candidates draws)).length < plan.capacity ∧
    (∀ limit, plan.maxConsecutiveRejections = some limit →
      ¬ origin.RejectsLast limit (candidates draws)) ∧
    .error .crashed ∉ draws

namespace Ledger

variable {plan : FillPlan} {origin : Bloom} {draws : List (Except DrawFailure Identifier)}
  {p : FillProgress} {filter : Bloom}

theorem going
    (ledger : Ledger plan origin draws p filter)
    (short : p.accepted < plan.capacity) :
    plan.Going origin draws := by
  refine ⟨by rw [ledger.length_admitted]; exact short, fun limit limitIs rejects => ?_, ledger.noCrash⟩
  have reached := (ledger.streak limit).mp rejects
  have below := ledger.belowLimit limit limitIs
  omega

/-- A draw that ends the fill crashed, or was the candidate refused at the limit; either way
the filter and the candidates admitted stay as they were. -/
theorem stop
    (ledger : Ledger plan origin draws p filter)
    {draw : Except DrawFailure Identifier}
    {outcome : FillOutcome}
    {filter' : Bloom}
    (ends : plan.absorb p draw filter = (.stop outcome, filter')) :
    origin.admitted (candidates (draws ++ [draw])) = origin.admitted (candidates draws) ∧
      filter' = filter ∧
      ((draw = .error .crashed ∧ outcome = .crashed) ∨
        ∃ limit, plan.maxConsecutiveRejections = some limit ∧ outcome = .exhausted limit ∧
          origin.RejectsLast limit (candidates (draws ++ [draw]))) := by
  rcases absorb_eq_stop ends with
    ⟨rfl, rfl, rfl⟩ | ⟨id, limit, rfl, held, limitIs, reached, rfl, rfl⟩
  · exact ⟨by rw [candidates_concat_error], rfl, .inl ⟨rfl, rfl⟩⟩
  · have refused : (origin.insertAll ((origin.admitted (candidates draws)).map Identifier.bytes)).contains
        id.bytes = true := by
      rw [holds_admitted ledger]
      exact held
    -- the fill was below the limit before this rejection, so it ends exactly at the limit
    have atLimit : p.streak + 1 = limit := by
      have below := ledger.belowLimit limit limitIs
      omega
    refine ⟨by rw [candidates_concat_ok, Bloom.admitted_concat_of_refused refused], rfl,
      .inr ⟨limit, limitIs, by rw [atLimit], ?_⟩⟩
    rw [candidates_concat_ok, ← atLimit, Bloom.rejectsLast_concat_of_refused refused]
    exact (ledger.streak p.streak).mpr (Nat.le_refl _)

end Ledger

/-- A fill that completes its batch, and was short of it before its last draw, holds exactly
the batch. -/
theorem accepted_eq_capacity
    {plan : FillPlan}
    {filter held : Bloom}
    {source : σ}
    {n : Nat}
    {progress : FillProgress}
    (going : ∀ m < n, ∃ progress held, plan.replay {} filter (plan.drawsFrom m source) =
      (.next progress, held) ∧ progress.accepted < plan.capacity)
    (replayed : plan.replay {} filter (plan.drawsFrom n source) = (.next progress, held))
    (complete : plan.capacity ≤ progress.accepted) :
    progress.accepted = plan.capacity := by
  cases n with
  | zero =>
      cases replayed
      exact (Nat.eq_zero_of_le_zero complete).symm
  | succ m =>
      -- one draw adds at most one identifier to a fill that was short
      obtain ⟨before, held, replayedBefore, short⟩ := going m (Nat.lt_succ_self m)
      rw [drawsFrom_succ, replay_concat_of_next replayedBefore] at replayed
      rcases absorb_next plan before _ held (congrArg Prod.fst replayed) with
        ⟨_, _, _, oneMore⟩ | ⟨_, same⟩ <;> omega

/-- Every candidate drawn is spelled by as many symbols of the alphabet as the plan asks. -/
theorem spelled_of_mem_candidates
    (plan : FillPlan)
    (count : Nat)
    (source : σ)
    {id : Identifier}
    (drawn : id ∈ candidates (plan.drawsFrom count source)) :
    ∃ symbols, id = Identifier.ofSymbols symbols ∧ symbols.length = plan.length ∧
      ∀ symbol ∈ symbols, symbol ∈ plan.alphabet.symbols.toList := by
  induction count generalizing source with
  | zero =>
      cases drawn
  | succ count inductionHypothesis =>
      rw [drawsFrom] at drawn
      rcases outcome : (plan.alphabet.draw plan.length source).1.outcome with failure | first
      · rw [outcome, candidates_cons_error] at drawn
        exact inductionHypothesis _ drawn
      · rw [outcome, candidates_cons_ok] at drawn
        rcases List.mem_cons.mp drawn with rfl | later
        · exact Alphabet.draw_shape outcome
        · exact inductionHypothesis _ later

/-- A fill that is not stalled is a run that ends. -/
theorem run_of_fill
    {plan : FillPlan}
    {filter filter' : Bloom}
    {source source' : σ}
    {outcome : FillOutcome}
    (ended : plan.fill filter source = (outcome, filter', source'))
    (notStalled : outcome ≠ .stalled) :
    plan.run {} filter source = some (outcome, filter', source') := by
  unfold fill at ended
  cases ranTo : plan.run {} filter source with
  | none =>
      rw [ranTo, Option.getD_none] at ended
      cases ended
      exact absurd rfl notStalled
  | some result =>
      rw [ranTo, Option.getD_some] at ended
      rw [ended]

/-! ## A fill that never ends -/

/-- A draw ends a fill only with a crash or with the keyspace exhausted. -/
theorem replay_stop_cases
    {plan : FillPlan}
    {p : FillProgress}
    {filter filter' : Bloom}
    {draws : List (Except DrawFailure Identifier)}
    {outcome : FillOutcome}
    (ends : plan.replay p filter draws = (.stop outcome, filter')) :
    outcome = .crashed ∨ ∃ attempts, outcome = .exhausted attempts := by
  induction draws generalizing p filter with
  | nil =>
      cases ends
  | cons draw rest inductionHypothesis =>
      simp only [replay] at ends
      split at ends
      · exact inductionHypothesis ends
      · rename_i stopped held endsHere
        cases ends
        rcases absorb_eq_stop endsHere with ⟨-, rfl, -⟩ | ⟨_, _, -, -, -, -, rfl, -⟩
        · exact .inl rfl
        · exact .inr ⟨_, rfl⟩

theorem run_ne_stalled
    {plan : FillPlan}
    {p : FillProgress}
    {filter : Bloom}
    {source : σ}
    {result : FillOutcome × Bloom × σ}
    (ended : plan.run p filter source = some result) :
    result.1 ≠ .stalled := by
  obtain ⟨n, -, -, ⟨progress, -, -, filled⟩ | stopped⟩ := run_ends ended
  · rw [filled]
    exact fun same => by cases same
  · rcases replay_stop_cases stopped with crashed | ⟨_, exhausted⟩
    · rw [crashed]
      exact fun same => by cases same
    · rw [exhausted]
      exact fun same => by cases same

/-- A fill that is stalled is a run that never ends. -/
theorem run_eq_none_of_fill
    {plan : FillPlan}
    {filter : Bloom}
    {source : σ}
    (stalled : (plan.fill filter source).1 = .stalled) :
    plan.run {} filter source = none := by
  unfold fill at stalled
  cases ranTo : plan.run {} filter source with
  | none =>
      rfl
  | some result =>
      rw [ranTo, Option.getD_some] at stalled
      exact absurd stalled (run_ne_stalled ranTo)

/-- A run that never ends is still going, short of its batch, after any run of draws that all
end. -/
theorem going_of_run_eq_none
    {plan : FillPlan}
    {p : FillProgress}
    {filter : Bloom}
    {source : σ}
    (stalled : plan.run p filter source = none)
    (m : Nat)
    (drawsEnd : ∀ k < m, (plan.alphabet.draw? plan.length (plan.sourceAfter k source)).isSome) :
    ∃ progress held, plan.replay p filter (plan.drawsFrom m source) = (.next progress, held) ∧
      progress.accepted < plan.capacity ∧ plan.run progress held (plan.sourceAfter m source) = none := by
  induction m generalizing p filter source with
  | zero =>
      refine ⟨p, filter, rfl, Nat.lt_of_not_le fun complete => ?_, stalled⟩
      rw [run, if_pos complete] at stalled
      cases stalled
  | succ m inductionHypothesis =>
      obtain ⟨⟨drawn, next⟩, answered⟩ := Option.isSome_iff_exists.mp (drawsEnd 0 (Nat.succ_pos m))
      change plan.alphabet.draw? plan.length source = some (drawn, next) at answered
      have drawIs : plan.alphabet.draw plan.length source = (drawn, next) := by
        simp [Alphabet.draw, answered]
      rw [run] at stalled
      split at stalled
      · cases stalled
      · rw [answered] at stalled
        dsimp only at stalled
        split at stalled
        · -- the first draw lets the run go on, from the source after it
          rename_i progress held goesOn
          have later : ∀ k < m, (plan.alphabet.draw? plan.length (plan.sourceAfter k next)).isSome := by
            intro k below
            have ends := drawsEnd (k + 1) (by omega)
            rwa [sourceAfter, drawIs] at ends
          obtain ⟨final, finalHeld, replayed, short, stillStalled⟩ := inductionHypothesis stalled later
          refine ⟨final, finalHeld, ?_, short, ?_⟩
          · rw [drawsFrom, drawIs, replay_cons_of_next goesOn]
            exact replayed
          · rw [sourceAfter, drawIs]
            exact stillStalled
        · cases stalled

/--
A fill that ends made some `n` draws, the first `n` of its source's stream, and was going
before each of them. The identifiers it accepted are the candidates the filter admits when
they are offered in order, and the filter holds them besides what it held. A batch it hands
out is as large as the plan asks, of distinct identifiers spelled by symbols of the alphabet,
each one new to the filter holding those accepted before it, with the candidates refused and
the failed draws as its counts. Otherwise the fill gave up when the candidates refused at the
end reached the limit, or its last draw crashed, short of a batch either way. A fill is stalled
only when it would still be going after every run of draws that all end.
-/
theorem fill_admits_fresh_candidates
    (plan : FillPlan)
    (limitPositive : plan.maxConsecutiveRejections ≠ some 0)
    (filter : Bloom)
    (source : σ) :
    (∀ outcome filter' source', plan.fill filter source = (outcome, filter', source') →
      outcome ≠ .stalled →
      ∃ n,
        let draws := plan.drawsFrom n source
        let ids := filter.admitted (candidates draws)
        source' = plan.sourceAfter n source ∧
          (∀ m < n, plan.Going filter (plan.drawsFrom m source)) ∧
          filter' = filter.insertAll (ids.map Identifier.bytes) ∧
          ((outcome = .filled ids ((candidates draws).length - ids.length) (draws.countP failed) ∧
              ids.length = plan.capacity ∧ ids.Nodup ∧
              (∀ i (h : i < ids.length),
                (filter.insertAll ((ids.take i).map Identifier.bytes)).contains ids[i].bytes = false) ∧
              (∀ id ∈ ids, filter'.contains id.bytes = true) ∧
              ∀ id ∈ ids, ∃ symbols, id = Identifier.ofSymbols symbols ∧
                symbols.length = plan.length ∧ ∀ symbol ∈ symbols, symbol ∈ plan.alphabet.symbols.toList) ∨
            (ids.length < plan.capacity ∧ ∃ limit, plan.maxConsecutiveRejections = some limit ∧
              outcome = .exhausted limit ∧ filter.RejectsLast limit (candidates draws)) ∨
            (ids.length < plan.capacity ∧ outcome = .crashed ∧
              draws.getLast? = some (.error .crashed)))) ∧
      ((plan.fill filter source).1 = .stalled →
        ∀ m, (∀ k < m, (plan.alphabet.draw? plan.length (plan.sourceAfter k source)).isSome) →
          plan.Going filter (plan.drawsFrom m source)) := by
  refine ⟨fun outcome filter' source' ended notStalled => ?_, fun stalled m drawsEnd => ?_⟩
  · -- a fill that ends replays the draws it made
    obtain ⟨n, sourceIs, going, final⟩ := run_ends (run_of_fill ended notStalled)
    dsimp only at sourceIs final
    have wasGoing : ∀ m < n, plan.Going filter (plan.drawsFrom m source) := by
      intro m below
      obtain ⟨progress, held, replayed, short⟩ := going m below
      exact (replay_ledger plan limitPositive filter _ replayed).going short
    rcases final with ⟨progress, replayed, complete, outcomeIs⟩ | stopped
    · -- the batch is complete: the record after all `n` draws gives it
      have ledger := replay_ledger plan limitPositive filter _ replayed
      refine ⟨n, sourceIs, wasGoing, ledger.holds, .inl ⟨?_, ?_, Bloom.admitted_nodup _ _,
        Bloom.admitted_fresh _ _, fun id accepted => ?_, fun id accepted => ?_⟩⟩
      · have counted := ledger.rejected
        rw [outcomeIs, ledger.ids, ledger.failedDraws, ledger.length_admitted]
        congr 1
        omega
      · rw [ledger.length_admitted]
        exact accepted_eq_capacity going replayed complete
      · rw [ledger.holds]
        exact Bloom.contains_insertAll_of_mem filter (List.mem_map_of_mem accepted)
      · exact spelled_of_mem_candidates plan n source ((Bloom.admitted_sublist _ _).subset accepted)
    · -- the fill ended at its last draw, which no batch preceded
      obtain ⟨m, progress, held, rfl, replayed, short, ended⟩ := stopped_after_going going stopped
      have ledger := replay_ledger plan limitPositive filter _ replayed
      obtain ⟨same, rfl, ending⟩ := ledger.stop ended
      have shortOfBatch :
          (filter.admitted (candidates (plan.drawsFrom (m + 1) source))).length < plan.capacity := by
        rw [drawsFrom_succ, same, ledger.length_admitted]
        exact short
      refine ⟨m + 1, sourceIs, wasGoing, ?_, .inr ?_⟩
      · rw [drawsFrom_succ, same]
        exact ledger.holds
      · rcases ending with ⟨crash, rfl⟩ | ⟨limit, limitIs, rfl, rejects⟩
        · refine .inr ⟨shortOfBatch, rfl, ?_⟩
          rw [drawsFrom_succ, crash, List.getLast?_concat]
        · refine .inl ⟨shortOfBatch, limit, limitIs, rfl, ?_⟩
          rw [drawsFrom_succ]
          exact rejects
  · -- a fill that never ends is going after every run of draws that end
    obtain ⟨progress, held, replayed, short, -⟩ :=
      going_of_run_eq_none (run_eq_none_of_fill stalled) m drawsEnd
    exact (replay_ledger plan limitPositive filter _ replayed).going short

/-! ## Fills from a counting source -/

/-- Every byte masked for the alphabet of `a` and `b` is one of its symbols. -/
theorem length_symbolsOf_pair
    (buffer : List UInt8) :
    (Alphabet.ab.symbolsOf buffer).length = buffer.length := by
  have maskIs : Alphabet.ab.mask = 1 := by
    decide +kernel
  rw [Alphabet.symbolsOf, List.length_filterMap_eq_countP, List.countP_eq_length]
  intro b _
  have small : (b &&& 1).toNat ≤ 1 := by
    rw [UInt8.toNat_and]
    exact Nat.and_le_right
  rw [maskIs]
  obtain index | index : (b &&& 1).toNat = 0 ∨ (b &&& 1).toNat = 1 := by omega
  · simp [index, Alphabet.symbol?, Alphabet.ab]
  · simp [index, Alphabet.symbol?, Alphabet.ab]

/-- A counting source with nothing left to replay yields two symbols of `a` and `b` in one
request, and is such a source again after it. -/
theorem draw?_pair_counting
    (next : UInt8)
    (calls : Nat) :
    ∃ id next', Alphabet.ab.draw? 2 (⟨[], .counter next, calls⟩ : ScriptedSource) =
      some (⟨.ok id, 1⟩, ⟨[], .counter next', calls + 1⟩) := by
  have answered : ∀ k (h : k < [countingBytes next 8].length),
      RandomSource.answer (bufferSize 2) k (⟨[], .counter next, calls⟩ : ScriptedSource) =
        .ok [countingBytes next 8][k] := by
    intro k inBuffers
    obtain rfl : k = 0 := Nat.lt_one_iff.mp inBuffers
    rfl
  have enough : 2 ≤ ([countingBytes next 8].flatMap Alphabet.ab.symbolsOf).length := by
    simp [length_symbolsOf_pair, countingBytes]
  have least : ∀ j < [countingBytes next 8].length,
      (([countingBytes next 8].take j).flatMap Alphabet.ab.symbolsOf).length < 2 := by
    intro j below
    obtain rfl : j = 0 := Nat.lt_one_iff.mp below
    simp
  exact ⟨_, _, Alphabet.draw?_of_enough _ _ _ _ answered enough least⟩

/-- Every draw of two symbols of `a` and `b` from a counting source ends after one request with
a candidate. -/
theorem draw?_sourceAfter_pair_counting
    (capacity : Nat)
    (limit : Option Nat)
    (k : Nat) :
    ∃ id next calls, Alphabet.ab.draw? 2
        ((⟨Alphabet.ab, 2, capacity, limit⟩ : FillPlan).sourceAfter k
          (⟨[], .counter 0, 0⟩ : ScriptedSource)) =
      some (⟨.ok id, 1⟩, ⟨[], .counter next, calls⟩) := by
  induction k with
  | zero =>
      obtain ⟨id, next, drawn⟩ := draw?_pair_counting 0 0
      exact ⟨id, next, 1, drawn⟩
  | succ k inductionHypothesis =>
      obtain ⟨_, next, calls, drawn⟩ := inductionHypothesis
      obtain ⟨id, next', drawnAfter⟩ := draw?_pair_counting next calls
      refine ⟨id, next', calls + 1, ?_⟩
      rw [sourceAfter_succ]
      dsimp only
      rw [Alphabet.draw, drawn, Option.getD_some]
      exact drawnAfter

/-- From a counting source, a fill of one identifier of two symbols over `a` and `b` into a fresh
filter accepts the first candidate drawn, after one request. -/
theorem fill_counting_pair
    (hash : List UInt8 → Lanes) :
    (⟨Alphabet.ab, 2, 1, some 3⟩ : FillPlan).fill (Bloom.withParams hash ⟨64, 3⟩)
        ({ script := [], fallback := .counter 0 } : ScriptedSource) =
      (.filled [Identifier.ofSymbols [97, 98]] 0 0,
        (Bloom.withParams hash ⟨64, 3⟩).insert (Identifier.ofSymbols [97, 98]).bytes,
        RandomSource.after 8 1 ({ script := [], fallback := .counter 0 } : ScriptedSource)) := by
  -- the one request yields the bytes 0 to 7, which spell the symbols 97 and 98 in turn
  have answered : ∀ k (h : k < [[(0 : UInt8), 1, 2, 3, 4, 5, 6, 7]].length),
      RandomSource.answer (bufferSize 2) k ({ script := [], fallback := .counter 0 } : ScriptedSource) =
        .ok [[(0 : UInt8), 1, 2, 3, 4, 5, 6, 7]][k] := by
    intro k inBuffers
    obtain rfl : k = 0 := Nat.lt_one_iff.mp inBuffers
    rfl
  have drawn := Alphabet.draw?_of_enough Alphabet.ab 2 _ _ answered (by decide +kernel)
    (by decide +kernel)
  have spelled : ([[(0 : UInt8), 1, 2, 3, 4, 5, 6, 7]].flatMap
      Alphabet.ab.symbolsOf).take 2 = [97, 98] := by
    decide +kernel
  rw [spelled] at drawn
  have fresh : (Bloom.withParams hash ⟨64, 3⟩).contains (Identifier.ofSymbols [97, 98]).bytes = false :=
    Bloom.contains_withParams _ _ _
  unfold fill
  rw [run, if_neg (by decide), drawn]
  simp only [absorb, Bloom.insertIfAbsent, fresh, Bool.false_eq_true, if_false, if_true]
  rw [run, if_pos (by decide), Option.getD_some, show bufferSize 2 = 8 by decide]
  rfl

/-- From a counting source into a filter that holds every key, with no limit on the rejections in
a row, a fill never ends: it refuses every candidate. -/
theorem fill_counting_full
    (hash : List UInt8 → Lanes) :
    ((⟨Alphabet.ab, 2, 1, none⟩ : FillPlan).fill ((Bloom.withParams hash ⟨1, 1⟩).insert [])
      ({ script := [], fallback := .counter 0 } : ScriptedSource)).1 = .stalled := by
  have full : ∀ key, ((Bloom.withParams hash ⟨1, 1⟩).insert []).contains key = true :=
    Bloom.contains_insert_one_bit hash 1 []
  unfold fill
  cases ranTo : (⟨Alphabet.ab, 2, 1, none⟩ : FillPlan).run {} ((Bloom.withParams hash ⟨1, 1⟩).insert [])
      ({ script := [], fallback := .counter 0 } : ScriptedSource) with
  | none =>
      rfl
  | some result =>
      exfalso
      obtain ⟨n, -, going, final⟩ := run_ends ranTo
      rcases final with ⟨progress, replayed, complete, -⟩ | stopped
      · -- no candidate is ever accepted, so no batch is complete
        have nothingAccepted := (replay_ledger _ (by decide) _ _ replayed).length_admitted
        rw [Bloom.admitted_eq_nil_of_full full, List.length_nil] at nothingAccepted
        exact absurd complete (by rw [← nothingAccepted]; decide)
      · -- with no limit only a crash ends a fill, and the source never crashes
        obtain ⟨m, progress, held, -, -, -, ended⟩ := stopped_after_going going stopped
        rcases absorb_eq_stop ended with ⟨crash, -, -⟩ | ⟨_, _, -, -, capped, -⟩
        · obtain ⟨_, _, _, drawn⟩ := draw?_sourceAfter_pair_counting 1 none m
          dsimp only at crash
          rw [Alphabet.draw, drawn, Option.getD_some] at crash
          cases crash
        · cases capped

/-- Fills from a counting source: one identifier of two symbols into a fresh filter, and, with no
limit, a fill into a filter that holds every key, which never ends. -/
theorem fill_admits_fresh_candidates_counting :
    let plan : FillPlan := ⟨Alphabet.ab, 2, 1, some 3⟩
    let filter := Bloom.withParams keyHash ⟨64, 3⟩
    let source : ScriptedSource := { script := [], fallback := .counter 0 }
    let outcome := FillOutcome.filled [Identifier.ofSymbols [97, 98]] 0 0
    let filter' := filter.insert (Identifier.ofSymbols [97, 98]).bytes
    let source' := RandomSource.after 8 1 source
    let unlimited : FillPlan := ⟨Alphabet.ab, 2, 1, none⟩
    let full := (Bloom.withParams keyHash ⟨1, 1⟩).insert []
    (plan.maxConsecutiveRejections ≠ some 0 ∧ plan.fill filter source = (outcome, filter', source') ∧
      outcome ≠ .stalled ∧
      ∃ n,
        let draws := plan.drawsFrom n source
        let ids := filter.admitted (candidates draws)
        source' = plan.sourceAfter n source ∧
          (∀ m < n, plan.Going filter (plan.drawsFrom m source)) ∧
          filter' = filter.insertAll (ids.map Identifier.bytes) ∧
          ((outcome = .filled ids ((candidates draws).length - ids.length) (draws.countP failed) ∧
              ids.length = plan.capacity ∧ ids.Nodup ∧
              (∀ i (h : i < ids.length),
                (filter.insertAll ((ids.take i).map Identifier.bytes)).contains ids[i].bytes = false) ∧
              (∀ id ∈ ids, filter'.contains id.bytes = true) ∧
              ∀ id ∈ ids, ∃ symbols, id = Identifier.ofSymbols symbols ∧
                symbols.length = plan.length ∧ ∀ symbol ∈ symbols, symbol ∈ plan.alphabet.symbols.toList) ∨
            (ids.length < plan.capacity ∧ ∃ limit, plan.maxConsecutiveRejections = some limit ∧
              outcome = .exhausted limit ∧ filter.RejectsLast limit (candidates draws)) ∨
            (ids.length < plan.capacity ∧ outcome = .crashed ∧
              draws.getLast? = some (.error .crashed)))) ∧
      (unlimited.maxConsecutiveRejections ≠ some 0 ∧ (unlimited.fill full source).1 = .stalled ∧
        (∀ k < 2, (unlimited.alphabet.draw? unlimited.length (unlimited.sourceAfter k source)).isSome) ∧
        unlimited.Going full (unlimited.drawsFrom 2 source)) := by
  intro plan filter source outcome filter' source' unlimited full
  have notStalled : outcome ≠ .stalled := fun same => FillOutcome.noConfusion same
  have drawsEnd :
      ∀ k < 2, (unlimited.alphabet.draw? unlimited.length (unlimited.sourceAfter k source)).isSome := by
    intro k _
    obtain ⟨_, _, _, drawn⟩ := draw?_sourceAfter_pair_counting 1 none k
    exact Option.isSome_iff_exists.mpr ⟨_, drawn⟩
  exact ⟨⟨by decide, fill_counting_pair keyHash, notStalled,
      (fill_admits_fresh_candidates plan (by decide) filter source).1 outcome filter' source'
        (fill_counting_pair keyHash) notStalled⟩,
    ⟨by decide, fill_counting_full keyHash, drawsEnd,
      (fill_admits_fresh_candidates unlimited (by decide) full source).2 (fill_counting_full keyHash)
        2 drawsEnd⟩⟩

end FillPlan

end IdFactory
