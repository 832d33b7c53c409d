import IdFactory.Pool

namespace IdFactory.Pool

/-!
# Batches are conserved by the pool

Over any run of calls on a pool, the batches that `markFull` calls handed
in are, as a multiset, exactly the batches `pop` took out together with
those the full buckets still hold. So a batch comes out only as it went in,
whole and in its order, once for each time it went in, and nothing handed
in is lost. Every batch in the pool has the batch size, since `markFull`
refuses any other, and so every batch taken out has it too.

Each call changes at most one bucket, so each step is read off the buckets
before and after it (`batches_set`); the run is then one induction over the
calls.
-/

/-- The batch a call handed in, if it was a `markFull` that the pool took. -/
def Call.delivered? : Call → Answer → Option (List Identifier)
  | .markFull _ ids, .moved true => some ids
  | _, _ => none

/-- The batch an answer took out, if it was a `pop` that found a full bucket. -/
def Answer.taken? : Answer → Option (List Identifier)
  | .batch ids => ids
  | _ => none

/-- The batches a run of calls handed in, in order. -/
def delivered
    (calls : List Call)
    (answers : List Answer) :
    List (List Identifier) :=
  (calls.zip answers).filterMap fun (call, answer) => call.delivered? answer

/-- The batches a run of calls took out, in order. -/
def taken (answers : List Answer) : List (List Identifier) :=
  answers.filterMap Answer.taken?

/-- Every batch in the pool has the batch size. -/
def Sized (p : Pool) : Prop :=
  ∀ ids ∈ p.batches, ids.length = p.capacity

/-! ## Replacing one bucket -/

/--
Replacing one element of a list changes a `filterMap` of it only at that
element's place.
-/
theorem filterMap_set
    {α β : Type}
    {items : List α}
    {i : Nat}
    {old : α}
    (new : α)
    (extract : α → Option β)
    (at_i : items[i]? = some old) :
    items.filterMap extract =
        (items.take i).filterMap extract ++ (extract old).toList ++
          (items.drop (i + 1)).filterMap extract ∧
      (items.set i new).filterMap extract =
        (items.take i).filterMap extract ++ (extract new).toList ++
          (items.drop (i + 1)).filterMap extract := by
  obtain ⟨inBounds, oldIs⟩ := List.getElem?_eq_some_iff.mp at_i
  have shape : items = items.take i ++ old :: items.drop (i + 1) := by
    rw [← oldIs, ← List.drop_eq_getElem_cons inBounds, List.take_append_drop]
  have replaced : items.set i new = items.take i ++ new :: items.drop (i + 1) := by
    rw [List.set_eq_take_append_cons_drop, if_pos inBounds]
  constructor
  · conv => lhs; rw [shape]
    cases extracted : extract old <;> simp [extracted]
  · rw [replaced]
    cases extracted : extract new <;> simp [extracted]

/-- Replacing the bucket at an index changes the batches only at that bucket's place. -/
theorem batches_set
    {p : Pool}
    {idx : Nat}
    {old : Bucket}
    (new : Bucket)
    (at_idx : p.buckets[idx]? = some old) :
    ∃ front back,
      p.batches = front ++ (Bucket.batch? old).toList ++ back ∧
        ({ p with buckets := p.buckets.set! idx new }).batches =
          front ++ (Bucket.batch? new).toList ++ back := by
  have listAt : p.buckets.toList[idx]? = some old := by
    simpa using at_idx
  obtain ⟨before, after⟩ := filterMap_set new Bucket.batch? listAt
  exact ⟨_, _, before, by simpa [batches] using after⟩

/-- A bucket is at an index with a status exactly when the index names a bucket of it. -/
theorem status?_eq_some
    {p : Pool}
    {idx : Nat}
    {status : BucketStatus}
    (hasStatus : p.status? idx = some status) :
    ∃ bucket, p.buckets[idx]? = some bucket ∧ bucket.status = status := by
  unfold status? at hasStatus
  cases at_idx : p.buckets[idx]? with
  | none =>
      simp [at_idx] at hasStatus
  | some bucket =>
      simp only [at_idx, Option.map_some, Option.some.injEq] at hasStatus
      exact ⟨bucket, rfl, hasStatus⟩

theorem batch?_eq_none_of_status
    {bucket : Bucket}
    (notFull : bucket.status ≠ .full) :
    Bucket.batch? bucket = none := by
  cases bucket with
  | empty =>
      rfl
  | busy =>
      rfl
  | full ids =>
      exact absurd rfl notFull

/-! ## One call -/

theorem batches_markBusy
    (p : Pool)
    (idx : Nat) :
    (p.markBusy idx).2.batches = p.batches := by
  unfold markBusy
  split
  · rename_i wasEmpty
    obtain ⟨old, at_idx, oldEmpty⟩ := status?_eq_some (eq_of_beq wasEmpty)
    obtain ⟨front, back, before, after⟩ := batches_set .busy at_idx
    have oldHolds : Bucket.batch? old = none := batch?_eq_none_of_status (by simp [oldEmpty])
    rw [after, before, oldHolds]
    rfl
  · rfl

/-- A batch the pool takes joins the batches; one it refuses changes nothing. -/
theorem markFull_spec
    (p : Pool)
    (idx : Nat)
    (ids : List Identifier) :
    if (p.markFull idx ids).1 then
      (p.markFull idx ids).2.batches.Perm (ids :: p.batches) ∧ ids.length = p.capacity
    else (p.markFull idx ids).2 = p := by
  unfold markFull
  split
  · simp
  · rename_i rightSize
    split
    · rename_i wasBusy
      obtain ⟨old, at_idx, oldBusy⟩ := status?_eq_some (eq_of_beq wasBusy)
      obtain ⟨front, back, before, after⟩ := batches_set (.full ids) at_idx
      refine ⟨?_, Decidable.of_not_not rightSize⟩
      have oldHolds : Bucket.batch? old = none := batch?_eq_none_of_status (by simp [oldBusy])
      rw [after, before, oldHolds]
      simp [Bucket.batch?]
    · simp

/-- Taking a batch removes the first batch of the pool, and only it. -/
theorem pop_spec
    (p : Pool) :
    p.pop.1.toList ++ p.pop.2.batches = p.batches := by
  unfold pop
  split
  · rename_i noneFull
    rw [Array.findIdx?_eq_none_iff] at noneFull
    have empty : p.batches = [] := by
      rw [batches, List.filterMap_eq_nil_iff]
      intro bucket member
      exact batch?_eq_none_of_status (by simpa using noneFull bucket (by simpa using member))
    simp [empty]
  · rename_i idx firstFull
    obtain ⟨inBounds, -, beforeNotFull⟩ := Array.findIdx?_eq_some_iff_getElem.mp firstFull
    have at_idx : p.buckets[idx]? = some p.buckets[idx] := by simp [inBounds]
    have listAt : p.buckets.toList[idx]? = some p.buckets[idx] := by simp [inBounds]
    obtain ⟨before, after⟩ := filterMap_set Bucket.empty Bucket.batch? listAt
    have frontEmpty : (p.buckets.toList.take idx).filterMap Bucket.batch? = [] := by
      rw [List.filterMap_eq_nil_iff]
      intro bucket member
      obtain ⟨j, jBelow, bucketIs⟩ := List.mem_take_iff_getElem.mp member
      have jFront : j < idx := Nat.lt_of_lt_of_le jBelow (Nat.min_le_left _ _)
      have notFull := beforeNotFull j jFront
      apply batch?_eq_none_of_status
      simpa [← bucketIs] using notFull
    simp only [batches, Array.toList_set!, after, before, frontEmpty, at_idx]
    simp [Bucket.batch?]

@[simp]
theorem capacity_perform
    (p : Pool)
    (call : Call) :
    (p.perform call).2.capacity = p.capacity := by
  cases call <;> simp [perform]

/--
One call conserves batches: what it handed in, with the batches before it,
is what it took out, with the batches after it.
-/
theorem perform_conserves
    (p : Pool)
    (call : Call) :
    ((call.delivered? (p.perform call).1).toList ++ p.batches).Perm
      (((p.perform call).1.taken?).toList ++ (p.perform call).2.batches) := by
  cases call with
  | markBusy idx =>
      simp [perform, Call.delivered?, Answer.taken?, batches_markBusy]
  | markFull idx ids =>
      have spec := markFull_spec p idx ids
      cases took : (p.markFull idx ids).1 with
      | true =>
          simp only [took, if_true] at spec
          simpa [perform, took, Call.delivered?, Answer.taken?] using spec.1.symm
      | false =>
          simp only [took, Bool.false_eq_true, if_false] at spec
          simp [perform, took, spec, Call.delivered?, Answer.taken?]
  | pop =>
      simp [perform, Call.delivered?, Answer.taken?, pop_spec]
  | listEmpty | status _ | stats =>
      simp [perform, Call.delivered?, Answer.taken?]

/-- One call keeps every batch of the pool at the batch size, and takes out only such batches. -/
theorem perform_sized
    {p : Pool}
    (sized : Sized p)
    (call : Call) :
    Sized (p.perform call).2 ∧
      ∀ ids ∈ ((p.perform call).1.taken?).toList, ids.length = p.capacity := by
  have conserved := perform_conserves p call
  cases call with
  | markFull idx ids =>
      have spec := markFull_spec p idx ids
      cases took : (p.markFull idx ids).1 with
      | true =>
          simp only [took, if_true] at spec
          refine ⟨?_, by simp [perform, Answer.taken?]⟩
          intro batch member
          rcases List.mem_cons.mp (spec.1.subset member) with isNew | isOld
          · simpa [perform, isNew] using spec.2
          · simpa [perform] using sized batch isOld
      | false =>
          simp only [took, Bool.false_eq_true, if_false] at spec
          simpa [perform, took, spec, Answer.taken?] using sized
  | _ =>
      constructor
      · intro batch member
        rw [capacity_perform]
        exact sized batch (conserved.symm.subset (by simp [member]))
      · intro batch member
        exact sized batch (conserved.symm.subset (by simp [member]))

/-! ## Runs -/

@[simp]
theorem delivered_cons
    (call : Call)
    (calls : List Call)
    (answer : Answer)
    (answers : List Answer) :
    delivered (call :: calls) (answer :: answers) =
      (call.delivered? answer).toList ++ delivered calls answers := by
  cases given : call.delivered? answer <;> simp [delivered, given]

@[simp]
theorem taken_cons
    (answer : Answer)
    (answers : List Answer) :
    taken (answer :: answers) = answer.taken?.toList ++ taken answers := by
  cases given : answer.taken? <;> simp [taken, given]

theorem replay_cons
    (p : Pool)
    (call : Call)
    (rest : List Call) :
    p.replay (call :: rest) =
      ((p.perform call).1 :: ((p.perform call).2.replay rest).1,
        ((p.perform call).2.replay rest).2) :=
  rfl

open List in
/--
A run conserves batches: those handed in, with the batches at the start, are
those taken out, with the batches at the end.
-/
theorem replay_conserves
    (p : Pool)
    (calls : List Call) :
    (delivered calls (p.replay calls).1 ++ p.batches).Perm
      (taken (p.replay calls).1 ++ (p.replay calls).2.batches) := by
  induction calls generalizing p with
  | nil =>
      simp [replay, delivered, taken]
  | cons call rest inductionHypothesis =>
      rw [replay_cons, delivered_cons, taken_cons]
      let next := (p.perform call).2
      let handedIn := (call.delivered? (p.perform call).1).toList
      let tookOut := ((p.perform call).1.taken?).toList
      have step : (handedIn ++ p.batches).Perm (tookOut ++ next.batches) :=
        perform_conserves p call
      have later := inductionHypothesis next
      calc (handedIn ++ delivered rest (next.replay rest).1) ++ p.batches
          _ ~ delivered rest (next.replay rest).1 ++ (handedIn ++ p.batches) := by
            simpa only [List.append_assoc] using List.perm_append_comm_assoc _ _ _
          _ ~ delivered rest (next.replay rest).1 ++ (tookOut ++ next.batches) :=
            step.append_left _
          _ ~ tookOut ++ (delivered rest (next.replay rest).1 ++ next.batches) := by
            simpa only [List.append_assoc] using List.perm_append_comm_assoc _ _ _
          _ ~ tookOut ++ (taken (next.replay rest).1 ++ (next.replay rest).2.batches) :=
            later.append_left _
          _ = (tookOut ++ taken (next.replay rest).1) ++ (next.replay rest).2.batches := by
            rw [List.append_assoc]

/-- A run keeps every batch of the pool at the batch size, and takes out only such batches. -/
theorem replay_sized
    {p : Pool}
    (sized : Sized p)
    (calls : List Call) :
    Sized (p.replay calls).2 ∧ (p.replay calls).2.capacity = p.capacity ∧
      ∀ ids ∈ taken (p.replay calls).1, ids.length = p.capacity := by
  induction calls generalizing p with
  | nil =>
      simp [replay, taken, sized]
  | cons call rest inductionHypothesis =>
      obtain ⟨nextSized, tookSized⟩ := perform_sized sized call
      obtain ⟨endSized, sameCapacity, laterSized⟩ := inductionHypothesis nextSized
      rw [capacity_perform] at sameCapacity laterSized
      refine ⟨endSized, sameCapacity, ?_⟩
      rw [replay_cons, taken_cons]
      intro ids member
      rcases List.mem_append.mp member with now | later
      · exact tookSized ids now
      · exact laterSized ids later

@[simp]
theorem batches_new
    (count capacity : Nat) :
    (Pool.new count capacity).batches = [] := by
  simp [Pool.new, batches, Bucket.batch?]

/--
Over every run of calls on a new pool of buckets of `capacity` identifiers,
the batches `markFull` handed in are, as a multiset, those `pop` took out
and those the full buckets still hold, each batch whole and in its order.
Every batch `pop` takes out has `capacity` identifiers; a full bucket holds
exactly `capacity` identifiers, and an empty or busy bucket none.
-/
theorem replay_conserves_batches
    (count capacity : Nat)
    (calls : List Call) :
    let answers := ((Pool.new count capacity).replay calls).1
    let p := ((Pool.new count capacity).replay calls).2
    (delivered calls answers).Perm (taken answers ++ p.batches) ∧
      (∀ ids ∈ taken answers, ids.length = capacity) ∧
      ∀ bucket ∈ p.buckets,
        (Bucket.batch? bucket).map List.length =
          if bucket.status = .full then some capacity else none := by
  intro answers p
  have conserved := replay_conserves (Pool.new count capacity) calls
  have fresh : Sized (Pool.new count capacity) := by
    simp [Sized]
  obtain ⟨endSized, sameCapacity, tookSized⟩ := replay_sized fresh calls
  refine ⟨by simpa using conserved, tookSized, ?_⟩
  intro bucket member
  cases bucket with
  | full ids =>
      have held : ids ∈ p.batches :=
        List.mem_filterMap.mpr ⟨.full ids, by simpa using member, rfl⟩
      have sized := endSized ids held
      simp only [sameCapacity] at sized
      simp [Bucket.batch?, Bucket.status, sized, Pool.new]
  | empty =>
      rfl
  | busy =>
      rfl

end IdFactory.Pool
