import IdFactory.Filter.Bloom

namespace IdFactory.Filter.Bloom

/-!
# Runs of a Bloom filter

A call never changes a filter's hash, size or hash count, so every call of a run
probes a key at the positions the filter was built with. The positions set
after a run are then exactly those the inserted keys probe, and the count is
the number of insertions made. A filter therefore reports every key it was
given in every later state, so it has no false negatives, and what it
reports present stays present. An insertion unless present refuses exactly
the keys reported present, and then changes nothing.

A key counts as inserted when its call answered `true`: every insertion,
and every insertion unless present that was not refused.
-/

/-- The keys a run of calls inserted, in order: those of the calls answered `true`. -/
def insertedBy
    (calls : List Call)
    (answers : List Bool) :
    List (List UInt8) :=
  (calls.zip answers).filterMap fun (call, answer) =>
    if answer then some call.key else none

@[simp]
theorem insertedBy_nil
    (answers : List Bool) :
    insertedBy [] answers = [] :=
  rfl

@[simp]
theorem insertedBy_cons
    (call : Call)
    (calls : List Call)
    (answer : Bool)
    (answers : List Bool) :
    insertedBy (call :: calls) (answer :: answers) =
      (if answer then [call.key] else []) ++ insertedBy calls answers := by
  cases answer <;> simp [insertedBy]

/-! ## One call -/

section Perform

variable (f : Bloom) (call : Call)

@[simp]
theorem sizeBits_perform : (f.perform call).2.sizeBits = f.sizeBits := by
  cases call with
  | insert key =>
      rfl
  | insertIfAbsent key =>
      simp only [perform, insertIfAbsent]
      split <;> rfl

@[simp]
theorem hashCount_perform : (f.perform call).2.hashCount = f.hashCount := by
  cases call with
  | insert key =>
      rfl
  | insertIfAbsent key =>
      simp only [perform, insertIfAbsent]
      split <;> rfl

/-- A call that inserts sets its key's positions; one that does not leaves the filter as it was. -/
theorem perform_eq
    : f.perform call =
      if (f.perform call).1 then (true, f.insert call.key) else (false, f) := by
  cases call with
  | insert key =>
      rfl
  | insertIfAbsent key =>
      simp only [perform, insertIfAbsent, Call.key]
      split <;> rfl

@[simp]
theorem positions_perform
    (key : List UInt8) :
    (f.perform call).2.positions key = f.positions key := by
  rw [perform_eq]
  split <;> rfl

/-- The positions set after a call: those set before, and the key's if it was inserted. -/
theorem bits_contains_perform
    (q : Nat) :
    (f.perform call).2.bits.contains q =
      (f.bits.contains q || ((f.perform call).1 && (f.positions call.key).contains q)) := by
  rw [perform_eq]
  cases (f.perform call).1 with
  | true =>
      simp [bits_contains_insert]
  | false =>
      simp

theorem count_perform :
    (f.perform call).2.count = f.count + if (f.perform call).1 then 1 else 0 := by
  rw [perform_eq]
  cases (f.perform call).1 <;> simp

theorem contains_perform_of_contains
    {key : List UInt8}
    (present : f.contains key = true) :
    (f.perform call).2.contains key = true := by
  rw [perform_eq]
  cases (f.perform call).1 with
  | true =>
      exact contains_insert_of_contains f call.key key present
  | false =>
      exact present

theorem contains_perform_key
    (inserted : (f.perform call).1 = true) :
    (f.perform call).2.contains call.key = true := by
  rw [perform_eq, inserted]
  exact contains_insert_self f call.key

end Perform

/-- An insertion unless present is refused exactly when the key is reported present. -/
theorem insertIfAbsent_eq_false_iff
    (f : Bloom)
    (key : List UInt8) :
    (f.insertIfAbsent key).1 = false ↔ f.contains key = true := by
  rw [insertIfAbsent_fst, Bool.not_eq_false']

/-! ## Runs -/

section Replay

variable (f : Bloom)

@[simp]
theorem replay_nil : f.replay [] = ([], f) :=
  rfl

theorem replay_cons
    (call : Call)
    (rest : List Call) :
    f.replay (call :: rest) =
      ((f.perform call).1 :: ((f.perform call).2.replay rest).1,
        ((f.perform call).2.replay rest).2) :=
  rfl

/-- A run of two lists of calls is the run of the second from where the first left off. -/
theorem replay_append
    (calls later : List Call) :
    f.replay (calls ++ later) =
      ((f.replay calls).1 ++ ((f.replay calls).2.replay later).1,
        ((f.replay calls).2.replay later).2) := by
  induction calls generalizing f with
  | nil =>
      rfl
  | cons call rest inductionHypothesis =>
      simp [replay_cons, inductionHypothesis]

@[simp]
theorem sizeBits_replay
    (calls : List Call) :
    (f.replay calls).2.sizeBits = f.sizeBits := by
  induction calls generalizing f with
  | nil =>
      rfl
  | cons call rest inductionHypothesis =>
      rw [replay_cons, inductionHypothesis, sizeBits_perform]

@[simp]
theorem hashCount_replay
    (calls : List Call) :
    (f.replay calls).2.hashCount = f.hashCount := by
  induction calls generalizing f with
  | nil =>
      rfl
  | cons call rest inductionHypothesis =>
      rw [replay_cons, inductionHypothesis, hashCount_perform]

@[simp]
theorem positions_replay
    (calls : List Call)
    (key : List UInt8) :
    (f.replay calls).2.positions key = f.positions key := by
  induction calls generalizing f with
  | nil =>
      rfl
  | cons call rest inductionHypothesis =>
      rw [replay_cons, inductionHypothesis, positions_perform]

/--
The positions set after a run: those set before, and every position that a
key the run inserted probes.
-/
theorem bits_contains_replay
    (calls : List Call)
    (q : Nat) :
    (f.replay calls).2.bits.contains q =
      (f.bits.contains q ||
        (insertedBy calls (f.replay calls).1).any fun key => (f.positions key).contains q) := by
  induction calls generalizing f with
  | nil =>
      simp
  | cons call rest inductionHypothesis =>
      rw [replay_cons, inductionHypothesis, bits_contains_perform, insertedBy_cons]
      simp only [positions_perform]
      cases (f.perform call).1 <;> simp [Bool.or_assoc]

/-- The count after a run: the count before, and one for every key the run inserted. -/
theorem count_replay
    (calls : List Call) :
    (f.replay calls).2.count = f.count + (insertedBy calls (f.replay calls).1).length := by
  induction calls generalizing f with
  | nil =>
      simp
  | cons call rest inductionHypothesis =>
      rw [replay_cons, inductionHypothesis, count_perform, insertedBy_cons]
      cases (f.perform call).1 <;> simp [Nat.add_assoc, Nat.add_comm]

theorem contains_replay_of_contains
    (calls : List Call)
    {key : List UInt8}
    (present : f.contains key = true) :
    (f.replay calls).2.contains key = true := by
  induction calls generalizing f with
  | nil =>
      exact present
  | cons call rest inductionHypothesis =>
      exact inductionHypothesis _ (contains_perform_of_contains f call present)

theorem contains_replay_of_mem_insertedBy
    (calls : List Call)
    {key : List UInt8}
    (member : key ∈ insertedBy calls (f.replay calls).1) :
    (f.replay calls).2.contains key = true := by
  induction calls generalizing f with
  | nil =>
      simp at member
  | cons call rest inductionHypothesis =>
      rw [replay_cons, insertedBy_cons] at member
      rw [replay_cons]
      rcases List.mem_append.mp member with inserted | later
      · have answered : (f.perform call).1 = true := by
          cases answer : (f.perform call).1 <;> simp_all
        have keyIs : key = call.key := by
          simpa [answered] using inserted
        subst keyIs
        exact contains_replay_of_contains _ rest (contains_perform_key f call answered)
      · exact inductionHypothesis _ later

end Replay

/-! ## Fresh filters -/

@[simp]
theorem bits_contains_withParams
    (hash : List UInt8 → Lanes)
    (p : FilterParams)
    (q : Nat) :
    (withParams hash p).bits.contains q = false := by
  simp [withParams]

/--
Every run of calls on a fresh filter over any hash keeps its size and hash
count; its set positions are exactly those the inserted keys probe, and its
count is the number of insertions. Every inserted key, and every key reported present,
stays reported present however the run goes on. In every state of the run
an insertion unless present is refused exactly when its key is reported
present, and is then a no-op.
-/
theorem replay_sets_exactly_inserted_positions
    (hash : List UInt8 → Lanes)
    (p : FilterParams)
    (calls later : List Call) :
    let f := withParams hash p
    let g := (f.replay calls).2
    let keys := insertedBy calls (f.replay calls).1
    g.sizeBits = f.sizeBits ∧ g.hashCount = f.hashCount ∧
      (∀ q, g.bits.contains q = true ↔ ∃ key ∈ keys, q ∈ f.positions key) ∧
      (∀ key ∈ keys, (f.replay (calls ++ later)).2.contains key = true) ∧
      (∀ key, g.contains key = true → (f.replay (calls ++ later)).2.contains key = true) ∧
      (∀ key, (g.insertIfAbsent key).1 = false ↔ g.contains key = true) ∧
      (∀ key, g.contains key = true → g.insertIfAbsent key = (false, g)) ∧
      g.count = keys.length := by
  intro f g keys
  have continued :
      ∀ key, g.contains key = true → (f.replay (calls ++ later)).2.contains key = true := by
    intro key present
    rw [replay_append]
    exact contains_replay_of_contains g later present
  refine ⟨sizeBits_replay f calls, hashCount_replay f calls, ?_, ?_, continued,
    insertIfAbsent_eq_false_iff g, fun key => insertIfAbsent_of_contains, ?_⟩
  · intro q
    rw [bits_contains_replay]
    simp [f, keys, List.any_eq_true]
  · intro key member
    exact continued key (contains_replay_of_mem_insertedBy f calls member)
  · rw [count_replay]
    simp [f, withParams, keys]

end IdFactory.Filter.Bloom
