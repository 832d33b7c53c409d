import IdFactory.Remote.Wire
import IdFactory.Random.Scripted
import IdFactory.Filter.Murmur

namespace IdFactory.Remote

/-!
# A fetch through the bucket service is an allocation

A client fetching a batch from the bucket service over a factory, through
any faithful transport, gets what the factory's own allocation gives, and
the factory changes just as it would: the same identifiers in the same
order, an exhausted pool as an exhausted pool, and any other failure as a
failure of the remote source reading `Internal: ` and the failure's message.
The only exception is a batch whose message is longer than a client
decodes: the factory has handed it out all the same, and the client sees a
failure of the remote source naming the out-of-range code. A factory failure
comes back to a client as an exhausted pool exactly when it was one.
-/

/-- A failure sent as a status comes back as an exhausted pool when it was one, and otherwise as
a failure of the remote source naming the internal code and the failure's message. -/
theorem toError_toStatus (e : FactoryError) :
    e.toStatus.toError =
      if e = .poolExhausted then .poolExhausted else .transport ("Internal: " ++ e.message) := by
  cases e <;> rfl

/-- Only an exhausted pool comes back as one. -/
theorem toError_toStatus_eq_poolExhausted_iff (e : FactoryError) :
    e.toStatus.toError = .poolExhausted ↔ e = .poolExhausted := by
  rw [toError_toStatus]
  split <;> simp_all

section Fetch

variable {σ : Type} {t : Transport}

/-- A fetch asks the service, and so the factory, for one allocation, and hands its answer to
the transport. -/
theorem fetch_eq (f : Factory σ) :
    BatchSource.fetch (ServiceClient.mk t f) =
      ((t.deliver (f.allocate.1.mapError FactoryError.toStatus)).mapError Status.toError,
        ⟨t, f.allocate.2⟩) :=
  rfl

/-- What the client receives is what the transport makes of the allocation's answer. -/
theorem fetch_fst_of_allocate
    (f : Factory σ)
    {r : Except FactoryError (List Identifier)}
    (allocated : f.allocate.1 = r) :
    (BatchSource.fetch (ServiceClient.mk t f)).1 =
      (t.deliver (r.mapError FactoryError.toStatus)).mapError Status.toError := by
  rw [fetch_eq, ← allocated]

/-- A batch handed out whose message is within the limit reaches the client as it is. -/
theorem fetch_of_allocate_ok_within
    (faithful : t.Faithful)
    (f : Factory σ)
    {ids : List Identifier}
    (allocated : f.allocate.1 = .ok ids)
    (within : t.messageLength ids ≤ t.decodeLimit) :
    (BatchSource.fetch (ServiceClient.mk t f)).1 = .ok ids := by
  rw [fetch_fst_of_allocate f allocated]
  show (t.deliver (.ok ids)).mapError Status.toError = _
  rw [faithful.within ids within]
  rfl

/-- A batch handed out whose message is too long reaches the client as a failure of the remote
source naming the out-of-range code. -/
theorem fetch_of_allocate_ok_beyond
    (faithful : t.Faithful)
    (f : Factory σ)
    {ids : List Identifier}
    (allocated : f.allocate.1 = .ok ids)
    (beyond : t.decodeLimit < t.messageLength ids) :
    ∃ message, (BatchSource.fetch (ServiceClient.mk t f)).1 =
      .error (.transport ("OutOfRange: " ++ message)) := by
  obtain ⟨message, outOfRange⟩ := faithful.beyond ids beyond
  refine ⟨message, ?_⟩
  rw [fetch_fst_of_allocate f allocated]
  show (t.deliver (.ok ids)).mapError Status.toError = _
  rw [outOfRange]
  rfl

/-- A failed allocation reaches the client through its status. -/
theorem fetch_of_allocate_error
    (faithful : t.Faithful)
    (f : Factory σ)
    {e : FactoryError}
    (refused : f.allocate.1 = .error e) :
    (BatchSource.fetch (ServiceClient.mk t f)).1 =
      .error (if e = .poolExhausted then .poolExhausted
        else .transport ("Internal: " ++ e.message)) := by
  rw [fetch_fst_of_allocate f refused]
  show (t.deliver (.error e.toStatus)).mapError Status.toError = _
  rw [faithful.status, ← toError_toStatus]
  rfl

end Fetch

/-- For every factory and every faithful transport: a fetch through the bucket service leaves
the factory as its allocation does; a batch the allocation hands out reaches the client in the
same order when its message is within the limit, and as a failure of the remote source naming
the out-of-range code when it is longer; a failed allocation reaches the client as an exhausted
pool when it was one and otherwise as a failure of the remote source reading `Internal: ` and its
message; so the fetch fails with an exhausted pool exactly when the allocation does, and any
factory failure comes back as an exhausted pool exactly when it was one. -/
theorem fetch_agrees_with_allocate
    {σ : Type}
    (t : Transport)
    (faithful : t.Faithful)
    (f : Factory σ) :
    (BatchSource.fetch (ServiceClient.mk t f)).2 = ServiceClient.mk t f.allocate.2 ∧
    (∀ ids, f.allocate.1 = .ok ids →
      (t.messageLength ids ≤ t.decodeLimit →
        (BatchSource.fetch (ServiceClient.mk t f)).1 = .ok ids) ∧
      (t.decodeLimit < t.messageLength ids → ∃ message,
        (BatchSource.fetch (ServiceClient.mk t f)).1 =
          .error (.transport ("OutOfRange: " ++ message)))) ∧
    (∀ e, f.allocate.1 = .error e →
      (BatchSource.fetch (ServiceClient.mk t f)).1 =
        .error (if e = .poolExhausted then .poolExhausted
          else .transport ("Internal: " ++ e.message))) ∧
    ((BatchSource.fetch (ServiceClient.mk t f)).1 = .error .poolExhausted ↔
      f.allocate.1 = .error .poolExhausted) ∧
    (∀ e : FactoryError, e.toStatus.toError = .poolExhausted ↔ e = .poolExhausted) := by
  refine ⟨rfl, fun _ allocated => ⟨fetch_of_allocate_ok_within faithful f allocated,
    fetch_of_allocate_ok_beyond faithful f allocated⟩, fun _ => fetch_of_allocate_error faithful f,
    ?_, toError_toStatus_eq_poolExhausted_iff⟩
  -- an exhausted pool comes back only from a failed allocation, and only from exhaustion
  cases allocated : f.allocate.1 with
  | ok ids =>
      rcases Nat.lt_or_ge t.decodeLimit (t.messageLength ids) with beyond | within
      · obtain ⟨message, failed⟩ := fetch_of_allocate_ok_beyond faithful f allocated beyond
        rw [failed]
        simp
      · rw [fetch_of_allocate_ok_within faithful f allocated within]
  | error e =>
      rw [fetch_of_allocate_error faithful f allocated]
      split <;> simp_all

theorem fetch_agrees_with_allocate_wire :
    wire.Faithful ∧
      let f := Factory.build Filter.keyHash ({} : FactoryConfig) Random.ScriptedSource.standard
      (BatchSource.fetch (ServiceClient.mk wire f)).2 = ServiceClient.mk wire f.allocate.2 ∧
      (∀ ids, f.allocate.1 = .ok ids →
        (wire.messageLength ids ≤ wire.decodeLimit →
          (BatchSource.fetch (ServiceClient.mk wire f)).1 = .ok ids) ∧
        (wire.decodeLimit < wire.messageLength ids → ∃ message,
          (BatchSource.fetch (ServiceClient.mk wire f)).1 =
            .error (.transport ("OutOfRange: " ++ message)))) ∧
      (∀ e, f.allocate.1 = .error e →
        (BatchSource.fetch (ServiceClient.mk wire f)).1 =
          .error (if e = .poolExhausted then .poolExhausted
            else .transport ("Internal: " ++ e.message))) ∧
      ((BatchSource.fetch (ServiceClient.mk wire f)).1 = .error .poolExhausted ↔
        f.allocate.1 = .error .poolExhausted) ∧
      (∀ e : FactoryError, e.toStatus.toError = .poolExhausted ↔ e = .poolExhausted) :=
  ⟨wire_faithful, fetch_agrees_with_allocate wire wire_faithful _⟩

end IdFactory.Remote
