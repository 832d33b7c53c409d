import IdFactory.Factory.Basic
import IdFactory.Reserve
import IdFactory.Remote.Status

namespace IdFactory.Remote

/-!
# The bucket service and its clients

The bucket service answers an allocation request with the factory's next
batch, or with the status of the factory's failure. A client of the service
is a batch source: each fetch is one allocation, and a failure comes back
through its status, so that an exhausted pool is still seen as one.
A factory is a batch source by itself too, without the status in between.

Between the service and a client stands a transport, which this library
takes as given: what the client receives for each answer, the length of the
message that carries a batch, and the longest message the client decodes.
A client relies on three things of it (`Transport.Faithful`): a status
arrives unchanged, a batch whose message is within the limit arrives
unchanged, and a batch whose message is longer arrives as a status that it
is out of range, although the service has handed the batch out.
-/

variable {σ : Type}

/-- Answer an allocation request: the next batch, or the status of the failure. -/
def serve (f : Factory σ) : Except Status (List Identifier) × Factory σ :=
  let (r, f) := f.allocate
  (r.mapError FactoryError.toStatus, f)

/-- A transport between the service and its clients: what a client receives for each answer of
the service, the length of the message carrying a batch, and the longest message a client
decodes. -/
structure Transport where
  deliver : Except Status (List Identifier) → Except Status (List Identifier)
  messageLength : List Identifier → Nat
  decodeLimit : Nat

/-- What a client relies on of its transport: a status arrives unchanged, a batch whose message
is within the limit arrives unchanged, and a batch whose message is longer arrives as a status
that it is out of range. -/
structure Transport.Faithful (t : Transport) : Prop where
  status : ∀ s, t.deliver (.error s) = .error s
  within : ∀ ids, t.messageLength ids ≤ t.decodeLimit → t.deliver (.ok ids) = .ok ids
  beyond : ∀ ids, t.decodeLimit < t.messageLength ids →
    ∃ message, t.deliver (.ok ids) = .error ⟨.outOfRange, message⟩

/-- A client of the bucket service of a factory, over a transport. -/
structure ServiceClient (σ : Type) where
  transport : Transport
  factory : Factory σ

instance : BatchSource (Factory σ) where
  fetch f := f.allocate

instance : BatchSource (ServiceClient σ) where
  fetch c :=
    let (r, f) := serve c.factory
    ((c.transport.deliver r).mapError Status.toError, { c with factory := f })

end IdFactory.Remote
