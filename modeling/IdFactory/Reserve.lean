import IdFactory.Error
import IdFactory.Symbol.Identifier

namespace IdFactory

/-!
# Reserves

A reserve hands out identifiers one at a time from batches it fetches from
a batch source. It gives the last identifier of its held batch first; when
it holds none it fetches a new batch, gives its last identifier and appends
the rest to what it holds. A failed fetch, or an empty batch, is a failure of the request.
-/

/-- A source of batches of identifiers, of state type `β`. -/
class BatchSource (β : Type) where
  /-- Fetch one batch, or fail; also the source after the request. -/
  fetch : β → Except FactoryError (List Identifier) × β

/-- The identifiers a reserve holds, handed out from the end. -/
structure Reserve where
  held : List Identifier := []
  deriving Repr

namespace Reserve

/-- The number of identifiers held. -/
def remaining (r : Reserve) : Nat :=
  r.held.length

/-- The next identifier, fetching a batch from the source when none is held. -/
def next {β : Type} [BatchSource β] (r : Reserve) (source : β) :
    Except FactoryError Identifier × Reserve × β :=
  match r.held.getLast? with
  | some id => (.ok id, ⟨r.held.dropLast⟩, source)
  | none =>
    match BatchSource.fetch source with
    | (.error e, source) => (.error e, r, source)
    | (.ok batch, source) =>
      match batch.getLast? with
      | some id => (.ok id, ⟨r.held ++ batch.dropLast⟩, source)
      | none => (.error .poolExhausted, r, source)

/-- A reserve that holds identifiers hands out its last one without asking the source. -/
theorem next_of_held {β : Type} [BatchSource β] (r : Reserve) (source : β) (h : r.held ≠ []) :
    r.next source = (.ok (r.held.getLast h), ⟨r.held.dropLast⟩, source) := by
  unfold next
  rw [List.getLast?_eq_some_getLast h]

/-- Handing out a held identifier leaves one fewer held. -/
theorem remaining_next_of_held {β : Type} [BatchSource β] (r : Reserve) (source : β)
    (h : r.held ≠ []) : (r.next source).2.1.remaining = r.remaining - 1 := by
  rw [next_of_held r source h]
  simp [remaining]

end Reserve

end IdFactory
