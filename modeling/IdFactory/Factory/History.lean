import IdFactory.Error

namespace IdFactory

/-!
# Histories of issued identifiers

A factory warms its filter from a history of identifiers issued before.
A history is seen through two queries: how many identifiers it holds, and
the rows themselves, each an identifier or a failure to read one. Either
query may fail as a whole.
-/

/-- The answers of a history to its two queries. -/
structure History where
  count : Except FactoryError Nat
  rows : Except FactoryError (List (Except FactoryError String))

/-- The history of an in-memory list of identifiers. -/
def History.ofList (ids : List String) : History :=
  ⟨.ok ids.length, .ok (ids.map .ok)⟩

/-- What warming a filter from a history reports: the count the history gave, the rows
loaded and skipped, and whether a query failed as a whole. -/
structure WarmupReport where
  expected : Nat := 0
  loaded : Nat := 0
  skipped : Nat := 0
  degraded : Bool := false
  deriving Repr, DecidableEq

end IdFactory
