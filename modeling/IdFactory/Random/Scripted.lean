import IdFactory.Random.Source
import IdFactory.Random.SplitMix

namespace IdFactory.Random

/-!
# Scripted sources

A scripted source answers requests from a list of prepared answers, one
per request, and once they are used up from a fallback generator. A
prepared answer is a byte pattern, repeated cyclically to the requested
size (an empty pattern gives zeros), a failure, or a crash. The fallbacks
are a counter, whose byte goes up by one with wrap-around for every byte
written, and a SplitMix64 generator. The source counts the requests it
has answered, crashes included.
-/

/-- A prepared answer of a scripted source. -/
inductive ScriptEntry where
  | pattern (bytes : List UInt8)
  | failure
  | crash
  deriving Repr, DecidableEq

/-- The generator that answers once the script is used up. -/
inductive Fallback where
  | counter (next : UInt8)
  | splitMix (generator : SplitMix)
  deriving Repr, DecidableEq

/-- The reason a scripted failure gives. -/
def scriptedFailureReason : String := "scripted failure"

/-- A random source that replays a script, then a fallback generator. -/
structure ScriptedSource where
  script : List ScriptEntry
  fallback : Fallback
  /-- The number of requests answered so far. -/
  calls : Nat := 0
  deriving Repr, DecidableEq

/-- A pattern repeated cyclically to `size` bytes; zeros for the empty pattern. -/
def cyclic (pattern : List UInt8) (size : Nat) : List UInt8 :=
  let table := pattern.toArray
  if table.size = 0 then List.replicate size 0
  else (List.range size).map fun i => table.getD (i % table.size) 0

/-- The bytes `start`, `start + 1`, … with wrap-around, `size` of them. -/
def countingBytes (start : UInt8) (size : Nat) : List UInt8 :=
  (List.range size).map fun i => start + i.toUInt8

/-- Answer a request from a fallback, and the fallback after it. -/
def Fallback.fill : Fallback → Nat → List UInt8 × Fallback
  | .counter next, size => (countingBytes next size, .counter (next + size.toUInt8))
  | .splitMix g, size =>
    let (bytes, g') := g.bytes size
    (bytes, .splitMix g')

/-- Answer a request: the next prepared answer, or the fallback once there is none. -/
def ScriptedSource.fill (s : ScriptedSource) (size : Nat) :
    Except DrawFailure (List UInt8) × ScriptedSource :=
  let s' := { s with calls := s.calls + 1 }
  match s.script with
  | .pattern bytes :: rest => (.ok (cyclic bytes size), { s' with script := rest })
  | .failure :: rest => (.error (.failed scriptedFailureReason), { s' with script := rest })
  | .crash :: rest => (.error .crashed, { s' with script := rest })
  | [] =>
    let (bytes, fallback) := s.fallback.fill size
    (.ok bytes, { s' with fallback := fallback })

instance : RandomSource ScriptedSource where
  fill := ScriptedSource.fill

/-- A source with no script: SplitMix64 from a given state. -/
def ScriptedSource.seeded (state : UInt64) : ScriptedSource :=
  { script := [], fallback := .splitMix ⟨state⟩ }

/-- The source used when none is given: no script, SplitMix64 from state zero. -/
def ScriptedSource.standard : ScriptedSource :=
  ScriptedSource.seeded 0

end IdFactory.Random
