import Std.Data.HashSet
import IdFactory.Filter.Probe
import IdFactory.Filter.Sizing

namespace IdFactory.Filter

/-!
# Bloom filters

A Bloom filter holds a set of bit positions and the number of insertions
made. Inserting a key sets the positions it probes; a key is reported
present when all of them are set. A filter never forgets a key it was
given, and may report one it was never given. The size and hash count are
at least one, so every key probes at least one position of a non-empty
range. The hash that a key's positions are drawn from is the filter's own,
given when it is built.
-/

/-- A Bloom filter: the hash its positions are drawn from, its set positions, size, hash count
and insertion count. -/
structure Bloom where
  hash : List UInt8 → Lanes
  sizeBits : Nat
  hashCount : Nat
  bits : Std.HashSet Nat
  /-- The insertions made, repeats included. -/
  count : Nat

namespace Bloom

/-- An empty filter over a hash, of given parameters, each raised to at least one. -/
def withParams (hash : List UInt8 → Lanes) (p : FilterParams) : Bloom :=
  { hash := hash, sizeBits := max p.sizeBits 1, hashCount := max p.hashCount 1, bits := ∅,
    count := 0 }

/-- An empty filter over a hash, sized for a number of keys at a rate of wrong answers. -/
def sized (hash : List UInt8 → Lanes) (capacity : Nat) (rate : Float) : Bloom :=
  withParams hash (FilterParams.optimal capacity rate)

/-- The positions a key probes in this filter. -/
def positions (f : Bloom) (key : List UInt8) : List Nat :=
  (f.hash key).probes f.hashCount f.sizeBits

/-- Set the positions of a key and count the insertion. -/
def insert (f : Bloom) (key : List UInt8) : Bloom :=
  { f with bits := (f.positions key).foldl (fun bits p => bits.insert p) f.bits,
           count := f.count + 1 }

/-- Whether all positions of a key are set. -/
def contains (f : Bloom) (key : List UInt8) : Bool :=
  (f.positions key).all f.bits.contains

/-- Insert a key unless it is reported present; whether it was inserted. -/
def insertIfAbsent (f : Bloom) (key : List UInt8) : Bool × Bloom :=
  if f.contains key then (false, f) else (true, f.insert key)

/-- Whether no insertion was made. -/
def isEmpty (f : Bloom) : Bool :=
  f.count == 0

/-- The estimated rate of wrong answers at the current count. -/
def estimatedRate (f : Bloom) : Float :=
  falsePositiveRate f.sizeBits f.hashCount f.count

/-- A call on a filter: an insertion, or an insertion unless the key is reported present. -/
inductive Call where
  | insert (key : List UInt8)
  | insertIfAbsent (key : List UInt8)
  deriving Repr, DecidableEq

/-- The key a call names. -/
def Call.key : Call → List UInt8
  | .insert key => key
  | .insertIfAbsent key => key

/-- Make one call: whether it inserted its key, and the filter after it. An insertion always
inserts. -/
def perform (f : Bloom) : Call → Bool × Bloom
  | .insert key => (true, f.insert key)
  | .insertIfAbsent key => f.insertIfAbsent key

/-- Make calls one after the other: the answer of each, in order, and the filter after them. -/
def replay (f : Bloom) : List Call → List Bool × Bloom
  | [] => ([], f)
  | call :: rest =>
    let (answer, f') := f.perform call
    let (answers, f'') := f'.replay rest
    (answer :: answers, f'')

/-- Insert every key of a list, in order. -/
def insertAll (f : Bloom) (keys : List (List UInt8)) : Bloom :=
  keys.foldl insert f

/-- Offer every key of a list in order: the filter after them, the number inserted, and the
offsets of those refused, in order. -/
def offerAll (f : Bloom) (keys : List (List UInt8)) : Bloom × Nat × List Nat :=
  let step := fun (acc : Bloom × Nat × List Nat × Nat) key =>
    let (f, accepted, refused, offset) := acc
    let (inserted, f') := f.insertIfAbsent key
    if inserted then (f', accepted + 1, refused, offset + 1)
    else (f', accepted, offset :: refused, offset + 1)
  let (f', accepted, refused, _) := keys.foldl step (f, 0, [], 0)
  (f', accepted, refused.reverse)

/-- The offsets of the keys of a list reported present, in order. -/
def hits (f : Bloom) (keys : List (List UInt8)) : List Nat :=
  ((keys.zip (List.range keys.length)).filter fun (key, _) => f.contains key).map Prod.snd

/-- Setting a list of positions sets exactly those positions besides the ones already set. -/
theorem contains_foldl_insert (ps : List Nat) (bits : Std.HashSet Nat) (q : Nat) :
    (ps.foldl (fun bits p => bits.insert p) bits).contains q = (bits.contains q || ps.contains q) := by
  induction ps generalizing bits with
  | nil => simp
  | cons p ps ih =>
    rw [List.foldl_cons, ih, Std.HashSet.contains_insert, List.contains_cons]
    cases h : bits.contains q <;> cases h' : (p == q) <;> cases h'' : (q == p) <;> simp_all

@[simp]
theorem sizeBits_insert (f : Bloom) (key : List UInt8) : (f.insert key).sizeBits = f.sizeBits :=
  rfl

@[simp]
theorem hashCount_insert (f : Bloom) (key : List UInt8) : (f.insert key).hashCount = f.hashCount :=
  rfl

@[simp]
theorem count_insert (f : Bloom) (key : List UInt8) : (f.insert key).count = f.count + 1 :=
  rfl

/-- Inserting a key changes no key's positions, since positions depend on the size and hash
count only. -/
@[simp]
theorem positions_insert (f : Bloom) (key other : List UInt8) :
    (f.insert key).positions other = f.positions other :=
  rfl

/-- The positions set after an insertion: those set before and those of the key. -/
theorem bits_contains_insert (f : Bloom) (key : List UInt8) (q : Nat) :
    (f.insert key).bits.contains q = (f.bits.contains q || (f.positions key).contains q) :=
  contains_foldl_insert _ _ _

/-- A filter reports every key it was given. -/
theorem contains_insert_self (f : Bloom) (key : List UInt8) : (f.insert key).contains key = true := by
  rw [contains, positions_insert, List.all_eq_true]
  intro q hq
  rw [bits_contains_insert, List.contains_iff_mem.mpr hq, Bool.or_true]

/-- A key reported before an insertion is still reported after it. -/
theorem contains_insert_of_contains (f : Bloom) (key other : List UInt8)
    (h : f.contains other = true) : (f.insert key).contains other = true := by
  rw [contains, List.all_eq_true] at h
  rw [contains, positions_insert, List.all_eq_true]
  intro q hq
  rw [bits_contains_insert, h q hq, Bool.true_or]

theorem insertAll_append (f : Bloom) (keys more : List (List UInt8)) :
    f.insertAll (keys ++ more) = (f.insertAll keys).insertAll more := by
  simp [insertAll, List.foldl_append]

/-- Inserting keys keeps every key reported before. -/
theorem contains_insertAll_of_contains (f : Bloom) (keys : List (List UInt8)) {key : List UInt8}
    (h : f.contains key = true) : (f.insertAll keys).contains key = true := by
  induction keys generalizing f with
  | nil => exact h
  | cons first rest ih => exact ih (f.insert first) (contains_insert_of_contains f first key h)

/-- Every key inserted is reported. -/
theorem contains_insertAll_of_mem (f : Bloom) {keys : List (List UInt8)} {key : List UInt8}
    (member : key ∈ keys) : (f.insertAll keys).contains key = true := by
  induction keys generalizing f with
  | nil => cases member
  | cons first rest ih =>
    rcases List.mem_cons.mp member with rfl | later
    · exact contains_insertAll_of_contains _ rest (contains_insert_self f _)
    · exact ih (f.insert first) later

/-- A key is inserted exactly when it was not reported present. -/
theorem insertIfAbsent_fst (f : Bloom) (key : List UInt8) :
    (f.insertIfAbsent key).1 = !f.contains key := by
  unfold insertIfAbsent
  cases f.contains key <;> rfl

/-- A refused insertion changes nothing. -/
theorem insertIfAbsent_of_contains {f : Bloom} {key : List UInt8} (present : f.contains key = true) :
    f.insertIfAbsent key = (false, f) := by
  simp [insertIfAbsent, present]

end Bloom

end IdFactory.Filter
