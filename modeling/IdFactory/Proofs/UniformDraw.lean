import Mathlib.Data.Fintype.Vector
import Mathlib.Data.FinEnum
import Mathlib.Logic.Equiv.Defs
import IdFactory.Proofs.AlphabetChecks
import IdFactory.Proofs.DrawnSymbols

namespace IdFactory

open IdFactory.Random

/-!
# Every identifier is drawn equally often

A draw masks each random byte and keeps it when the masked value indexes a
symbol. Read a byte string as the successive buffers of a draw. Choose, for
each position `k` below the length, two symbols `x k` and `y k`, and change
the string so: the `k`-th kept byte has its masked index replaced by the
index of the symbol it stands for, exchanged with `x k` ↔ `y k`, and keeps
the bits above the mask; every other byte is left alone. A byte is kept
exactly when its masked index is below the number of symbols, so the change
keeps every byte's fate, and made twice it gives the string back. It turns
every string whose draw spells `x` into one whose draw spells `y`, with as
many requests, and back. So among the strings of a given number of buffers,
as many make a draw spell `x` in exactly that many requests as spell `y`:
with uniform random bytes, every identifier of a length is equally likely.
-/

/-! ## Byte strings as sources -/

namespace Random

/-- A byte string read as successive fill buffers: each request takes the next bytes, and a
request for more bytes than remain fails. -/
structure ByteString where
  bytes : List UInt8

/-- The reason a byte string gives when it has too few bytes left. -/
def byteStringUsedUp : String := "byte string used up"

instance : RandomSource ByteString where
  fill s size :=
    if size ≤ s.bytes.length then (.ok (s.bytes.take size), ⟨s.bytes.drop size⟩)
    else (.error (.failed byteStringUsedUp), s)

theorem ByteString.fill_of_le
    {bytes : List UInt8}
    {size : Nat}
    (enough : size ≤ bytes.length) :
    RandomSource.fill (ByteString.mk bytes) size = (.ok (bytes.take size), ⟨bytes.drop size⟩) :=
  if_pos enough

theorem ByteString.fill_of_lt
    {bytes : List UInt8}
    {size : Nat}
    (short : bytes.length < size) :
    RandomSource.fill (ByteString.mk bytes) size =
      (.error (.failed byteStringUsedUp), ⟨bytes⟩) :=
  if_neg (Nat.not_le_of_lt short)

end Random

/-! ## Masked indexes -/

/-- A byte with the bits under the mask replaced by an index, and the bits above kept. -/
def Alphabet.withIndex (a : Alphabet) (b : UInt8) (index : Nat) : UInt8 :=
  UInt8.ofNat (b.toNat - (b &&& a.mask).toNat + index)

/-- The bits of a byte above a power of two dividing 256, with a smaller value put under them,
still make a byte. -/
theorem sub_mod_add_lt
    {span : Nat}
    (divides : span ∣ 256)
    (b : UInt8)
    {index : Nat}
    (small : index < span) :
    b.toNat - b.toNat % span + index < 256 := by
  obtain ⟨blocks, full⟩ := divides
  have positive : 0 < span := by omega
  have high : b.toNat - b.toNat % span = span * (b.toNat / span) := by
    have := Nat.div_add_mod b.toNat span
    omega
  -- the byte's block is not the last one past 256
  have block : b.toNat / span < blocks :=
    (Nat.div_lt_iff_lt_mul positive).mpr (by rw [Nat.mul_comm, ← full]; exact b.toNat_lt)
  have room : span * (b.toNat / span + 1) ≤ span * blocks := Nat.mul_le_mul_left span block
  rw [high]
  rw [Nat.mul_succ] at room
  omega

namespace Alphabet

/-- The symbol at an index, when there is one, is the alphabet's entry there. -/
theorem symbol?_eq_some_iff
    {a : Alphabet}
    {index : Nat}
    {symbol : UInt8} :
    a.symbol? index = some symbol ↔
      ∃ h : index < a.symbols.toList.length, a.symbols.toList[index] = symbol := by
  rw [symbol?, ← Array.getElem?_toList, List.getElem?_eq_some_iff]

/-- A symbol of the alphabet stands at its index. -/
theorem symbol?_idxOf
    {a : Alphabet}
    {symbol : UInt8}
    (member : symbol ∈ a.symbols.toList) :
    a.symbol? (a.symbols.toList.idxOf symbol) = some symbol :=
  symbol?_eq_some_iff.mpr
    ⟨List.idxOf_lt_length_of_mem member, List.getElem_idxOf (List.idxOf_lt_length_of_mem member)⟩

section Masked

variable {a : Alphabet}

theorem toNat_withIndex
    (b : UInt8)
    {index : Nat}
    (small : index < a.mask.toNat + 1) :
    (a.withIndex b index).toNat = b.toNat - b.toNat % (a.mask.toNat + 1) + index := by
  rw [withIndex, UInt8.toNat_ofNat', index_eq_mod]
  exact Nat.mod_eq_of_lt (sub_mod_add_lt a.span_dvd b small)

/-- A byte given an index masks to that index. -/
theorem index_withIndex
    (b : UInt8)
    {index : Nat}
    (small : index < a.mask.toNat + 1) :
    (a.withIndex b index &&& a.mask).toNat = index := by
  have dividing := Nat.div_add_mod b.toNat (a.mask.toNat + 1)
  rw [index_eq_mod, toNat_withIndex b small]
  have high : b.toNat - b.toNat % (a.mask.toNat + 1) = (a.mask.toNat + 1) * (b.toNat / (a.mask.toNat + 1)) := by
    omega
  rw [high, Nat.mul_add_mod, Nat.mod_eq_of_lt small]

/-- Giving a byte an index, then its own index back, gives the byte. -/
theorem withIndex_withIndex
    (b : UInt8)
    {index : Nat}
    (small : index < a.mask.toNat + 1) :
    a.withIndex (a.withIndex b index) (b &&& a.mask).toNat = b := by
  have ownSmall : (b &&& a.mask).toNat < a.mask.toNat + 1 := by
    rw [index_eq_mod]
    exact Nat.mod_lt _ (Nat.succ_pos _)
  have givenMod : (a.withIndex b index).toNat % (a.mask.toNat + 1) = index := by
    rw [← index_eq_mod]
    exact index_withIndex b small
  apply UInt8.toNat_inj.mp
  rw [toNat_withIndex _ ownSmall, givenMod, toNat_withIndex b small, index_eq_mod]
  have below : b.toNat % (a.mask.toNat + 1) ≤ b.toNat := Nat.mod_le _ _
  omega

/-- The index found for the symbol at an index is that index, the symbols being distinct. -/
theorem idxOf_of_symbol?
    {index : Nat}
    {symbol : UInt8}
    (found : a.symbol? index = some symbol) :
    a.symbols.toList.idxOf symbol = index := by
  obtain ⟨inRange, rfl⟩ := symbol?_eq_some_iff.mp found
  exact a.distinct.idxOf_getElem index inRange

/-- The index of a symbol is below the number of values the mask keeps. -/
theorem idxOf_lt_span
    {symbol : UInt8}
    (member : symbol ∈ a.symbols.toList) :
    a.symbols.toList.idxOf symbol < a.mask.toNat + 1 := by
  have inSize : a.symbols.toList.idxOf symbol < a.size := by
    simpa [size] using List.idxOf_lt_length_of_mem member
  exact Nat.lt_of_lt_of_le inSize a.size_le_span

end Masked

end Alphabet

/-! ## Exchanging symbols position by position -/

/-- Exchange the `k`-th symbol of a list by the `k`-th pair, for every pair there is; the
symbols past the pairs are kept. -/
def swapEach : List (UInt8 × UInt8) → List UInt8 → List UInt8
  | (x, y) :: pairs, symbol :: rest => Equiv.swap x y symbol :: swapEach pairs rest
  | _, symbols => symbols

@[simp]
theorem length_swapEach
    (pairs : List (UInt8 × UInt8))
    (symbols : List UInt8) :
    (swapEach pairs symbols).length = symbols.length := by
  fun_induction swapEach pairs symbols <;> simp [*]

theorem take_swapEach
    (n : Nat)
    (pairs : List (UInt8 × UInt8))
    (symbols : List UInt8) :
    (swapEach pairs symbols).take n = swapEach pairs (symbols.take n) := by
  induction symbols generalizing n pairs with
  | nil =>
      cases pairs <;> simp [swapEach]
  | cons symbol rest inductionHypothesis =>
      cases n with
      | zero =>
          cases pairs <;> simp [swapEach]
      | succ n =>
          cases pairs with
          | nil =>
              simp [swapEach]
          | cons pair pairs =>
              simp [swapEach, inductionHypothesis]

/-- Exchanging the symbols of one list by the pairs it makes with another gives the other. -/
theorem swapEach_zip_left
    {xs ys : List UInt8}
    (sameLength : xs.length = ys.length) :
    swapEach (xs.zip ys) xs = ys := by
  induction xs generalizing ys with
  | nil =>
      cases ys with
      | nil => rfl
      | cons => simp at sameLength
  | cons x rest inductionHypothesis =>
      cases ys with
      | nil => simp at sameLength
      | cons y others =>
          simp only [List.zip_cons_cons, swapEach, Equiv.swap_apply_left,
            inductionHypothesis (by simpa using sameLength)]

theorem swapEach_zip_right
    {xs ys : List UInt8}
    (sameLength : xs.length = ys.length) :
    swapEach (xs.zip ys) ys = xs := by
  induction xs generalizing ys with
  | nil =>
      cases ys with
      | nil => rfl
      | cons => simp at sameLength
  | cons x rest inductionHypothesis =>
      cases ys with
      | nil => simp at sameLength
      | cons y others =>
          simp only [List.zip_cons_cons, swapEach, Equiv.swap_apply_right,
            inductionHypothesis (by simpa using sameLength)]

/-! ## Relabelling the kept bytes -/

namespace Alphabet

/-- Relabel the bytes a draw keeps: the `k`-th kept byte, standing for a symbol, is given the
index of that symbol exchanged by the `k`-th pair, and keeps its bits above the mask. The bytes
the draw drops, and the kept bytes past the pairs, are left alone. -/
def relabel (a : Alphabet) : List (UInt8 × UInt8) → List UInt8 → List UInt8
  | _, [] => []
  | [], bytes => bytes
  | (x, y) :: pairs, b :: rest =>
    match a.symbol? (b &&& a.mask).toNat with
    | some symbol =>
      a.withIndex b (a.symbols.toList.idxOf (Equiv.swap x y symbol)) :: a.relabel pairs rest
    | none => b :: a.relabel ((x, y) :: pairs) rest

@[simp]
theorem length_relabel
    (a : Alphabet)
    (pairs : List (UInt8 × UInt8))
    (bytes : List UInt8) :
    (a.relabel pairs bytes).length = bytes.length := by
  fun_induction a.relabel pairs bytes <;> simp [*]

/-- Relabelling commutes with keeping the first bytes: a byte's label depends on the bytes
before it only. -/
theorem take_relabel
    (a : Alphabet)
    (n : Nat)
    (pairs : List (UInt8 × UInt8))
    (bytes : List UInt8) :
    (a.relabel pairs bytes).take n = a.relabel pairs (bytes.take n) := by
  induction bytes generalizing n pairs with
  | nil =>
      cases pairs <;> simp [relabel]
  | cons b rest inductionHypothesis =>
      cases n with
      | zero =>
          cases pairs <;> simp [relabel]
      | succ n =>
          cases pairs with
          | nil =>
              simp [relabel]
          | cons pair pairs =>
              obtain ⟨x, y⟩ := pair
              cases found : a.symbol? (b &&& a.mask).toNat with
              | none =>
                  simp only [relabel, found, List.take_succ_cons, inductionHypothesis]
              | some symbol =>
                  simp only [relabel, found, List.take_succ_cons, inductionHypothesis]

/-- A symbol found at an index is a symbol of the alphabet. -/
theorem mem_of_symbol?
    {a : Alphabet}
    {index : Nat}
    {symbol : UInt8}
    (found : a.symbol? index = some symbol) :
    symbol ∈ a.symbols.toList := by
  obtain ⟨inRange, rfl⟩ := symbol?_eq_some_iff.mp found
  exact List.getElem_mem inRange

/-- Exchanging a symbol by a pair of symbols gives a symbol. -/
theorem swap_mem
    {a : Alphabet}
    {x y symbol : UInt8}
    (xMember : x ∈ a.symbols.toList)
    (yMember : y ∈ a.symbols.toList)
    (member : symbol ∈ a.symbols.toList) :
    Equiv.swap x y symbol ∈ a.symbols.toList := by
  rw [Equiv.swap_apply_def]
  split
  · exact yMember
  · split
    · exact xMember
    · exact member

section Relabel

variable {a : Alphabet}

/-- A kept byte relabelled by a pair of symbols stands for its symbol exchanged by the pair. -/
theorem symbol?_relabelled
    {x y symbol : UInt8}
    (xMember : x ∈ a.symbols.toList)
    (yMember : y ∈ a.symbols.toList)
    (b : UInt8)
    (found : a.symbol? (b &&& a.mask).toNat = some symbol) :
    a.symbol? (a.withIndex b (a.symbols.toList.idxOf (Equiv.swap x y symbol)) &&& a.mask).toNat =
      some (Equiv.swap x y symbol) := by
  have exchanged := swap_mem xMember yMember (mem_of_symbol? found)
  rw [index_withIndex b (idxOf_lt_span exchanged)]
  exact symbol?_idxOf exchanged

/-- Relabelling a kept byte twice by one pair gives it back. -/
theorem withIndex_relabelled_twice
    {x y symbol : UInt8}
    (xMember : x ∈ a.symbols.toList)
    (yMember : y ∈ a.symbols.toList)
    (b : UInt8)
    (found : a.symbol? (b &&& a.mask).toNat = some symbol) :
    a.withIndex (a.withIndex b (a.symbols.toList.idxOf (Equiv.swap x y symbol)))
        (a.symbols.toList.idxOf (Equiv.swap x y (Equiv.swap x y symbol))) = b := by
  have exchanged := swap_mem xMember yMember (mem_of_symbol? found)
  rw [Equiv.swap_apply_self, idxOf_of_symbol? found]
  exact withIndex_withIndex b (idxOf_lt_span exchanged)

variable {pairs : List (UInt8 × UInt8)}
  (fromAlphabet : ∀ pair ∈ pairs, pair.1 ∈ a.symbols.toList ∧ pair.2 ∈ a.symbols.toList)

include fromAlphabet

/-- The symbols of relabelled bytes are the symbols of the bytes, exchanged by the pairs in
order. -/
theorem symbolsOf_relabel
    (bytes : List UInt8) :
    a.symbolsOf (a.relabel pairs bytes) = swapEach pairs (a.symbolsOf bytes) := by
  induction bytes generalizing pairs with
  | nil =>
      cases pairs <;> simp [relabel, symbolsOf, swapEach]
  | cons b rest inductionHypothesis =>
      cases pairs with
      | nil =>
          simp [relabel, swapEach]
      | cons pair pairs =>
          obtain ⟨x, y⟩ := pair
          obtain ⟨ends, later⟩ := List.forall_mem_cons.mp fromAlphabet
          cases found : a.symbol? (b &&& a.mask).toNat with
          | none =>
              have dropped := inductionHypothesis fromAlphabet
              simp only [symbolsOf] at dropped
              simp only [relabel, symbolsOf, found, List.filterMap_cons, dropped]
          | some symbol =>
              have kept := inductionHypothesis later
              simp only [symbolsOf] at kept
              simp only [relabel, symbolsOf, found, List.filterMap_cons, swapEach, kept,
                symbol?_relabelled ends.1 ends.2 b found]

/-- Relabelling twice by the same pairs gives the bytes back. -/
theorem relabel_relabel
    (bytes : List UInt8) :
    a.relabel pairs (a.relabel pairs bytes) = bytes := by
  induction bytes generalizing pairs with
  | nil =>
      cases pairs <;> simp [relabel]
  | cons b rest inductionHypothesis =>
      cases pairs with
      | nil =>
          simp [relabel]
      | cons pair pairs =>
          obtain ⟨x, y⟩ := pair
          obtain ⟨ends, later⟩ := List.forall_mem_cons.mp fromAlphabet
          cases found : a.symbol? (b &&& a.mask).toNat with
          | none =>
              simp only [relabel, found, inductionHypothesis fromAlphabet]
          | some symbol =>
              simp only [relabel, found, symbol?_relabelled ends.1 ends.2 b found,
                withIndex_relabelled_twice ends.1 ends.2 b found, inductionHypothesis later]

end Relabel

end Alphabet

/-! ## Draws over byte strings -/

namespace Alphabet

/-- After the symbols `collected`, the buffers of a byte string, read `step` bytes at a time,
first hold `length` symbols with the `rounds`-th buffer, and the first `length` symbols spell
`id`. -/
def FirstSpells (a : Alphabet) (length step : Nat) (collected bytes : List UInt8) (rounds : Nat)
    (id : Identifier) : Prop :=
  length ≤ (collected ++ a.symbolsOf bytes).length ∧
    (∀ j < rounds, (collected ++ a.symbolsOf (bytes.take (j * step))).length < length) ∧
    id = Identifier.ofSymbols ((collected ++ a.symbolsOf bytes).take length)

@[simp]
theorem symbolsOf_nil
    (a : Alphabet) :
    a.symbolsOf [] = [] :=
  rfl

/-- The symbols of bytes read one after the other are those of each part in turn. -/
theorem symbolsOf_append
    (a : Alphabet)
    (front back : List UInt8) :
    a.symbolsOf (front ++ back) = a.symbolsOf front ++ a.symbolsOf back :=
  List.filterMap_append

/-- Buffers that first hold enough symbols with a later one start short of them. -/
theorem FirstSpells.collected_short
    {a : Alphabet}
    {length step : Nat}
    {collected bytes : List UInt8}
    {rounds : Nat}
    {id : Identifier}
    (spells : a.FirstSpells length step collected bytes (rounds + 1) id) :
    collected.length < length := by
  have firstShort := spells.2.1 0 (Nat.succ_pos rounds)
  simpa using firstShort

/--
Reading the first buffer of a byte string short of symbols moves its symbols,
as many as there is room for, to the symbols collected, and leaves one buffer
fewer to read.
-/
theorem firstSpells_succ
    (a : Alphabet)
    {length step : Nat}
    {collected bytes : List UInt8}
    {rounds : Nat}
    {id : Identifier}
    (short : collected.length < length)
    (sized : bytes.length = (rounds + 1) * step) :
    a.FirstSpells length step collected bytes (rounds + 1) id ↔
      a.FirstSpells length step
        (collected ++ (a.symbolsOf (bytes.take step)).take (length - collected.length))
        (bytes.drop step) rounds id := by
  have bytesSplit : a.symbolsOf bytes =
      a.symbolsOf (bytes.take step) ++ a.symbolsOf (bytes.drop step) := by
    rw [← symbolsOf_append, List.take_append_drop]
  have prefixSplit : ∀ j, a.symbolsOf (bytes.take ((j + 1) * step)) =
      a.symbolsOf (bytes.take step) ++ a.symbolsOf ((bytes.drop step).take (j * step)) := by
    intro j
    rw [Nat.succ_mul, Nat.add_comm, List.take_add, symbolsOf_append]
  by_cases fits : (collected ++ a.symbolsOf (bytes.take step)).length < length
  · -- the first buffer leaves the draw short, so all its symbols are collected
    have whole : (a.symbolsOf (bytes.take step)).take (length - collected.length) =
        a.symbolsOf (bytes.take step) :=
      List.take_of_length_le (by simp only [List.length_append] at fits; omega)
    rw [whole]
    unfold FirstSpells
    rw [bytesSplit, Nat.forall_lt_succ_left]
    simp only [prefixSplit, List.append_assoc, Nat.zero_mul, List.take_zero]
    simp only [symbolsOf_nil, List.append_nil, short, true_and]
  · -- the first buffer completes the draw
    have full : (collected ++ (a.symbolsOf (bytes.take step)).take
        (length - collected.length)).length = length := by
      simp only [List.length_append, List.length_take] at fits ⊢
      omega
    cases rounds with
    | zero =>
        -- the only buffer completes the draw: the symbols collected are the first ones
        have onlyBuffer : bytes.take step = bytes := List.take_of_length_le (by omega)
        have nothingLeft : bytes.drop step = [] := List.drop_eq_nil_of_le (by omega)
        have collectedFit : collected.take length = collected :=
          List.take_of_length_le (Nat.le_of_lt short)
        have completed : collected ++ (a.symbolsOf (bytes.take step)).take
            (length - collected.length) = (collected ++ a.symbolsOf bytes).take length := by
          rw [onlyBuffer, List.take_append, collectedFit]
        have reached : length ≤ (collected ++ a.symbolsOf bytes).length := by
          rw [onlyBuffer] at fits
          omega
        have firstShort : ∀ j < 0 + 1,
            (collected ++ a.symbolsOf (bytes.take (j * step))).length < length := by
          intro j below
          obtain rfl : j = 0 := by omega
          simpa using short
        unfold FirstSpells
        rw [nothingLeft, completed, symbolsOf_nil, List.append_nil, List.take_take, Nat.min_self]
        constructor
        · rintro ⟨-, -, spelled⟩
          exact ⟨by rw [List.length_take]; omega, fun j below => absurd below (Nat.not_lt_zero j),
            spelled⟩
        · rintro ⟨-, -, spelled⟩
          exact ⟨reached, firstShort, spelled⟩
    | succ rounds =>
        -- the draw would end one buffer early, on either side
        refine iff_of_false ?_ ?_
        · rintro ⟨-, least, -⟩
          have secondShort := least 1 (by omega)
          rw [Nat.one_mul] at secondShort
          exact fits secondShort
        · intro spells
          have firstShort := spells.collected_short
          rw [full] at firstShort
          exact Nat.lt_irrefl length firstShort

/--
A draw loop over a byte string of `rounds` buffers of `step` bytes ends with
an identifier after exactly `rounds` more requests when, and only when, the
buffers first hold enough symbols with the last one and spell that identifier.
-/
theorem drawLoop_byteString_iff
    (a : Alphabet)
    (length step : Nat)
    (positive : 0 < step)
    (id : Identifier) :
    ∀ (rounds : Nat) (bytes collected : List UInt8) (requests : Nat),
      bytes.length = rounds * step → collected.length ≤ length →
      ((∃ result, a.drawLoop length step collected requests (ByteString.mk bytes) = some result ∧
          result.1.outcome = .ok id ∧ result.1.requests = requests + rounds) ↔
        a.FirstSpells length step collected bytes rounds id) := by
  intro rounds
  -- one buffer per round, the symbols collected growing by its symbols
  induction rounds with
  | zero =>
      intro bytes collected requests sized notPast
      have empty : bytes = [] := List.eq_nil_of_length_eq_zero (by simpa using sized)
      subst empty
      by_cases enough : length ≤ collected.length
      · have same : collected.length = length := Nat.le_antisymm notPast enough
        rw [drawLoop_done a length step collected requests _ enough]
        unfold FirstSpells
        rw [symbolsOf_nil, List.append_nil, List.take_of_length_le (Nat.le_of_eq same)]
        constructor
        · rintro ⟨result, returned, outcome, -⟩
          cases returned
          simp only [Except.ok.injEq] at outcome
          exact ⟨enough, fun j below => absurd below (Nat.not_lt_zero j), outcome.symm⟩
        · rintro ⟨-, -, spelled⟩
          exact ⟨_, rfl, by rw [spelled], rfl⟩
      · have short : collected.length < length := Nat.lt_of_not_le enough
        rw [drawLoop_failed a length step collected requests _ short
          (by rw [ByteString.fill_of_lt (by simpa using positive)])]
        refine iff_of_false ?_ ?_
        · rintro ⟨result, returned, outcome, -⟩
          cases returned
          cases outcome
        · rintro ⟨reached, -, -⟩
          rw [symbolsOf_nil, List.append_nil] at reached
          exact enough reached
  | succ rounds inductionHypothesis =>
      intro bytes collected requests sized notPast
      by_cases enough : length ≤ collected.length
      · -- the draw ends before the first buffer, one round early
        rw [drawLoop_done a length step collected requests _ enough]
        refine iff_of_false ?_ ?_
        · rintro ⟨result, returned, -, counted⟩
          cases returned
          simp at counted
        · intro spells
          exact Nat.not_lt_of_le enough spells.collected_short
      · have short : collected.length < length := Nat.lt_of_not_le enough
        have room : step ≤ bytes.length := by
          rw [sized, Nat.succ_mul]
          omega
        have fill := ByteString.fill_of_le room
        rw [drawLoop_buffer a length step collected requests _ short (by rw [fill]), fill,
          firstSpells_succ a short sized]
        have rest := inductionHypothesis (bytes.drop step)
          (collected ++ (a.symbolsOf (bytes.take step)).take (length - collected.length))
          (requests + 1) (by rw [List.length_drop, sized, Nat.succ_mul]; omega)
          (by simp only [List.length_append, List.length_take]; omega)
        rw [← rest, Nat.add_assoc, Nat.add_comm 1 rounds]

/-- A draw over a byte string of `rounds` buffers makes exactly `rounds` requests and spells an
identifier exactly when the buffers first hold enough symbols with the last one and spell it. -/
theorem draw_byteString_iff
    (a : Alphabet)
    (length rounds : Nat)
    (id : Identifier)
    {bytes : List UInt8}
    (sized : bytes.length = rounds * bufferSize length) :
    ((a.draw length (ByteString.mk bytes)).1.outcome = .ok id ∧
        (a.draw length (ByteString.mk bytes)).1.requests = rounds) ↔
      a.FirstSpells length (bufferSize length) [] bytes rounds id := by
  have positive : 0 < bufferSize length := Nat.lt_of_lt_of_le (by decide) (Nat.le_max_right _ _)
  rw [← drawLoop_byteString_iff a length (bufferSize length) positive id rounds bytes [] 0 sized
    (Nat.zero_le _), Nat.zero_add]
  unfold draw draw?
  cases ended : a.drawLoop length (bufferSize length) [] 0 (ByteString.mk bytes) with
  | none =>
      simp
  | some result =>
      simp

end Alphabet

/-! ## As many strings for every identifier -/

/-- Two lists of an alphabet's symbols spell the same identifier only when they are the same,
the symbols being ASCII. -/
theorem Identifier.ofSymbols_inj
    {a : Alphabet}
    {spelled other : List UInt8}
    (spelledIn : ∀ symbol ∈ spelled, symbol ∈ a.symbols.toList)
    (otherIn : ∀ symbol ∈ other, symbol ∈ a.symbols.toList)
    (same : Identifier.ofSymbols spelled = Identifier.ofSymbols other) :
    spelled = other := by
  rw [← Identifier.bytes_ofSymbols fun symbol member => a.ascii symbol (spelledIn symbol member),
    ← Identifier.bytes_ofSymbols fun symbol member => a.ascii symbol (otherIn symbol member), same]

namespace Alphabet

section Relabel

variable {a : Alphabet} {pairs : List (UInt8 × UInt8)}
  (fromAlphabet : ∀ pair ∈ pairs, pair.1 ∈ a.symbols.toList ∧ pair.2 ∈ a.symbols.toList)

include fromAlphabet

/--
Relabelling a byte string keeps the number of symbols of each of its
prefixes, so a draw over it makes as many requests, and it spells the
symbols exchanged by the pairs.
-/
theorem firstSpells_relabel
    {length step rounds : Nat}
    {spelled : List UInt8}
    (spelledIn : ∀ symbol ∈ spelled, symbol ∈ a.symbols.toList)
    {bytes : List UInt8}
    (spells : a.FirstSpells length step [] bytes rounds (Identifier.ofSymbols spelled)) :
    a.FirstSpells length step [] (a.relabel pairs bytes) rounds
      (Identifier.ofSymbols (swapEach pairs spelled)) := by
  unfold FirstSpells at spells ⊢
  simp only [List.nil_append] at spells ⊢
  obtain ⟨enough, least, spelledBy⟩ := spells
  have sameCount : ∀ n, (a.symbolsOf ((a.relabel pairs bytes).take n)).length =
      (a.symbolsOf (bytes.take n)).length := by
    intro n
    rw [take_relabel, symbolsOf_relabel fromAlphabet, length_swapEach]
  have firstSymbols : spelled = (a.symbolsOf bytes).take length :=
    Identifier.ofSymbols_inj spelledIn
      (fun symbol member => mem_symbols_of_mem_symbolsOf (List.mem_of_mem_take member)) spelledBy
  refine ⟨?_, fun j below => (sameCount (j * step)).symm ▸ least j below, ?_⟩
  · rw [symbolsOf_relabel fromAlphabet, length_swapEach]
    exact enough
  · rw [symbolsOf_relabel fromAlphabet, take_swapEach, firstSymbols]

end Relabel

/--
For every alphabet, every length, every number of rounds and every two
identifiers spelled by that many symbols of the alphabet: among the byte strings of `rounds` buffers of
`max (length + length / 2) 8` bytes, read as the successive buffers of a
draw, as many make the draw take exactly `rounds` buffers and spell the one
as the other. With uniform random bytes, every identifier of a length is
drawn with the same probability.
-/
theorem draw_spells_each_identifier_equally_often
    (a : Alphabet)
    (length rounds : Nat)
    (xs ys : List UInt8)
    (xSpelled : xs.length = length ∧ ∀ symbol ∈ xs, symbol ∈ a.symbols.toList)
    (ySpelled : ys.length = length ∧ ∀ symbol ∈ ys, symbol ∈ a.symbols.toList) :
    let step := max (length + length / 2) 8
    (Finset.univ.filter fun bytes : List.Vector UInt8 (rounds * step) =>
        (a.draw length (ByteString.mk bytes.toList)).1.outcome = .ok (Identifier.ofSymbols xs) ∧
          (a.draw length (ByteString.mk bytes.toList)).1.requests = rounds).card =
      (Finset.univ.filter fun bytes : List.Vector UInt8 (rounds * step) =>
        (a.draw length (ByteString.mk bytes.toList)).1.outcome = .ok (Identifier.ofSymbols ys) ∧
          (a.draw length (ByteString.mk bytes.toList)).1.requests = rounds).card := by
  intro step
  have fromAlphabet : ∀ pair ∈ xs.zip ys,
      pair.1 ∈ a.symbols.toList ∧ pair.2 ∈ a.symbols.toList := by
    intro pair member
    exact ⟨xSpelled.2 _ (List.of_mem_zip member).1, ySpelled.2 _ (List.of_mem_zip member).2⟩
  have sameLength : xs.length = ys.length := xSpelled.1.trans ySpelled.1.symm
  -- the relabelling exchanging the symbols of the one with those of the other, position by position
  let relabelled : List.Vector UInt8 (rounds * step) → List.Vector UInt8 (rounds * step) :=
    fun bytes => ⟨a.relabel (xs.zip ys) bytes.toList, by simp⟩
  have involutive : ∀ bytes, relabelled (relabelled bytes) = bytes := fun bytes =>
    Subtype.ext (relabel_relabel fromAlphabet bytes.toList)
  have drawnIff : ∀ (id : Identifier) (bytes : List.Vector UInt8 (rounds * step)),
      ((a.draw length (ByteString.mk bytes.toList)).1.outcome = .ok id ∧
        (a.draw length (ByteString.mk bytes.toList)).1.requests = rounds) ↔
      a.FirstSpells length (bufferSize length) [] bytes.toList rounds id :=
    fun id bytes => draw_byteString_iff a length rounds id (List.Vector.toList_length bytes)
  apply Finset.card_nbij' relabelled relabelled
  · intro bytes member
    rw [Finset.mem_coe, Finset.mem_filter] at member ⊢
    refine ⟨Finset.mem_univ _, (drawnIff _ _).mpr ?_⟩
    have exchanged := firstSpells_relabel fromAlphabet xSpelled.2
      ((drawnIff _ bytes).mp member.2)
    rwa [swapEach_zip_left sameLength] at exchanged
  · intro bytes member
    rw [Finset.mem_coe, Finset.mem_filter] at member ⊢
    refine ⟨Finset.mem_univ _, (drawnIff _ _).mpr ?_⟩
    have exchanged := firstSpells_relabel fromAlphabet ySpelled.2
      ((drawnIff _ bytes).mp member.2)
    rwa [swapEach_zip_right sameLength] at exchanged
  · intro bytes _
    exact involutive bytes
  · intro bytes _
    exact involutive bytes

/-- Over the symbols `xyz`, one buffer of eight bytes spells `x` as often as `z`. -/
theorem draw_spells_each_identifier_equally_often_xyz :
    let a : Alphabet := xyz
    ([120].length = 1 ∧ ∀ symbol ∈ [(120 : UInt8)], symbol ∈ a.symbols.toList) ∧
      ([122].length = 1 ∧ ∀ symbol ∈ [(122 : UInt8)], symbol ∈ a.symbols.toList) ∧
      (Finset.univ.filter fun bytes : List.Vector UInt8 (1 * max (1 + 1 / 2) 8) =>
          (a.draw 1 (ByteString.mk bytes.toList)).1.outcome = .ok (Identifier.ofSymbols [120]) ∧
            (a.draw 1 (ByteString.mk bytes.toList)).1.requests = 1).card =
        (Finset.univ.filter fun bytes : List.Vector UInt8 (1 * max (1 + 1 / 2) 8) =>
          (a.draw 1 (ByteString.mk bytes.toList)).1.outcome = .ok (Identifier.ofSymbols [122]) ∧
            (a.draw 1 (ByteString.mk bytes.toList)).1.requests = 1).card := by
  intro a
  have xSpelled : [120].length = 1 ∧ ∀ symbol ∈ [(120 : UInt8)], symbol ∈ a.symbols.toList :=
    ⟨rfl, by simp [a, xyz]⟩
  have ySpelled : [122].length = 1 ∧ ∀ symbol ∈ [(122 : UInt8)], symbol ∈ a.symbols.toList :=
    ⟨rfl, by simp [a, xyz]⟩
  exact ⟨xSpelled, ySpelled,
    draw_spells_each_identifier_equally_often a 1 1 [120] [122] xSpelled ySpelled⟩

end Alphabet

end IdFactory
