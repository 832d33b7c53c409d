import IdFactory.Symbol.Sampling

namespace IdFactory

open IdFactory.Random

/-!
# The shape of a drawn identifier

A draw that succeeds spells its identifier from exactly as many symbols as
were asked for, each a symbol of the alphabet: the symbols collected never
pass the length, and each one is looked up in the alphabet's table. An
alphabet's symbols are ASCII, so an identifier's bytes are its symbols, and a
drawn identifier is exactly as many bytes long as it has symbols.
-/

namespace Alphabet

theorem mem_symbols_of_mem_symbolsOf
    {a : Alphabet}
    {buffer : List UInt8}
    {symbol : UInt8}
    (member : symbol ∈ a.symbolsOf buffer) :
    symbol ∈ a.symbols.toList := by
  obtain ⟨byte, -, lookedUp⟩ := List.mem_filterMap.mp member
  obtain ⟨inRange, found⟩ := Array.getElem?_eq_some_iff.mp lookedUp
  rw [← found]
  exact Array.getElem_mem_toList inRange

/--
A draw loop that ends with an identifier spells it from the symbols
collected, grown to exactly the length, when it starts from symbols of the
alphabet no more than the length.
-/
theorem drawLoop_shape
    {σ : Type}
    [RandomSource σ]
    (a : Alphabet)
    (length size : Nat)
    (collected : List UInt8)
    (requests : Nat)
    (source : σ)
    {result : Draw × σ}
    {id : Identifier}
    (notPast : collected.length ≤ length)
    (fromAlphabet : ∀ symbol ∈ collected, symbol ∈ a.symbols.toList)
    (ended : a.drawLoop length size collected requests source = some result)
    (drawn : result.1.outcome = .ok id) :
    ∃ symbols, id = Identifier.ofSymbols symbols ∧ symbols.length = length ∧
      ∀ symbol ∈ symbols, symbol ∈ a.symbols.toList := by
  -- the symbols collected stay within the length and come from the table, request after request
  refine Alphabet.drawLoop.partial_correctness a length size
    (fun collected _ _ result => collected.length ≤ length →
      (∀ symbol ∈ collected, symbol ∈ a.symbols.toList) → ∀ id, result.1.outcome = .ok id →
      ∃ symbols, id = Identifier.ofSymbols symbols ∧ symbols.length = length ∧
        ∀ symbol ∈ symbols, symbol ∈ a.symbols.toList)
    ?_ collected requests source result ended notPast fromAlphabet id drawn
  intro loop inductionHypothesis collected requests source result step notPast fromAlphabet id drawn
  split at step
  · rename_i enough
    cases step
    simp only [Except.ok.injEq] at drawn
    exact ⟨collected, drawn.symm, Nat.le_antisymm notPast enough, fromAlphabet⟩
  · rename_i short
    split at step
    · cases step
      simp at drawn
    · rename_i buffer next _
      -- the fresh symbols fill at most the room left, and come from the table
      refine inductionHypothesis _ _ next result step ?_ ?_ id drawn
      · simp only [List.length_append, List.length_take]
        omega
      · intro symbol member
        rcases List.mem_append.mp member with old | fresh
        · exact fromAlphabet symbol old
        · exact mem_symbols_of_mem_symbolsOf (List.mem_of_mem_take fresh)

/-- A draw that succeeds spells exactly `length` symbols of the alphabet. -/
theorem draw_shape
    {σ : Type}
    [RandomSource σ]
    {a : Alphabet}
    {length : Nat}
    {source : σ}
    {id : Identifier}
    (drawn : (a.draw length source).1.outcome = .ok id) :
    ∃ symbols, id = Identifier.ofSymbols symbols ∧ symbols.length = length ∧
      ∀ symbol ∈ symbols, symbol ∈ a.symbols.toList := by
  unfold Alphabet.draw at drawn
  cases ended : a.draw? length source with
  | none =>
      simp [ended] at drawn
  | some result =>
      rw [ended, Option.getD_some] at drawn
      exact drawLoop_shape a length _ [] 0 source (Nat.zero_le _) (by simp) ended drawn

end Alphabet

/-- The bytes of an identifier spelled from ASCII symbols are those symbols. -/
theorem Identifier.bytes_ofSymbols
    {symbols : List UInt8}
    (ascii : ∀ symbol ∈ symbols, symbol.toNat < 128) :
    (Identifier.ofSymbols symbols).bytes = symbols := by
  rw [Identifier.bytes, Identifier.ofSymbols, String.toUTF8_toList, String.toList_ofList]
  induction symbols with
  | nil =>
      rfl
  | cons symbol rest inductionHypothesis =>
      rw [List.map_cons, List.flatMap_cons, String.utf8EncodeChar_ofNat symbol (ascii symbol (by simp)),
        inductionHypothesis (fun later member => ascii later (by simp [member]))]
      rfl

end IdFactory
