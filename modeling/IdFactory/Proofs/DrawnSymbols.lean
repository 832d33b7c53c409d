import IdFactory.Proofs.DrawnShape
import IdFactory.Random.Scripted

namespace IdFactory

open IdFactory.Random

/-!
# Which symbols a draw takes

A draw reads the buffers of its source as one stream: every byte is masked,
the bytes whose masked value indexes a symbol are kept, each standing for
that symbol, and the identifier is spelled by the first `length` of them.
The draw requests buffers of `max (length + length / 2) 8` bytes until the
buffers so far hold that many symbols, and no more; the rest of the last
buffer is dropped. A failing request ends the draw with its failure.

The loop is followed request by request (`drawLoop_buffer`) and, while it is
short of symbols, over any number of requests at once (`drawLoop_buffers`).
-/

namespace Random.RandomSource

variable {σ : Type} [RandomSource σ]

/-- The source after `count` requests of `size` bytes each. -/
def after (size : Nat) : Nat → σ → σ
  | 0, source => source
  | count + 1, source => after size count (RandomSource.fill source size).2

/-- The answer to the request after `k` others, all of `size` bytes. -/
def answer (size k : Nat) (source : σ) : Except DrawFailure (List UInt8) :=
  (RandomSource.fill (after size k source) size).1

/-- One request more is one request made on the source after the others. -/
theorem after_succ
    (size count : Nat)
    (source : σ) :
    after size (count + 1) source = (RandomSource.fill (after size count source) size).2 := by
  induction count generalizing source with
  | zero =>
      rfl
  | succ count inductionHypothesis =>
      exact inductionHypothesis (RandomSource.fill source size).2

end Random.RandomSource

namespace Alphabet

variable {σ : Type} [RandomSource σ]

/-- The symbols of buffers read one after the other are those of the bytes read one after the other. -/
theorem flatMap_symbolsOf
    (a : Alphabet)
    (buffers : List (List UInt8)) :
    buffers.flatMap a.symbolsOf =
      buffers.flatten.filterMap fun b => a.symbol? (b &&& a.mask).toNat := by
  rw [List.filterMap_flatten, List.flatMap]
  rfl

/-! ## One request -/

section Loop

variable (a : Alphabet) (length size : Nat) (collected : List UInt8) (requests : Nat) (source : σ)

theorem drawLoop_done
    (enough : length ≤ collected.length) :
    a.drawLoop length size collected requests source =
      some (⟨.ok (Identifier.ofSymbols collected), requests⟩, source) := by
  rw [drawLoop, if_pos enough]

theorem drawLoop_failed
    {failure : DrawFailure}
    (short : collected.length < length)
    (answered : (RandomSource.fill source size).1 = .error failure) :
    a.drawLoop length size collected requests source =
      some (⟨.error failure, requests + 1⟩, (RandomSource.fill source size).2) := by
  rw [drawLoop, if_neg (Nat.not_le_of_lt short)]
  rcases filled : RandomSource.fill source size with ⟨_ | _, next⟩ <;> simp_all

/-- A buffer answered to a draw short of symbols adds its symbols, as many as there is room for. -/
theorem drawLoop_buffer
    {buffer : List UInt8}
    (short : collected.length < length)
    (answered : (RandomSource.fill source size).1 = .ok buffer) :
    a.drawLoop length size collected requests source =
      a.drawLoop length size (collected ++ (a.symbolsOf buffer).take (length - collected.length))
        (requests + 1) (RandomSource.fill source size).2 := by
  rw [drawLoop, if_neg (Nat.not_le_of_lt short)]
  rcases filled : RandomSource.fill source size with ⟨_ | _, next⟩ <;> simp_all

end Loop

/--
While the symbols stay short of the length, a run of answered buffers adds
all their symbols, one buffer per request.
-/
theorem drawLoop_buffers
    (a : Alphabet)
    (length size : Nat)
    (buffers : List (List UInt8))
    (collected : List UInt8)
    (requests : Nat)
    (source : σ)
    (answered : ∀ k (h : k < buffers.length),
      RandomSource.answer size k source = .ok buffers[k])
    (short : (collected ++ buffers.flatMap a.symbolsOf).length < length) :
    a.drawLoop length size collected requests source =
      a.drawLoop length size (collected ++ buffers.flatMap a.symbolsOf) (requests + buffers.length)
        (RandomSource.after size buffers.length source) := by
  induction buffers generalizing collected requests source with
  | nil =>
      simp [RandomSource.after]
  | cons buffer rest inductionHypothesis =>
      have first : (RandomSource.fill source size).1 = .ok buffer :=
        answered 0 (Nat.zero_lt_succ _)
      have lengths : (collected ++ a.symbolsOf buffer).length < length := by
        simp only [List.flatMap_cons, List.length_append] at short ⊢
        omega
      -- the room left takes the whole buffer, since the symbols stay short of the length
      have whole : (a.symbolsOf buffer).take (length - collected.length) = a.symbolsOf buffer :=
        List.take_of_length_le (by simp only [List.length_append] at lengths; omega)
      rw [drawLoop_buffer a length size collected requests source
          (Nat.lt_of_le_of_lt (by simp) lengths) first, whole,
        inductionHypothesis _ _ _ (fun k inRest => answered (k + 1) (Nat.succ_lt_succ inRest))
          (by simpa [List.append_assoc] using short)]
      simp only [List.flatMap_cons, List.append_assoc, List.length_cons, RandomSource.after]
      rw [Nat.add_right_comm, Nat.add_assoc]

/--
When the first buffers answered hold at least `length` symbols and those
before the last do not, the draw ends after exactly these requests with the
first `length` symbols of the buffers.
-/
theorem draw?_of_enough
    (a : Alphabet)
    (length : Nat)
    (source : σ)
    (buffers : List (List UInt8))
    (answered : ∀ k (h : k < buffers.length),
      RandomSource.answer (bufferSize length) k source = .ok buffers[k])
    (enough : length ≤ (buffers.flatMap a.symbolsOf).length)
    (least : ∀ j < buffers.length, ((buffers.take j).flatMap a.symbolsOf).length < length) :
    a.draw? length source =
      some (⟨.ok (Identifier.ofSymbols ((buffers.flatMap a.symbolsOf).take length)), buffers.length⟩,
        RandomSource.after (bufferSize length) buffers.length source) := by
  rw [draw?]
  rcases List.eq_nil_or_concat buffers with rfl | ⟨earlier, last, rfl⟩
  · -- no request: the length is zero
    have zero : length = 0 := by simpa using enough
    subst zero
    rw [drawLoop_done a 0 _ [] 0 source (Nat.zero_le _)]
    rfl
  · -- the buffers before the last leave the draw short, and the last one completes it
    rw [List.concat_eq_append] at answered enough least ⊢
    have short : (earlier.flatMap a.symbolsOf).length < length := by
      simpa using least earlier.length (by simp)
    have answeredEarlier : ∀ k (h : k < earlier.length),
        RandomSource.answer (bufferSize length) k source = .ok earlier[k] := by
      intro k inEarlier
      have answeredAll := answered k (by simp only [List.length_append]; omega)
      rwa [List.getElem_append_left inEarlier] at answeredAll
    have answeredLast : RandomSource.answer (bufferSize length) earlier.length source = .ok last := by
      simpa using answered earlier.length (by simp)
    have completed : length ≤ (earlier.flatMap a.symbolsOf ++
        (a.symbolsOf last).take (length - (earlier.flatMap a.symbolsOf).length)).length := by
      simp only [List.flatMap_append, List.flatMap_cons, List.flatMap_nil, List.append_nil,
        List.length_append] at enough
      simp only [List.length_append, List.length_take]
      omega
    have throughEarlier := drawLoop_buffers a length (bufferSize length) earlier [] 0 source
      answeredEarlier (by simpa using short)
    rw [List.nil_append, Nat.zero_add] at throughEarlier
    rw [throughEarlier, drawLoop_buffer a length _ _ _ _ short answeredLast,
      drawLoop_done a length _ _ _ _ completed, ← RandomSource.after_succ]
    simp only [List.flatMap_append, List.flatMap_cons, List.flatMap_nil, List.append_nil,
      List.length_append, List.length_cons, List.length_nil, Nat.zero_add, List.take_append,
      List.take_of_length_le (Nat.le_of_lt short)]

/-- An identifier spelled by `length` symbols of an alphabet is `length` bytes long, each byte a
symbol, since the symbols are ASCII. -/
theorem containsAll_of_spelled
    {a : Alphabet}
    {length : Nat}
    {id : Identifier}
    (spelled : ∃ symbols, id = Identifier.ofSymbols symbols ∧ symbols.length = length ∧
      ∀ symbol ∈ symbols, symbol ∈ a.symbols.toList) :
    id.bytes.length = length ∧ a.containsAll id.text = true := by
  obtain ⟨symbols, rfl, sized, fromAlphabet⟩ := spelled
  have bytesAre := Identifier.bytes_ofSymbols fun symbol member =>
    a.ascii symbol (fromAlphabet symbol member)
  refine ⟨by rw [bytesAre]; exact sized, ?_⟩
  rw [containsAll, ← Identifier.bytes, bytesAre, List.all_eq_true]
  intro symbol member
  simpa using fromAlphabet symbol member

/--
A draw of `length` symbols requests buffers of `max (length + length / 2) 8`
bytes. When the first buffers answered hold at least `length` symbols and
those before the last do not, the draw makes exactly that many requests
and spells its identifier by the first `length` symbols of the buffers: of
each byte `b` in turn, the symbol at `b &&& mask` when there is one. That
identifier is `length` bytes long, each one a symbol of the alphabet. When a request fails before the buffers hold enough symbols,
the draw makes no further request and fails as the request did.
-/
theorem draw_spells_first_symbols
    (a : Alphabet)
    (length : Nat)
    (source : σ)
    (buffers : List (List UInt8)) :
    let size := max (length + length / 2) 8
    let symbols := fun (read : List (List UInt8)) =>
      read.flatten.filterMap fun b => a.symbol? (b &&& a.mask).toNat
    let id := Identifier.ofSymbols ((symbols buffers).take length)
    (∀ k (h : k < buffers.length), RandomSource.answer size k source = .ok buffers[k]) →
      (length ≤ (symbols buffers).length →
        (∀ j < buffers.length, (symbols (buffers.take j)).length < length) →
          a.draw length source =
              (⟨.ok id, buffers.length⟩, RandomSource.after size buffers.length source) ∧
            id.bytes.length = length ∧ a.containsAll id.text = true) ∧
      ∀ failure, (symbols buffers).length < length →
        RandomSource.answer size buffers.length source = .error failure →
        a.draw length source =
          (⟨.error failure, buffers.length + 1⟩, RandomSource.after size (buffers.length + 1) source) := by
  intro size symbols id answered
  have spelled : ∀ read, symbols read = read.flatMap a.symbolsOf :=
    fun read => (flatMap_symbolsOf a read).symm
  constructor
  · intro enough least
    have drawn : a.draw length source =
        (⟨.ok id, buffers.length⟩, RandomSource.after size buffers.length source) := by
      rw [spelled] at enough
      have fewer : ∀ j < buffers.length, ((buffers.take j).flatMap a.symbolsOf).length < length :=
        fun j below => spelled (buffers.take j) ▸ least j below
      rw [draw, draw?_of_enough a length source buffers answered enough fewer, Option.getD_some]
      simp only [id, spelled]
      rfl
    have outcome : (a.draw length source).1.outcome = .ok id := by
      rw [drawn]
    exact ⟨drawn, containsAll_of_spelled (draw_shape outcome)⟩
  · intro failure short failed
    rw [spelled] at short
    have sized : bufferSize length = size := rfl
    rw [draw, draw?, sized, drawLoop_buffers a length size buffers [] 0 source answered (by simpa using short),
      drawLoop_failed a length size _ _ _ (by simpa using short) failed, Option.getD_some,
      RandomSource.after_succ, Nat.zero_add]

/-- The alphabet of the symbols `x`, `y` and `z`. -/
def xyz : Alphabet :=
  { symbols := #[120, 121, 122] }

/-- A counting source answers `0, 1, …, 7`; over the symbols `xyz` the mask is `3`, the byte `3`
indexes no symbol and is skipped, and the draw of four symbols takes `xyzx` from one buffer. -/
theorem draw_spells_first_symbols_counting :
    let a : Alphabet := xyz
    let source : ScriptedSource := { script := [], fallback := .counter 0 }
    let buffers : List (List UInt8) := [[0, 1, 2, 3, 4, 5, 6, 7]]
    let symbols := fun (read : List (List UInt8)) =>
      read.flatten.filterMap fun b => a.symbol? (b &&& a.mask).toNat
    (∀ k (h : k < buffers.length), RandomSource.answer 8 k source = .ok buffers[k]) ∧
      4 ≤ (symbols buffers).length ∧
      (∀ j < buffers.length, (symbols (buffers.take j)).length < 4) ∧
      a.draw 4 source =
        (⟨.ok (Identifier.ofSymbols [120, 121, 122, 120]), 1⟩, RandomSource.after 8 1 source) := by
  intro a source buffers symbols
  have answered : ∀ k (h : k < buffers.length), RandomSource.answer 8 k source = .ok buffers[k] := by
    intro k inBuffers
    obtain rfl : k = 0 := Nat.lt_one_iff.mp inBuffers
    rfl
  have enough : 4 ≤ (symbols buffers).length := by
    decide +kernel
  have least : ∀ j < buffers.length, (symbols (buffers.take j)).length < 4 := by
    decide +kernel
  have first : (symbols buffers).take 4 = [120, 121, 122, 120] := by
    decide +kernel
  refine ⟨answered, enough, least, ?_⟩
  have drawn := ((draw_spells_first_symbols a 4 source buffers answered).1 enough least).1
  rw [drawn, first]
  rfl

end Alphabet

end IdFactory
