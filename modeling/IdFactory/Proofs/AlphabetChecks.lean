import Mathlib.Data.Finset.Card
import Mathlib.Data.List.Nodup
import IdFactory.Proofs.DrawnShape

namespace IdFactory

/-!
# Which texts are alphabets

A text is an alphabet when it is ASCII, holds at least two bytes and
repeats none. The checks run in that order and the first that fails is
reported; for a repetition, the byte reported is the first one that was
already seen, at the least position holding a byte that occurs before it.
The scan for a repetition marks each byte seen in a table of 128 entries,
so it runs only once the text is known to be ASCII, where every byte is
below 128.

An alphabet so made holds its text's bytes. Every alphabet holds at least
two symbols and, being distinct ASCII bytes, at most 128. Its mask plus one
is the least power of two at least the number of symbols, which fits in a
byte, and is less than twice that number: a masked byte is the byte modulo
that power, so of the 256 byte values more than half mask to a symbol.
-/

/-! ## The scan for a repeated byte -/

/-- Seen bytes and the bytes before a position, with one byte moved from one to the other. -/
theorem mem_seen_cons_append
    {symbol b : UInt8}
    {seen before : List UInt8} :
    symbol ∈ (b :: seen) ++ before ↔ symbol ∈ seen ++ b :: before := by
  simp only [List.mem_append, List.mem_cons]
  tauto

/--
The scan reports a byte exactly when it stands at the least position whose
byte was seen or occurs earlier among the bytes left.
-/
theorem firstRepeat_eq_some_iff
    (seen rest : List UInt8)
    (symbol : UInt8) :
    firstRepeat seen rest = some symbol ↔
      ∃ j, ∃ h : j < rest.length, rest[j] ∈ seen ++ rest.take j ∧
        (∀ i (earlier : i < j), rest[i] ∉ seen ++ rest.take i) ∧ rest[j] = symbol := by
  induction rest generalizing seen with
  | nil =>
      simp [firstRepeat]
  | cons b rest inductionHypothesis =>
      by_cases before : b ∈ seen
      · -- the first byte is already a repetition, and every later one comes after it
        simp only [firstRepeat, List.contains_iff_mem, before, if_true, Option.some.injEq]
        constructor
        · rintro rfl
          exact ⟨0, by simp, by simp [before], fun i earlier => absurd earlier (Nat.not_lt_zero i), rfl⟩
        · rintro ⟨j, inRange, -, least, found⟩
          cases j with
          | zero =>
              simpa using found
          | succ j =>
              exact absurd (by simpa using before) (least 0 (Nat.succ_pos j))
      · -- the first byte is fresh: it moves to the seen bytes, and positions shift by one
        simp only [firstRepeat, List.contains_iff_mem, before, if_false, inductionHypothesis]
        constructor
        · rintro ⟨j, inRange, repeated, least, found⟩
          refine ⟨j + 1, by simpa using inRange, ?_, ?_, by simpa using found⟩
          · rw [List.getElem_cons_succ, List.take_succ_cons]
            exact mem_seen_cons_append.mp repeated
          · intro i earlier
            cases i with
            | zero =>
                simpa using before
            | succ i =>
                rw [List.getElem_cons_succ, List.take_succ_cons]
                exact fun seenBefore => least i (by omega) (mem_seen_cons_append.mpr seenBefore)
        · rintro ⟨j, inRange, repeated, least, found⟩
          cases j with
          | zero =>
              simp only [List.getElem_cons_zero, List.take_zero, List.append_nil] at repeated
              exact absurd repeated before
          | succ j =>
              rw [List.getElem_cons_succ, List.take_succ_cons] at repeated
              refine ⟨j, by simpa using inRange, mem_seen_cons_append.mpr repeated, ?_,
                by simpa using found⟩
              intro i earlier seenBefore
              have shifted := least (i + 1) (by omega)
              rw [List.getElem_cons_succ, List.take_succ_cons] at shifted
              exact shifted (mem_seen_cons_append.mp seenBefore)

/-! ## The least power of two covering a count -/

/-- The covering power of two is a power of two. -/
theorem coveringPower_isPowerOfTwo
    (n : Nat) :
    (coveringPower n).isPowerOfTwo := by
  unfold coveringPower
  split
  · exact Nat.isPowerOfTwo_one
  · exact ⟨_, rfl⟩

/-- The covering power of two is at least the count. -/
theorem le_coveringPower
    (n : Nat) :
    n ≤ coveringPower n := by
  unfold coveringPower
  split
  · omega
  · have covers : n - 1 < 2 ^ ((n - 1).log2 + 1) := Nat.lt_log2_self
    change n ≤ 2 ^ ((n - 1).log2 + 1)
    omega

/-- The covering power of two is less than twice a positive count. -/
theorem coveringPower_lt_double
    {n : Nat}
    (positive : 0 < n) :
    coveringPower n < 2 * n := by
  unfold coveringPower
  split
  · omega
  · rename_i large
    have below : 2 ^ (n - 1).log2 ≤ n - 1 := Nat.log2_self_le (by omega)
    change 2 ^ ((n - 1).log2 + 1) < 2 * n
    rw [Nat.pow_succ]
    omega

/-- No power of two at least the count is below the covering one. -/
theorem coveringPower_le
    {n p : Nat}
    (power : p.isPowerOfTwo)
    (covers : n ≤ p) :
    coveringPower n ≤ p := by
  obtain ⟨k, rfl⟩ := power
  unfold coveringPower
  split
  · exact Nat.one_le_two_pow
  · -- the bits of `n - 1` fit in `k` bits
    have fits : (n - 1).log2 < k := (Nat.log2_lt (by omega)).mpr (by omega)
    exact Nat.pow_le_pow_right (by decide) fits

/-- Exactly `bound` of every `span` consecutive numbers have a remainder below `bound ≤ span`,
so the first `blocks` blocks hold `blocks * bound` of them. -/
theorem countP_range_mod_lt
    (span bound blocks : Nat)
    (within : bound ≤ span) :
    (List.range (blocks * span)).countP (fun v => v % span < bound) = blocks * bound := by
  induction blocks with
  | zero =>
      simp
  | succ blocks inductionHypothesis =>
      -- the next block holds its own remainders, below `bound` first and the rest after
      have oneBlock :
          (List.range span).countP (fun r => (blocks * span + r) % span < bound) = bound := by
        have remainders : (List.range span).countP (fun r => (blocks * span + r) % span < bound) =
            (List.range span).countP (fun r => r < bound) := by
          apply List.countP_congr
          intro r member
          rw [Nat.mul_add_mod_self_right, Nat.mod_eq_of_lt (List.mem_range.mp member)]
        have kept : (List.range bound).countP (fun r => r < bound) = bound := by
          rw [List.countP_eq_length.mpr (fun r member => by simpa using List.mem_range.mp member)]
          exact List.length_range
        have dropped :
            (List.range (span - bound)).countP ((fun r => r < bound) ∘ (bound + ·)) = 0 :=
          List.countP_eq_zero.mpr (fun r _ => by simp)
        rw [remainders, ← Nat.add_sub_cancel' within, List.range_add, List.countP_append,
          List.countP_map, kept, dropped, Nat.add_zero]
      rw [Nat.succ_mul, List.range_add, List.countP_append, inductionHypothesis, List.countP_map,
        Function.comp_def, oneBlock, Nat.succ_mul]

/-! ## Alphabets made from texts -/

namespace Alphabet

/-- Distinct bytes below 128 are at most 128. -/
theorem length_le_of_nodup_ascii
    {bytes : List UInt8}
    (distinct : bytes.Nodup)
    (ascii : ∀ b ∈ bytes, b.toNat < 128) :
    bytes.length ≤ 128 := by
  have codesDistinct : (bytes.map UInt8.toNat).Nodup :=
    distinct.map fun _ _ same => UInt8.toNat_inj.mp same
  have codesBelow : (bytes.map UInt8.toNat).toFinset ⊆ Finset.range 128 := by
    intro code member
    obtain ⟨b, inBytes, rfl⟩ := List.mem_map.mp (List.mem_toFinset.mp member)
    exact Finset.mem_range.mpr (ascii b inBytes)
  calc bytes.length
      = (bytes.map UInt8.toNat).toFinset.card := by
        rw [List.toFinset_card_of_nodup codesDistinct, List.length_map]
    _ ≤ (Finset.range 128).card := Finset.card_le_card codesBelow
    _ = 128 := Finset.card_range 128

/-- An alphabet holds at most 128 symbols, being distinct ASCII bytes. -/
theorem size_le
    (a : Alphabet) :
    a.size ≤ 128 :=
  length_le_of_nodup_ascii a.distinct a.ascii

/-- The mask of an alphabet is the covering power of two less one, unchanged by the cast to a
byte. -/
theorem mask_toNat
    (a : Alphabet) :
    a.mask.toNat = coveringPower a.size - 1 := by
  have atMost : coveringPower a.size ≤ 128 := coveringPower_le ⟨7, rfl⟩ a.size_le
  rw [mask, UInt8.toNat_ofNat']
  exact Nat.mod_eq_of_lt (by omega)

/-- The mask plus one is the least power of two at least the number of symbols. -/
theorem mask_add_one
    (a : Alphabet) :
    a.mask.toNat + 1 = coveringPower a.size := by
  have covers := le_coveringPower a.size
  have enough : 2 ≤ a.size := a.atLeastTwo
  rw [mask_toNat]
  omega

/-- An index names a symbol exactly when it is below the size. -/
theorem isSome_symbol?
    (a : Alphabet)
    (index : Nat) :
    (a.symbol? index).isSome ↔ index < a.size := by
  simp [symbol?, size]

section Checks

variable {text : String}

/-- The first check refuses a text exactly when it is not ASCII. -/
theorem asciiCheck_iff :
    (!text.toList.all fun c => c.toNat < 128) = true ↔ ¬∀ c ∈ text.toList, c.toNat < 128 := by
  simp

/-- An ASCII text passes the first check. -/
theorem asciiCheck_of_ascii
    (ascii : ∀ c ∈ text.toList, c.toNat < 128) :
    ¬(!text.toList.all fun c => c.toNat < 128) = true :=
  fun failed => asciiCheck_iff.mp failed ascii

theorem ofString?_of_not_ascii
    (notAscii : ¬∀ c ∈ text.toList, c.toNat < 128) :
    ofString? text = .error .notAscii := by
  unfold ofString?
  rw [dif_pos (asciiCheck_iff.mpr notAscii)]

/-- An ASCII text shorter than two bytes is refused with its length. -/
theorem ofString?_of_short
    (ascii : ∀ c ∈ text.toList, c.toNat < 128)
    (short : text.toUTF8.toList.length < 2) :
    ofString? text = .error (.tooFew text.toUTF8.toList.length) := by
  unfold ofString?
  rw [dif_neg (asciiCheck_of_ascii ascii), dif_pos short]

/-- An ASCII text of at least two bytes is refused with the repetition the scan reports. -/
theorem ofString?_of_repeat
    (ascii : ∀ c ∈ text.toList, c.toNat < 128)
    (enough : ¬text.toUTF8.toList.length < 2)
    {symbol : UInt8}
    (scanned : firstRepeat [] text.toUTF8.toList = some symbol) :
    ofString? text = .error (.repeats symbol) := by
  unfold ofString?
  rw [dif_neg (asciiCheck_of_ascii ascii), dif_neg enough]
  split
  · rename_i found repeated
    rw [scanned, Option.some.injEq] at repeated
    rw [repeated]
  · rename_i repeated
    rw [scanned] at repeated
    cases repeated

/-- An ASCII text of at least two bytes in which the scan finds no repetition is accepted, and
its alphabet holds its bytes. -/
theorem ofString?_of_distinct
    (ascii : ∀ c ∈ text.toList, c.toNat < 128)
    (enough : ¬text.toUTF8.toList.length < 2)
    (scanned : firstRepeat [] text.toUTF8.toList = none) :
    ∃ a, ofString? text = .ok a ∧ a.symbols = text.toUTF8.toList.toArray := by
  unfold ofString?
  rw [dif_neg (asciiCheck_of_ascii ascii), dif_neg enough]
  split
  · rename_i repeated
    rw [scanned] at repeated
    cases repeated
  · exact ⟨_, rfl, rfl⟩

/-- Such a text is refused for no problem at all. -/
theorem ofString?_ne_error_of_distinct
    (ascii : ∀ c ∈ text.toList, c.toNat < 128)
    (enough : ¬text.toUTF8.toList.length < 2)
    (scanned : firstRepeat [] text.toUTF8.toList = none)
    (problem : AlphabetProblem) :
    ofString? text ≠ .error problem := by
  obtain ⟨made, accepted, -⟩ := ofString?_of_distinct ascii enough scanned
  rw [accepted]
  exact fun same => by cases same

/-- A text is accepted exactly when it is ASCII, holds at least two bytes and repeats none, and
then its alphabet holds its bytes. -/
theorem ofString?_eq_ok_iff
    {a : Alphabet} :
    ofString? text = .ok a ↔
      (∀ c ∈ text.toList, c.toNat < 128) ∧ 2 ≤ text.toUTF8.toList.length ∧
        text.toUTF8.toList.Nodup ∧ a.symbols = text.toUTF8.toList.toArray := by
  have distinctIff := firstRepeat_eq_none_iff [] text.toUTF8.toList
  simp only [List.not_mem_nil, not_false_eq_true, implies_true, and_true] at distinctIff
  by_cases ascii : ∀ c ∈ text.toList, c.toNat < 128
  · by_cases short : text.toUTF8.toList.length < 2
    · rw [ofString?_of_short ascii short]
      simp only [reduceCtorEq, false_iff]
      rintro ⟨-, enough, -⟩
      omega
    · cases scanned : firstRepeat [] text.toUTF8.toList with
      | some symbol =>
          rw [ofString?_of_repeat ascii short scanned]
          simp only [reduceCtorEq, false_iff]
          rintro ⟨-, -, distinct, -⟩
          exact Option.some_ne_none symbol (scanned ▸ distinctIff.mpr distinct)
      | none =>
          obtain ⟨made, accepted, holds⟩ := ofString?_of_distinct ascii short scanned
          rw [accepted, Except.ok.injEq]
          constructor
          · rintro rfl
            exact ⟨ascii, by omega, distinctIff.mp scanned, holds⟩
          · rintro ⟨-, -, -, same⟩
            exact Alphabet.ext (holds.trans same.symm)
  · rw [ofString?_of_not_ascii ascii]
    simp only [reduceCtorEq, false_iff]
    rintro ⟨isAscii, -⟩
    exact ascii isAscii

/-- A text is refused as not ASCII exactly when it is not. -/
theorem ofString?_eq_notAscii_iff :
    ofString? text = .error .notAscii ↔ ¬∀ c ∈ text.toList, c.toNat < 128 := by
  by_cases ascii : ∀ c ∈ text.toList, c.toNat < 128
  · refine iff_of_false ?_ fun notAscii => notAscii ascii
    by_cases short : text.toUTF8.toList.length < 2
    · rw [ofString?_of_short ascii short]
      exact fun same => by cases same
    · cases scanned : firstRepeat [] text.toUTF8.toList with
      | some symbol =>
          rw [ofString?_of_repeat ascii short scanned]
          exact fun same => by cases same
      | none =>
          exact ofString?_ne_error_of_distinct ascii short scanned _
  · exact iff_of_true (ofString?_of_not_ascii ascii) ascii

/-- A text is refused as too short exactly when it is ASCII and shorter than two bytes, and the
count reported is its length. -/
theorem ofString?_eq_tooFew_iff
    (count : Nat) :
    ofString? text = .error (.tooFew count) ↔
      (∀ c ∈ text.toList, c.toNat < 128) ∧ text.toUTF8.toList.length < 2 ∧
        count = text.toUTF8.toList.length := by
  by_cases ascii : ∀ c ∈ text.toList, c.toNat < 128
  · by_cases short : text.toUTF8.toList.length < 2
    · rw [ofString?_of_short ascii short]
      simp only [Except.error.injEq, AlphabetProblem.tooFew.injEq]
      exact ⟨fun same => ⟨ascii, short, same.symm⟩, fun ⟨_, _, same⟩ => same.symm⟩
    · simp only [short, false_and, and_false, iff_false]
      cases scanned : firstRepeat [] text.toUTF8.toList with
      | some symbol =>
          rw [ofString?_of_repeat ascii short scanned]
          exact fun same => by cases same
      | none =>
          exact ofString?_ne_error_of_distinct ascii short scanned _
  · simp [ofString?_of_not_ascii ascii, ascii]

/-- A text is refused for a repeated byte exactly when it is ASCII, holds at least two bytes,
and the byte stands at the least position whose byte occurs before it. -/
theorem ofString?_eq_repeats_iff
    (symbol : UInt8) :
    ofString? text = .error (.repeats symbol) ↔
      (∀ c ∈ text.toList, c.toNat < 128) ∧ 2 ≤ text.toUTF8.toList.length ∧
        ∃ j, ∃ h : j < text.toUTF8.toList.length,
          text.toUTF8.toList[j] ∈ text.toUTF8.toList.take j ∧
          (∀ i (earlier : i < j), text.toUTF8.toList[i] ∉ text.toUTF8.toList.take i) ∧
          text.toUTF8.toList[j] = symbol := by
  have scanIff := firstRepeat_eq_some_iff [] text.toUTF8.toList
  simp only [List.nil_append] at scanIff
  by_cases ascii : ∀ c ∈ text.toList, c.toNat < 128
  · by_cases short : text.toUTF8.toList.length < 2
    · rw [ofString?_of_short ascii short]
      refine iff_of_false (fun same => by cases same) ?_
      rintro ⟨-, enough, -⟩
      omega
    · -- the repetition reported is the scan's, and the scan's is the least one
      cases scanned : firstRepeat [] text.toUTF8.toList with
      | some found =>
          rw [ofString?_of_repeat ascii short scanned]
          simp only [Except.error.injEq, AlphabetProblem.repeats.injEq]
          constructor
          · rintro rfl
            exact ⟨ascii, by omega, (scanIff found).mp scanned⟩
          · rintro ⟨-, -, least⟩
            have reported := (scanIff symbol).mpr least
            rw [scanned, Option.some.injEq] at reported
            exact reported
      | none =>
          refine iff_of_false (ofString?_ne_error_of_distinct ascii short scanned _) ?_
          rintro ⟨-, -, least⟩
          have reported := (scanIff symbol).mpr least
          rw [scanned] at reported
          cases reported
  · rw [ofString?_of_not_ascii ascii]
    refine iff_of_false (fun same => by cases same) ?_
    rintro ⟨isAscii, -⟩
    exact ascii isAscii

end Checks

section Masked

variable (a : Alphabet)

/-- The number of values the mask keeps is a power of two dividing 256. -/
theorem span_dvd :
    a.mask.toNat + 1 ∣ 256 := by
  obtain ⟨k, power⟩ := coveringPower_isPowerOfTwo a.size
  have atMost : coveringPower a.size ≤ 128 := coveringPower_le ⟨7, rfl⟩ a.size_le
  rw [mask_add_one, power]
  have bits : k ≤ 8 := by
    by_contra past
    have grows : 2 ^ 8 ≤ 2 ^ k := Nat.pow_le_pow_right (by decide) (by omega)
    rw [power] at atMost
    omega
  exact Nat.pow_dvd_pow 2 bits

/-- A masked byte is the byte modulo the number of values the mask keeps. -/
theorem index_eq_mod
    (b : UInt8) :
    (b &&& a.mask).toNat = b.toNat % (a.mask.toNat + 1) := by
  obtain ⟨k, power⟩ := coveringPower_isPowerOfTwo a.size
  have maskValue : a.mask.toNat = 2 ^ k - 1 := by
    have maskIs := a.mask_add_one
    omega
  rw [UInt8.toNat_and, maskValue, Nat.and_two_pow_sub_one_eq_mod,
    Nat.sub_add_cancel Nat.one_le_two_pow]

/-- Every symbol's index is below the number of values the mask keeps. -/
theorem size_le_span :
    a.size ≤ a.mask.toNat + 1 := by
  rw [mask_add_one]
  exact le_coveringPower a.size

/-- The 256 byte values fall into blocks of as many values as the mask keeps, and in each
block one byte masks to each symbol. -/
theorem countP_symbol?_masked :
    (List.range 256).countP (fun v => (a.symbol? (v.toUInt8 &&& a.mask).toNat).isSome) =
      256 / (a.mask.toNat + 1) * a.size := by
  have blocks : 256 / (a.mask.toNat + 1) * (a.mask.toNat + 1) = 256 :=
    Nat.div_mul_cancel a.span_dvd
  have remainders :
      (List.range 256).countP (fun v => (a.symbol? (v.toUInt8 &&& a.mask).toNat).isSome) =
        (List.range 256).countP (fun v => v % (a.mask.toNat + 1) < a.size) := by
    apply List.countP_congr
    intro v member
    have byte : v.toUInt8.toNat = v := by
      simpa using Nat.mod_eq_of_lt (List.mem_range.mp member)
    rw [decide_eq_true_iff, isSome_symbol?, index_eq_mod, byte]
  rw [remainders, ← blocks, countP_range_mod_lt _ _ _ a.size_le_span, blocks]

/-- More than half of the byte values mask to a symbol, since the mask keeps fewer than twice
as many values as there are symbols. -/
theorem half_lt_countP_symbol?_masked :
    128 < (List.range 256).countP (fun v => (a.symbol? (v.toUInt8 &&& a.mask).toNat).isSome) := by
  have enough : 2 ≤ a.size := a.atLeastTwo
  have tight := coveringPower_lt_double (by omega : 0 < a.size)
  have maskIs := a.mask_add_one
  have spanDivides := a.span_dvd
  have blocksPositive : 0 < 256 / (a.mask.toNat + 1) :=
    Nat.div_pos (Nat.le_of_dvd (by decide) spanDivides) (by omega)
  have doubled : 256 < 2 * (256 / (a.mask.toNat + 1) * a.size) :=
    calc 256
        = 256 / (a.mask.toNat + 1) * (a.mask.toNat + 1) := (Nat.div_mul_cancel spanDivides).symm
      _ < 256 / (a.mask.toNat + 1) * (2 * a.size) :=
        Nat.mul_lt_mul_of_pos_left (by omega) blocksPositive
      _ = 2 * (256 / (a.mask.toNat + 1) * a.size) := Nat.mul_left_comm _ _ _
  rw [countP_symbol?_masked]
  omega

end Masked

/--
A text is accepted exactly when it is ASCII, holds at least two bytes and
repeats none. Otherwise the first failing check is reported, in the order
ASCII, length, repetition; a repetition names the byte at the least position
whose byte occurs before it. Once the text is ASCII every byte indexes the
table of seen bytes. An accepted text's alphabet holds from 2 to 128
symbols; its mask plus one is the least power of two at least their number,
unchanged by the cast to a byte, and less than twice their number; the
symbol at an index is the text's byte there, and none past the end; of the
256 byte values, those that mask to a symbol number the symbols once for
each block of the mask's span, which is more than half of them; and a
text is made of the alphabet's symbols exactly when each of its bytes occurs
in the alphabet's text.
-/
theorem ofString?_accepts_distinct_ascii_symbols
    (text : String) :
    let bytes := text.toUTF8.toList
    let ascii := ∀ c ∈ text.toList, c.toNat < 128
    ((∃ a, ofString? text = .ok a) ↔ ascii ∧ 2 ≤ bytes.length ∧ bytes.Nodup) ∧
      (ofString? text = .error .notAscii ↔ ¬ascii) ∧
      (∀ count, ofString? text = .error (.tooFew count) ↔
        ascii ∧ bytes.length < 2 ∧ count = bytes.length) ∧
      (∀ symbol, ofString? text = .error (.repeats symbol) ↔
        ascii ∧ 2 ≤ bytes.length ∧
          ∃ j, ∃ h : j < bytes.length, bytes[j] ∈ bytes.take j ∧
            (∀ i (earlier : i < j), bytes[i] ∉ bytes.take i) ∧ bytes[j] = symbol) ∧
      (ascii → ∀ b ∈ bytes, b.toNat < 128) ∧
      ∀ a, ofString? text = .ok a →
        2 ≤ a.size ∧ a.size ≤ 128 ∧
          a.mask.toNat + 1 = coveringPower a.size ∧
          (a.mask.toNat + 1).isPowerOfTwo ∧ a.size ≤ a.mask.toNat + 1 ∧
          (∀ p, p.isPowerOfTwo → a.size ≤ p → a.mask.toNat + 1 ≤ p) ∧
          a.size - 1 ≤ a.mask.toNat ∧ a.mask.toNat + 1 < 2 * a.size ∧
          (∀ i (h : i < bytes.length), a.symbol? i = some bytes[i]) ∧
          (∀ i, bytes.length ≤ i → a.symbol? i = none) ∧
          (List.range 256).countP (fun v => (a.symbol? (v.toUInt8 &&& a.mask).toNat).isSome) =
            256 / (a.mask.toNat + 1) * a.size ∧
          128 < (List.range 256).countP (fun v => (a.symbol? (v.toUInt8 &&& a.mask).toNat).isSome) ∧
          ∀ t : String, a.containsAll t = true ↔ ∀ b ∈ t.toUTF8.toList, b ∈ bytes := by
  intro bytes ascii
  refine ⟨?_, ofString?_eq_notAscii_iff, ofString?_eq_tooFew_iff, ofString?_eq_repeats_iff,
    String.toUTF8_ascii, ?_⟩
  · constructor
    · rintro ⟨a, accepted⟩
      obtain ⟨isAscii, enough, distinct, -⟩ := ofString?_eq_ok_iff.mp accepted
      exact ⟨isAscii, enough, distinct⟩
    · rintro ⟨isAscii, enough, distinct⟩
      have scanned : firstRepeat [] bytes = none :=
        (firstRepeat_eq_none_iff [] bytes).mpr ⟨distinct, by simp⟩
      obtain ⟨a, accepted, -⟩ := ofString?_of_distinct isAscii (Nat.not_lt.mpr enough) scanned
      exact ⟨a, accepted⟩
  · intro a accepted
    obtain ⟨-, -, -, symbolsAre⟩ := ofString?_eq_ok_iff.mp accepted
    have sized : a.size = bytes.length := by
      rw [size, symbolsAre, List.size_toArray]
    have enough : 2 ≤ a.size := a.atLeastTwo
    have maskIs := a.mask_add_one
    have covers := le_coveringPower a.size
    have tight := coveringPower_lt_double (by omega : 0 < a.size)
    have symbolIs : ∀ i, a.symbol? i = bytes[i]? := fun i => by
      rw [symbol?, symbolsAre, List.getElem?_toArray]
    refine ⟨enough, a.size_le, maskIs, maskIs ▸ coveringPower_isPowerOfTwo a.size, by omega,
      fun p power reaches => maskIs ▸ coveringPower_le power reaches, by omega, by omega,
      ?_, ?_, a.countP_symbol?_masked, a.half_lt_countP_symbol?_masked, ?_⟩
    · intro i inRange
      rw [symbolIs, List.getElem?_eq_getElem inRange]
    · intro i past
      rw [symbolIs, List.getElem?_eq_none past]
    · intro t
      rw [containsAll, List.all_eq_true]
      exact forall₂_congr fun b _ => by
        rw [Array.contains_iff_mem, symbolsAre, List.mem_toArray]

end Alphabet

end IdFactory
