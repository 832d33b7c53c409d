import IdFactory.Text.Quote
import IdFactory.Text.Ascii

namespace IdFactory

/-!
# Alphabets

An alphabet is the list of symbols identifiers are drawn from: between 2
and 128 distinct ASCII bytes, in a chosen order. A symbol is addressed by
its index. The mask is the smallest all-ones bit pattern that covers every
index, so that a random byte masked by it is an index with probability at
least one half.

`Alphabet.ofString?` accepts a text exactly when it is ASCII, holds at least
two bytes and repeats none; otherwise it reports the first failing check in
that order, and for a repetition the first byte already seen before it.
-/

/-- Why a text is not an alphabet. -/
inductive AlphabetProblem where
  | notAscii
  | tooFew (count : Nat)
  | repeats (symbol : UInt8)
  deriving Repr, DecidableEq

/-- The message of an alphabet problem. -/
def AlphabetProblem.message : AlphabetProblem → String
  | .notAscii => "alphabet must be ASCII"
  | .tooFew count => "alphabet must hold at least 2 symbols, got " ++ toString count
  | .repeats symbol => "alphabet repeats symbol " ++ Text.quoteSingle (Char.ofNat symbol.toNat)

/-- The first byte of a list that occurs earlier in it, scanning with the set of bytes seen. -/
def firstRepeat (seen : List UInt8) : List UInt8 → Option UInt8
  | [] => none
  | b :: rest => if seen.contains b then some b else firstRepeat (b :: seen) rest

/-- The scan finds no repetition exactly when the bytes left are distinct and none was seen. -/
theorem firstRepeat_eq_none_iff
    (seen rest : List UInt8) :
    firstRepeat seen rest = none ↔ rest.Nodup ∧ ∀ b ∈ rest, b ∉ seen := by
  induction rest generalizing seen with
  | nil =>
      simp [firstRepeat]
  | cons b rest inductionHypothesis =>
      by_cases before : b ∈ seen
      · simp [firstRepeat, before]
      · have unseen : seen.contains b = false := by simpa using before
        simp only [firstRepeat, unseen, Bool.false_eq_true, if_false, inductionHypothesis,
          List.nodup_cons, List.mem_cons, not_or, forall_eq_or_imp]
        constructor
        · rintro ⟨distinct, unseen⟩
          exact ⟨⟨fun later => (unseen b later).1 rfl, distinct⟩, before,
            fun c member => (unseen c member).2⟩
        · rintro ⟨⟨fresh, distinct⟩, -, unseen⟩
          exact ⟨distinct, fun c member => ⟨fun same => fresh (same ▸ member), unseen c member⟩⟩

/-- Bytes that all pass the check below 128 are ASCII. -/
theorem ascii_of_all
    {bytes : List UInt8}
    (checked : bytes.all (fun byte => byte.toNat < 128) = true) :
    ∀ byte ∈ bytes, byte.toNat < 128 := by
  intro byte member
  simpa using List.all_eq_true.mp checked byte member

/-- An alphabet: at least two distinct ASCII symbols, in a chosen order. Only `ofString?` and
`standard` make one, and a symbol list written out is checked by `decide`. -/
@[ext]
structure Alphabet where
  symbols : Array UInt8
  ascii : ∀ symbol ∈ symbols.toList, symbol.toNat < 128 := by exact ascii_of_all (by decide)
  distinct : symbols.toList.Nodup := by decide +kernel
  atLeastTwo : 2 ≤ symbols.size := by decide +kernel
  deriving Repr, DecidableEq

/-- The symbols of the default alphabet: `_`, `-`, the digits, then the lower- and
upper-case letters. -/
def defaultSymbols : String :=
  "_-0123456789abcdefghijklmnopqrstuvwxyzABCDEFGHIJKLMNOPQRSTUVWXYZ"

/-- The least power of two at least `n`, and one when `n` is zero: two to the number of bits
of `n - 1`. -/
def coveringPower (n : Nat) : Nat :=
  if n ≤ 1 then 1 else Nat.pow 2 ((n - 1).log2 + 1)

namespace Alphabet

/-- Check a text and make it an alphabet. -/
def ofString? (text : String) : Except AlphabetProblem Alphabet :=
  let bytes := text.toUTF8.toList
  if notAscii : !text.toList.all (fun c => c.toNat < 128) then .error .notAscii
  else if few : bytes.length < 2 then .error (.tooFew bytes.length)
  else match repeated : firstRepeat [] bytes with
    | some symbol => .error (.repeats symbol)
    | none =>
      .ok { symbols := bytes.toArray
            ascii := String.toUTF8_ascii (by simpa using notAscii)
            distinct := ((firstRepeat_eq_none_iff [] bytes).mp repeated).1
            atLeastTwo := Nat.le_of_not_lt few }

theorem defaultSymbols_ascii : ∀ c ∈ defaultSymbols.toList, c.toNat < 128 := by
  have checked : defaultSymbols.toList.all (fun c => c.toNat < 128) = true := by
    decide
  simpa using checked

/-- The default alphabet of 64 symbols. -/
def standard : Alphabet where
  symbols := defaultSymbols.toUTF8.toList.toArray
  ascii := by simpa using String.toUTF8_ascii defaultSymbols_ascii
  distinct := by
    rw [List.toList_toArray, String.toUTF8_toList_of_ascii defaultSymbols_ascii]
    decide +kernel
  atLeastTwo := by
    rw [List.size_toArray, String.toUTF8_toList_of_ascii defaultSymbols_ascii]
    decide +kernel

/-- The number of symbols. -/
def size (a : Alphabet) : Nat :=
  a.symbols.size

/-- The symbol at an index, if the index is inside the alphabet. -/
def symbol? (a : Alphabet) (index : Nat) : Option UInt8 :=
  a.symbols[index]?

/-- The smallest all-ones pattern covering every index: the least power of two at least
the size, minus one. -/
def mask (a : Alphabet) : UInt8 :=
  UInt8.ofNat (coveringPower a.size - 1)

/-- Whether every byte of a text is a symbol; true of the empty text. -/
def containsAll (a : Alphabet) (text : String) : Bool :=
  text.toUTF8.toList.all fun b => a.symbols.contains b

/-- The largest value of 128 bits, where counts of identifiers saturate. -/
def countCap : Nat := Nat.pow 2 128 - 1

/-- The number of identifiers of a length, `size ^ length`, saturating at `2^128 - 1`. -/
def keyspace (a : Alphabet) (length : Nat) : Nat :=
  Nat.repeat (fun acc => min (acc * a.size) countCap) length 1

@[simp]
theorem keyspace_zero (a : Alphabet) : a.keyspace 0 = 1 :=
  rfl

/-- One more symbol multiplies the count by the alphabet's size, saturating at the cap. -/
theorem keyspace_succ (a : Alphabet) (length : Nat) :
    a.keyspace (length + 1) = min (a.keyspace length * a.size) countCap :=
  rfl

/-- The count never passes the cap. -/
theorem keyspace_le_countCap (a : Alphabet) (length : Nat) (h : length ≠ 0) :
    a.keyspace length ≤ countCap := by
  cases length with
  | zero => exact absurd rfl h
  | succ n => rw [keyspace_succ]; exact Nat.min_le_right _ _

/-- The symbols as a text. -/
def toText (a : Alphabet) : String :=
  String.ofList (a.symbols.toList.map fun b => Char.ofNat b.toNat)

end Alphabet

end IdFactory
