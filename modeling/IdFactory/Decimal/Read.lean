import IdFactory.Decimal.Binary

namespace IdFactory.Decimal

/-!
# Reading numbers from text

Two readers of number literals:

* an unsigned integer: an optional `+`, then decimal digits, below a bound;
* a double: an optional sign, then `inf`, `infinity` or `nan` in any case, or
  digits with an optional point and an optional exponent `e`/`E` with an
  optional sign. At least one digit stands before or after the point, and the
  exponent has at least one digit.

A decimal is turned into the double nearest to it, a tie going to the even
mantissa, by exact arithmetic on natural numbers.
-/

/-- Round `num / den` to the nearest natural, a tie going to the even one. -/
def roundHalfEven (num den : Nat) : Nat :=
  let q := num / den
  let r := num % den
  if den < 2 * r then q + 1
  else if 2 * r = den then q + q % 2
  else q

/-- The double nearest to `digits * 10^exponent`, with the given sign. -/
def nearestDouble (negative : Bool) (digits : Nat) (exponent : Int) : Float :=
  let size : Int := (toString digits).length
  if digits = 0 then zeroOf negative
  else if 310 < exponent + size then infinityOf negative
  else if exponent + size < -330 then zeroOf negative
  else
    let num := digits * Nat.pow 10 exponent.toNat
    let den := Nat.pow 10 (-exponent).toNat
    -- the binary exponent `k` with `2^k ≤ num / den < 2^(k+1)`
    let guess : Int := (Nat.log2 num : Int) - (Nat.log2 den : Int)
    let below := if 0 ≤ guess then num < den * Nat.pow 2 guess.toNat else num * Nat.pow 2 (-guess).toNat < den
    let k := if below then guess - 1 else guess
    if -1022 ≤ k then
      let shift : Int := 52 - k
      let m := roundHalfEven (num * Nat.pow 2 shift.toNat) (den * Nat.pow 2 (-shift).toNat)
      let (m, k) := if m = Nat.pow 2 53 then (Nat.pow 2 52, k + 1) else (m, k)
      if 1023 < k then infinityOf negative
      else ofFields negative (k + 1023).toNat (m - Nat.pow 2 52)
    else
      let m := roundHalfEven (num * Nat.pow 2 1074) den
      if Nat.pow 2 52 ≤ m then ofFields negative 1 (m - Nat.pow 2 52)
      else ofFields negative 0 m

/-- Why a text is not an unsigned integer. -/
inductive IntegerTextError where
  | empty
  | invalidDigit
  | tooLarge
  deriving Repr, DecidableEq

/-- The message of an integer reading failure. -/
def IntegerTextError.message : IntegerTextError → String
  | .empty => "cannot parse integer from empty string"
  | .invalidDigit => "invalid digit found in string"
  | .tooLarge => "number too large to fit in target type"

/-- Accumulate decimal digits left to right; the first bad digit or the first overflow of
`bound` ends the reading with its error. -/
def readDigits (bound : Nat) (acc : Nat) : List Char → Except IntegerTextError Nat
  | [] => .ok acc
  | c :: rest =>
    if c.isDigit then
      let next := acc * 10 + (c.toNat - '0'.toNat)
      if bound < next then .error .tooLarge else readDigits bound next rest
    else .error .invalidDigit

/-- Read an unsigned integer of at most `bound`: an optional `+` and decimal digits. -/
def readUnsigned (bound : Nat) (text : String) : Except IntegerTextError Nat :=
  match text.toList with
  | [] => .error .empty
  | ['+'] => .error .invalidDigit
  | ['-'] => .error .invalidDigit
  | '+' :: rest => readDigits bound 0 rest
  | chars => readDigits bound 0 chars

/-- The largest unsigned 64-bit value. -/
def maxWord : Nat := Nat.pow 2 64 - 1

/-- Why a text is not a double. -/
inductive FloatTextError where
  | empty
  | invalid
  deriving Repr, DecidableEq

/-- The message of a double reading failure. -/
def FloatTextError.message : FloatTextError → String
  | .empty => "cannot parse float from empty string"
  | .invalid => "invalid float literal"

/-- Split off the leading decimal digits of a character list. -/
def spanDigits (chars : List Char) : List Char × List Char :=
  (chars.takeWhile Char.isDigit, chars.dropWhile Char.isDigit)

/-- The value of a list of decimal digits. -/
def digitsValue (digits : List Char) : Nat :=
  digits.foldl (fun acc c => acc * 10 + (c.toNat - '0'.toNat)) 0

/-- Read an exponent: an optional sign and at least one digit, and nothing after them. -/
def readExponent (chars : List Char) : Option Int :=
  let (negative, rest) := match chars with
    | '-' :: rest => (true, rest)
    | '+' :: rest => (false, rest)
    | rest => (false, rest)
  let (digits, tail) := spanDigits rest
  if digits.isEmpty || !tail.isEmpty then none
  else
    let value : Int := digitsValue digits
    some (if negative then -value else value)

/-- Read the unsigned part of a decimal literal as `digits * 10^exponent`. -/
def readDecimal (chars : List Char) : Option (Nat × Int) :=
  let (whole, rest) := spanDigits chars
  let (fraction, rest) := match rest with
    | '.' :: after => spanDigits after
    | _ => ([], rest)
  if whole.isEmpty && fraction.isEmpty then none
  else
    let scale : Int := -(fraction.length : Int)
    let mantissa := digitsValue (whole ++ fraction)
    match rest with
    | [] => some (mantissa, scale)
    | c :: after =>
      if c = 'e' || c = 'E' then (readExponent after).map fun e => (mantissa, scale + e)
      else none

/-- Whether a text spells a word, ignoring ASCII case. -/
def spellsIgnoringCase (chars : List Char) (word : String) : Bool :=
  chars.map Char.toLower == word.toList

/-- Read a double literal. -/
def readFloat (text : String) : Except FloatTextError Float :=
  match text.toList with
  | [] => .error .empty
  | chars =>
    let (negative, rest) := match chars with
      | '-' :: rest => (true, rest)
      | '+' :: rest => (false, rest)
      | rest => (false, rest)
    if rest.isEmpty then .error .invalid
    else match readDecimal rest with
      | some (digits, exponent) => .ok (nearestDouble negative digits exponent)
      | none =>
        if spellsIgnoringCase rest "inf" || spellsIgnoringCase rest "infinity" then
          .ok (infinityOf negative)
        else if spellsIgnoringCase rest "nan" then .ok (0.0 / 0.0)
        else .error .invalid

end IdFactory.Decimal
