namespace IdFactory.Text

/-!
# Reading UTF-8

A byte string is read as UTF-8 one scalar value at a time. When it is not
UTF-8 the reader reports how long the valid prefix is and, unless the bytes
simply end too early, how many bytes form the offending sequence: the longest
prefix of a well-formed sequence that is present, or one byte when even the
first byte cannot start a sequence.
-/

/-- Why a byte string is not UTF-8. -/
structure Utf8Error where
  /-- The number of bytes before the first bad sequence. -/
  validUpTo : Nat
  /-- The length of the bad sequence, or `none` when the input ends inside a sequence. -/
  errorLength : Option Nat
  deriving Repr, DecidableEq

/-- The text that describes a decoding failure. -/
def Utf8Error.message : Utf8Error → String
  | ⟨index, some length⟩ => s!"invalid utf-8 sequence of {length} bytes from index {index}"
  | ⟨index, none⟩ => s!"incomplete utf-8 byte sequence from index {index}"

/-- A continuation byte carries six payload bits under the tag `10`. -/
def isContinuation (byte : UInt8) : Bool :=
  byte &&& 0xC0 == 0x80

/-- The number of bytes a sequence takes, read off its first byte; zero for a byte that starts none. -/
def sequenceWidth (first : UInt8) : Nat :=
  if first < 0x80 then 1
  else if first < 0xC2 then 0
  else if first < 0xE0 then 2
  else if first < 0xF0 then 3
  else if first < 0xF5 then 4
  else 0

/-- The second byte of a three-byte sequence, whose range depends on the first byte
so that overlong forms and surrogates are excluded. -/
def secondOfThree (first second : UInt8) : Bool :=
  if first == 0xE0 then 0xA0 ≤ second && second ≤ 0xBF
  else if first == 0xED then 0x80 ≤ second && second ≤ 0x9F
  else 0x80 ≤ second && second ≤ 0xBF

/-- The second byte of a four-byte sequence, whose range excludes overlong forms and
values above U+10FFFF. -/
def secondOfFour (first second : UInt8) : Bool :=
  if first == 0xF0 then 0x90 ≤ second && second ≤ 0xBF
  else if first == 0xF4 then 0x80 ≤ second && second ≤ 0x8F
  else 0x80 ≤ second && second ≤ 0xBF

/-- The payload of a continuation byte. -/
def payload (byte : UInt8) : Nat :=
  (byte &&& 0x3F).toNat

/-- Decode from `offset`, pushing scalar values onto `decoded` in reverse. -/
def decodeFrom (offset : Nat) (decoded : List Char) : List UInt8 → Except Utf8Error (List Char)
  | [] => .ok decoded.reverse
  | first :: rest =>
    let width := sequenceWidth first
    if width = 1 then decodeFrom (offset + 1) (Char.ofNat first.toNat :: decoded) rest
    else if width = 2 then
      match rest with
      | [] => .error ⟨offset, none⟩
      | second :: tail =>
        if isContinuation second then
          let code := (first &&& 0x1F).toNat * 64 + payload second
          decodeFrom (offset + 2) (Char.ofNat code :: decoded) tail
        else .error ⟨offset, some 1⟩
    else if width = 3 then
      match rest with
      | [] => .error ⟨offset, none⟩
      | second :: tail =>
        if !secondOfThree first second then .error ⟨offset, some 1⟩
        else match tail with
          | [] => .error ⟨offset, none⟩
          | third :: tail =>
            if !isContinuation third then .error ⟨offset, some 2⟩
            else
              let code := (first &&& 0x0F).toNat * 4096 + payload second * 64 + payload third
              decodeFrom (offset + 3) (Char.ofNat code :: decoded) tail
    else if width = 4 then
      match rest with
      | [] => .error ⟨offset, none⟩
      | second :: tail =>
        if !secondOfFour first second then .error ⟨offset, some 1⟩
        else match tail with
          | [] => .error ⟨offset, none⟩
          | third :: tail =>
            if !isContinuation third then .error ⟨offset, some 2⟩
            else match tail with
              | [] => .error ⟨offset, none⟩
              | fourth :: tail =>
                if !isContinuation fourth then .error ⟨offset, some 3⟩
                else
                  let code := (first &&& 0x07).toNat * 262144 + payload second * 4096
                    + payload third * 64 + payload fourth
                  decodeFrom (offset + 4) (Char.ofNat code :: decoded) tail
    else .error ⟨offset, some 1⟩

/-- Read a byte string as UTF-8 text. -/
def decodeUtf8 (bytes : List UInt8) : Except Utf8Error String :=
  (decodeFrom 0 [] bytes).map String.ofList

/-- The UTF-8 bytes of a text. -/
def encodeUtf8 (text : String) : List UInt8 :=
  text.toUTF8.toList

end IdFactory.Text
