import IdFactory.Text.SpelledOut

namespace IdFactory.Text

/-!
# Quoted text

Quoting writes a character or a text between quote marks so that every
character can be seen. The backslash, the quote mark in use, and the common
controls get a short escape (`\0`, `\t`, `\r`, `\n`); every other character
that is not printable, or that extends the grapheme before it, is written as
`\u{hex}` with lowercase digits and no leading zeros; all others stand as
they are.

Texts are quoted with `"` and characters with `'`; inside a text the
apostrophe stands as it is, and inside a character the double quote does.
-/

/-- The quote mark that encloses a quoted item. -/
inductive QuoteMark where
  | double
  | single
  deriving Repr, DecidableEq

/-- The character of a quote mark. -/
def QuoteMark.toChar : QuoteMark → Char
  | .double => '"'
  | .single => '\''

/-- Lowercase hexadecimal digits of a number, without leading zeros. -/
def hexDigits (n : Nat) : List Char :=
  Nat.toDigits 16 n

/-- The escape `\u{hex}` for a code point. -/
def unicodeEscape (c : Char) : List Char :=
  ['\\', 'u', '{'] ++ hexDigits c.toNat ++ ['}']

/-- How one character is written inside a quoted item enclosed by `mark`. -/
def quoteChar (mark : QuoteMark) (c : Char) : List Char :=
  if c = '\x00' then ['\\', '0']
  else if c = '\t' then ['\\', 't']
  else if c = '\r' then ['\\', 'r']
  else if c = '\n' then ['\\', 'n']
  else if c = '\\' then ['\\', '\\']
  else if c = mark.toChar then ['\\', c]
  else if isSpelledOut c then unicodeEscape c
  else [c]

/-- A text between double quotes, every character written by `quoteChar`. -/
def quoteText (text : String) : String :=
  String.ofList ('"' :: text.toList.flatMap (quoteChar .double) ++ ['"'])

/-- A character between single quotes. -/
def quoteSingle (c : Char) : String :=
  String.ofList ('\'' :: quoteChar .single c ++ ['\''])

end IdFactory.Text
