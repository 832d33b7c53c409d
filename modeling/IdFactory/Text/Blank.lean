namespace IdFactory.Text

/-!
# White space

The characters with the Unicode property White_Space: the ASCII tab, line
feed, vertical tab, form feed, carriage return and space, the next line
and no-break space controls, the Ogham space mark, the spaces from en quad
to hair space, the line and paragraph separators, the narrow no-break
space, the medium mathematical space and the ideographic space. A text is
trimmed by dropping them at both ends.
-/

/-- Whether a character has the Unicode property White_Space. -/
def isWhiteSpace (c : Char) : Bool :=
  let n := c.toNat
  (0x09 ≤ n && n ≤ 0x0D) || n == 0x20 || n == 0x85 || n == 0xA0 || n == 0x1680 ||
    (0x2000 ≤ n && n ≤ 0x200A) || n == 0x2028 || n == 0x2029 || n == 0x202F || n == 0x205F ||
    n == 0x3000

/-- A text without the white space at its ends. -/
def trimWhiteSpace (s : String) : String :=
  String.ofList ((s.toList.dropWhile isWhiteSpace).reverse.dropWhile isWhiteSpace).reverse

end IdFactory.Text
