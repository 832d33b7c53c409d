import IdFactory.Text.Quote

namespace IdFactory

/-!
# Identifiers

An identifier is a text. It is shown as the text itself, measured and
ordered by its UTF-8 bytes (lexicographically, a proper prefix first), and
equal to a text exactly when the texts are equal. Its debug view quotes the
text inside `Identifier(…)`.
-/

/-- An identifier handed out by the factory. -/
structure Identifier where
  text : String
  deriving Repr, DecidableEq, Hashable

namespace Identifier

/-- The UTF-8 bytes of an identifier. -/
def bytes (id : Identifier) : List UInt8 :=
  id.text.toUTF8.toList

/-- The length of an identifier in bytes. -/
def byteLength (id : Identifier) : Nat :=
  id.text.utf8ByteSize

/-- Lexicographic order on byte lists, a proper prefix first. -/
def compareBytes : List UInt8 → List UInt8 → Ordering
  | [], [] => .eq
  | [], _ :: _ => .lt
  | _ :: _, [] => .gt
  | a :: as, b :: bs =>
    match compare a b with
    | .eq => compareBytes as bs
    | order => order

/-- The order of two identifiers: the order of their bytes. -/
def order (x y : Identifier) : Ordering :=
  compareBytes x.bytes y.bytes

/-- The debug view `Identifier("…")`, the text quoted. -/
def debugView (id : Identifier) : String :=
  "Identifier(" ++ Text.quoteText id.text ++ ")"

end Identifier

end IdFactory
