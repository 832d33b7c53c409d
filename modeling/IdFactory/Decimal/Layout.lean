import IdFactory.Decimal.Shortest

namespace IdFactory.Decimal

/-!
# Writing a double

A double is written from its shortest decimal. A layout decides the rest:
where positional notation gives way to scientific notation (by the
exponent of the leading digit), whether an integral value keeps a `.0`, and
how NaN and the infinities are spelled. Negative zero keeps its sign.

Two layouts are used. Messages write every finite value positionally and
drop a fractional part of zero (`1`, `0.0000001`, `-0`). Reports write
leading exponents from -5 to 15 positionally, always with a point, and
the others in scientific notation (`1.0`, `0.00001`, `8.770684386370455e-49`).
-/

/-- The choices a writer of doubles makes beyond the digits. -/
structure Layout where
  /-- Leading exponents below this one are written in scientific notation. -/
  scientificBelow : Option Int
  /-- Leading exponents from this one on are written in scientific notation. -/
  scientificFrom : Option Int
  /-- Whether a positional integral value is followed by `.0`. -/
  pointZero : Bool
  nanText : String
  infinityText : String
  deriving Repr

/-- The layout of messages: always positional, no `.0`. -/
def Layout.plain : Layout where
  scientificBelow := none
  scientificFrom := none
  pointZero := false
  nanText := "NaN"
  infinityText := "inf"

/-- The layout of reports: positional for leading exponents -5 to 15, with a point. -/
def Layout.report : Layout where
  scientificBelow := some (-5)
  scientificFrom := some 16
  pointZero := true
  nanText := "NaN"
  infinityText := "inf"

/-- A run of zeros. -/
def zeros (count : Nat) : String :=
  String.ofList (List.replicate count '0')

/-- Whether a leading exponent is written in scientific notation. -/
def Layout.isScientific (layout : Layout) (lead : Int) : Bool :=
  (match layout.scientificBelow with | some b => lead < b | none => false) ||
  (match layout.scientificFrom with | some f => f ≤ lead | none => false)

/-- The text of a decimal's magnitude under a layout. -/
def Layout.magnitude (layout : Layout) (d : Scientific) : String :=
  let text := toString d.digits
  let count := text.length
  let lead : Int := d.exponent + count - 1
  let chars := text.toList
  if layout.isScientific lead then
    let fraction := chars.drop 1
    let mantissa := String.ofList (chars.take 1) ++
      (if fraction.isEmpty then "" else "." ++ String.ofList fraction)
    mantissa ++ "e" ++ toString lead
  else if count ≤ lead + 1 then
    text ++ zeros (lead + 1 - count).toNat ++ (if layout.pointZero then ".0" else "")
  else if 0 ≤ lead then
    String.ofList (chars.take (lead + 1).toNat) ++ "." ++ String.ofList (chars.drop (lead + 1).toNat)
  else
    "0." ++ zeros (-lead - 1).toNat ++ text

/-- The text of a double under a layout. -/
def Layout.render (layout : Layout) (x : Float) : String :=
  match kindOf x with
  | .nan => layout.nanText
  | .infinite negative => (if negative then "-" else "") ++ layout.infinityText
  | .finite b => (if b.negative then "-" else "") ++ layout.magnitude b.shortest

end IdFactory.Decimal
