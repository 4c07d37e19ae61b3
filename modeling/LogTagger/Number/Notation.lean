import LogTagger.Number.Shortest

/-!
# Written numbers

Two ways to write a double from its shortest digits. `Double.plain` is positional throughout, has no
point when the number is whole, and between two shortest decimals that are as near takes the one
further from zero. `FiniteDouble.scientific` is positional for a leading digit at `10 ^ -5` up to
`10 ^ 15`, marks a whole number by `.0`, elsewhere writes one digit before the point and a signed
exponent, and between two shortest decimals that are as near takes the even one.
-/

namespace LogTagger

namespace Decimal

/-- The digits as text. -/
def text (d : Decimal) : String := toString d.digits

/-- The power of ten of the leading digit. -/
def leading (d : Decimal) : Int := d.power + d.text.length - 1

/-- `n` zeros. -/
def zeros (n : Nat) : String := String.ofList (List.replicate n '0')

/-- Positional notation; `whole` follows a number without a fraction. -/
def positional (d : Decimal) (whole : String) : String :=
  if 0 ≤ d.power then d.text ++ zeros d.power.toNat ++ whole
  else if 0 ≤ d.leading then
    let before := d.leading.toNat + 1
    String.ofList (d.text.toList.take before) ++ "." ++ String.ofList (d.text.toList.drop before)
  else "0." ++ zeros (-d.leading - 1).toNat ++ d.text

/-- One digit, the others after a point, and the exponent with its sign. -/
def exponential (d : Decimal) : String :=
  let head := String.ofList (d.text.toList.take 1)
  let tail := String.ofList (d.text.toList.drop 1)
  let sign := if d.leading < 0 then "-" else "+"
  head ++ (if tail.isEmpty then "" else "." ++ tail) ++ "e" ++ sign ++ toString d.leading.natAbs

end Decimal

namespace FiniteDouble

/-- The minus sign of a negative number, zero included. -/
def sign (x : FiniteDouble) : String := if x.negative then "-" else ""

/-- Positional notation without a point for whole numbers. -/
def plain (x : FiniteDouble) : String :=
  x.sign ++ (if x.isZero then "0" else (x.shortest .awayFromZero).positional "")

/-- Notation with an exponent outside `10 ^ -5` to `10 ^ 15`. -/
def scientific (x : FiniteDouble) : String :=
  x.sign ++
    (if x.isZero then "0.0"
    else
      let d := x.shortest .toEven
      if -5 ≤ d.leading ∧ d.leading < 16 then d.positional ".0" else d.exponential)

end FiniteDouble

/-- Positional notation without a point for whole numbers; the others have names. -/
def Double.plain : Double → String
  | .finite x => x.plain
  | .infinite negative => if negative then "-inf" else "inf"
  | .nan => "NaN"

end LogTagger
