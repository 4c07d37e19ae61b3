/-!
# Double-precision numbers

The finite numbers of binary64, each named by its sign and by its place among the non-negative
finite numbers in ascending order. Place `p` holds `significand * 2 ^ exponent`, where the first
`2 ^ 53` places lie on the finest grid `2 ^ -1074` and each later block of `2 ^ 52` places on a grid
twice as coarse. So equality of numbers is equality of places, the next number up has the next
place, and a carry in rounding needs no case of its own.

`FiniteDouble.round?` takes a fraction to the nearest number, ties to the even place, in exact
integer arithmetic.
-/

namespace LogTagger

/-- The number of places in a block. -/
def FiniteDouble.blockSize : Nat := 1 <<< 52

/-- The number of places below infinity. -/
def FiniteDouble.placeCount : Nat := 2047 * FiniteDouble.blockSize

/-- A finite binary64 number. -/
structure FiniteDouble where
  /-- The sign bit; zero has both signs. -/
  negative : Bool
  /-- The place of the absolute value among the non-negative finite numbers. -/
  place : Nat
  /-- The place is below that of infinity. -/
  finite : place < FiniteDouble.placeCount
  deriving DecidableEq

/-- A binary64 number. -/
inductive Double where
  /-- A finite number. -/
  | finite (x : FiniteDouble)
  /-- An infinity. -/
  | infinite (negative : Bool)
  /-- Not a number. -/
  | nan
  deriving DecidableEq

namespace FiniteDouble

/-- The whole multiple of the grid at which a place lies. -/
def significand (x : FiniteDouble) : Nat :=
  if x.place < blockSize then x.place else blockSize + x.place % blockSize

/-- The binary exponent of the grid on which a place lies. -/
def exponent (x : FiniteDouble) : Int := (max (x.place / blockSize) 1 : Nat) - 1075

/-- Zero, with a sign. -/
def zero (negative : Bool) : FiniteDouble := ⟨negative, 0, by decide⟩

/-- Whether the number is zero, of either sign. -/
def isZero (x : FiniteDouble) : Bool := x.place == 0

/-- The number with the other sign. -/
def neg (x : FiniteDouble) : FiniteDouble := { x with negative := !x.negative }

/-- `num / den` to the nearest whole number, ties to the even one. -/
def divideToEven (num den : Nat) : Nat :=
  let q := num / den
  let r := num % den
  if den < 2 * r ∨ (den = 2 * r ∧ q % 2 = 1) then q + 1 else q

/-- The binary exponent of the grid on which `num / den` is rounded: the quotient has 53 binary
digits on it, unless the finest grid is reached first. -/
def gridExponent (num den : Nat) : Int :=
  let guess : Int := (num.log2 : Int) - den.log2 - 53
  let wide := if 0 ≤ guess then num / (den <<< guess.toNat) else (num <<< (-guess).toNat) / den
  max (if 2 * blockSize ≤ wide then guess + 1 else guess) (-1074)

/-- The place nearest to `num / den`, ties to the even place; it may be that of infinity or above. -/
def nearestPlace (num den : Nat) : Nat :=
  if num = 0 then 0
  else
    let e := gridExponent num den
    let q := if 0 ≤ e then divideToEven num (den <<< e.toNat) else divideToEven (num <<< (-e).toNat) den
    (e + 1074).toNat * blockSize + q

/-- The finite number nearest to `num / den` with the given sign, or none if that is too large. -/
def round? (negative : Bool) (num den : Nat) : Option FiniteDouble :=
  let p := nearestPlace num den
  if h : p < placeCount then some ⟨negative, p, h⟩ else none

/-- The absolute value as a fraction: numerator and denominator. -/
def fraction (x : FiniteDouble) : Nat × Nat :=
  if 0 ≤ x.exponent then (x.significand <<< x.exponent.toNat, 1)
  else (x.significand, 1 <<< (-x.exponent).toNat)

/-- The rounded product of two absolute values, or none if it is too large. -/
def mul? (x y : FiniteDouble) : Option FiniteDouble :=
  round? (x.negative != y.negative) (x.fraction.1 * y.fraction.1) (x.fraction.2 * y.fraction.2)

/-- The rounded quotient by a number other than zero, or none if it is too large. -/
def div? (x y : FiniteDouble) : Option FiniteDouble :=
  round? (x.negative != y.negative) (x.fraction.1 * y.fraction.2) (x.fraction.2 * y.fraction.1)

/-- The number nearest to ten to the power `k`, or none if it is too large. -/
def powerOfTen? (k : Nat) : Option FiniteDouble := round? false (Nat.pow 10 k) 1

end FiniteDouble

end LogTagger
