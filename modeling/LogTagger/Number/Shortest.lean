import LogTagger.Number.Double

/-!
# Shortest decimals

The decimal `digits * 10 ^ power` with the fewest digits that rounds to a given finite number other
than zero. The numbers that round to `x` form an interval around it, with its ends when the
significand is even. On the decimal grids from coarse to fine, the two neighbours of the value are
tried; the first grid with a neighbour inside the interval gives the digits, and of two neighbours
inside it the nearer. Where both are as near, a `Tie` decides.
-/

namespace LogTagger

/-- A decimal: `digits * 10 ^ power`. -/
structure Decimal where
  /-- The digits as a whole number. -/
  digits : Nat
  /-- The power of ten of the last digit. -/
  power : Int
  deriving DecidableEq

/-- Which of two neighbours on a grid is taken when the value lies midway between them. -/
inductive Tie where
  /-- The even one. -/
  | toEven
  /-- The one further from zero. -/
  | awayFromZero
  deriving DecidableEq

namespace FiniteDouble

/-- The absolute value and the ends of the interval that rounds to it, over one denominator. -/
structure Neighbourhood where
  /-- The lower end. -/
  low : Nat
  /-- The value itself. -/
  value : Nat
  /-- The upper end. -/
  high : Nat
  /-- The common denominator. -/
  den : Nat
  /-- Whether the ends round to the value. -/
  closed : Bool

/-- The interval that rounds to the absolute value. The gap below the least significand of a
binade is half as wide as the gap above it. -/
def neighbourhood (x : FiniteDouble) : Neighbourhood :=
  let s := x.significand
  let e := x.exponent - 2
  let below := if s = blockSize ∧ x.exponent ≠ -1074 then 1 else 2
  let scale := 1 <<< e.toNat
  { low := (4 * s - below) * scale, value := 4 * s * scale, high := (4 * s + 2) * scale,
    den := 1 <<< (-e).toNat, closed := s % 2 = 0 }

namespace Neighbourhood

/-- `d * 10 ^ k` as a numerator over the common denominator times `gridDen k`. -/
def gridPoint (n : Neighbourhood) (k : Int) (d : Nat) : Nat := d * Nat.pow 10 k.toNat * n.den

/-- The factor that clears a negative power of ten. -/
def gridDen (k : Int) : Nat := Nat.pow 10 (-k).toNat

/-- Whether `d * 10 ^ k` rounds to the value. -/
def admits (n : Neighbourhood) (k : Int) (d : Nat) : Bool :=
  let p := n.gridPoint k d
  let low := n.low * gridDen k
  let high := n.high * gridDen k
  if n.closed then low ≤ p && p ≤ high else low < p && p < high

/-- The grid point just below or at the value, on the grid `10 ^ k`. -/
def floorOn (n : Neighbourhood) (k : Int) : Nat := n.value * gridDen k / (Nat.pow 10 k.toNat * n.den)

/-- Whether the grid point `d + 1` is to be preferred to `d`: it is nearer, or as near and the one
that the tie takes. -/
def prefersUpper (n : Neighbourhood) (tie : Tie) (k : Int) (d : Nat) : Bool :=
  let down := n.value * gridDen k - n.gridPoint k d
  let up := n.gridPoint k (d + 1) - n.value * gridDen k
  up < down || (up == down && (tie == .awayFromZero || d % 2 == 1))

/-- The neighbour of the value on the grid `10 ^ k` that rounds to it, if there is one. -/
def pick (n : Neighbourhood) (tie : Tie) (k : Int) : Option Nat :=
  let d := n.floorOn k
  match n.admits k d, n.admits k (d + 1) with
  | true, true => some (if n.prefersUpper tie k d then d + 1 else d)
  | true, false => some d
  | false, true => some (d + 1)
  | false, false => none

/-- The first grid from `10 ^ k` downwards with a neighbour that rounds to the value. -/
def search (n : Neighbourhood) (tie : Tie) : Nat → Int → Decimal
  | 0, k => ⟨n.floorOn k, k⟩
  | fuel + 1, k =>
    match n.pick tie k with
    | some d => ⟨d, k⟩
    | none => search n tie fuel (k - 1)

end Neighbourhood

/-- A power of ten above the absolute value of a number other than zero, by at most four places. -/
def powerAbove (x : FiniteDouble) : Int :=
  ((x.significand.log2 : Int) + x.exponent + 1) * 30103 / 100000 + 2

/-- The shortest decimal of a number other than zero: at most 17 digits are needed. -/
def shortest (x : FiniteDouble) (tie : Tie) : Decimal := x.neighbourhood.search tie 24 x.powerAbove

end FiniteDouble

end LogTagger
